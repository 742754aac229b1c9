import BenefitForm.Proofs.DocumentRecord

/-!
# Which document a selection means

A selection may be the content of one document and the identifier of another. It is
meant to be a content first and an identifier only where it is no content
(`Provenance.preferred?`), but the wallet is gone through once and each document is
compared with both. So a document with this identifier that stands before the first one
with this content is taken in its place; otherwise the two rules agree.

- `Provenance.select?_append`: a part of the wallet without the content is searched for
  the identifier alone.
- `selected_document`: for every wallet and selection, which document is found, and
  when it is the one that is meant.
-/

namespace BenefitForm

namespace Provenance

/-- The document that a selection is meant to be: the first one with this content, or else the
first one with this identifier. -/
def preferred? (documents : List WalletDocument) (s : Text) : Option WalletDocument :=
  (documents.find? fun d => d.content == s).or (documents.find? fun d => d.id == s)

/-- Whether a document has a selection for its identifier and stands before the first one that has
it for its content. -/
def Forestalled (documents : List WalletDocument) (s : Text) : Prop :=
  ∃ before e after, documents = before ++ e :: after ∧ (∀ d ∈ before, d.content ≠ s) ∧
    e.content = s ∧ ∃ d ∈ before, d.id = s

variable {documents before after : List WalletDocument} {e : WalletDocument} {s : Text}

/-! ### One search for both -/

/-- Nothing is found iff no document has the content or the identifier. -/
theorem select?_eq_none_iff :
    select? documents s = none ↔ ∀ d ∈ documents, d.content ≠ s ∧ d.id ≠ s := by
  simp [select?]

theorem select?_cons_of_content (h : e.content = s) : select? (e :: after) s = some e := by
  rw [select?, List.find?_cons_of_pos]
  simp [h]

/-- Where no document has the content, the identifier decides. -/
theorem select?_eq_of_content_ne (h : ∀ d ∈ before, d.content ≠ s) :
    select? before s = before.find? fun d => d.id == s := by
  rw [select?]
  refine List.find?_congr fun d hd => ?_
  rw [beq_eq_false_iff_ne.mpr (h d hd), Bool.false_or]

/-- Documents without the content are searched for the identifier before all others. -/
theorem select?_append (h : ∀ d ∈ before, d.content ≠ s) (rest : List WalletDocument) :
    select? (before ++ rest) s = (before.find? fun d => d.id == s).or (select? rest s) := by
  rw [← select?_eq_of_content_ne h]
  exact List.find?_append

/-! ### What is meant and what is found -/

/-- Either no document has the content, or a first one has it. -/
theorem content_cases (documents : List WalletDocument) (s : Text) :
    (∀ d ∈ documents, d.content ≠ s) ∨ ∃ before e after, documents = before ++ e :: after ∧
      (∀ d ∈ before, d.content ≠ s) ∧ e.content = s := by
  cases hfirst : documents.find? fun d => d.content == s with
  | none => exact .inl (by simpa using hfirst)
  | some e =>
    obtain ⟨hcontent, before, after, rfl, hbefore⟩ := List.find?_eq_some_iff_append.mp hfirst
    exact .inr ⟨before, e, after, rfl, by simpa using hbefore, beq_iff_eq.mp hcontent⟩

theorem preferred?_of_content (hbefore : ∀ d ∈ before, d.content ≠ s) (he : e.content = s) :
    preferred? (before ++ e :: after) s = some e := by
  have hnone : (before.find? fun d => d.content == s) = none := by simpa using hbefore
  rw [preferred?, List.find?_append, hnone, Option.none_or,
    List.find?_cons_of_pos (by simpa using he), Option.some_or]

/-- The first document with the content is told by the wallet alone. -/
theorem forestalled_iff (hbefore : ∀ d ∈ before, d.content ≠ s) (he : e.content = s) :
    Forestalled (before ++ e :: after) s ↔ ∃ d ∈ before, d.id = s := by
  constructor
  · rintro ⟨before', e', after', hsplit, hbefore', he', d, hd, hid⟩
    have hfirst : preferred? (before ++ e :: after) s = some e := preferred?_of_content hbefore he
    rw [hsplit, preferred?_of_content hbefore' he'] at hfirst
    obtain rfl : e' = e := Option.some.inj hfirst
    rcases List.append_eq_append_iff.mp hsplit with ⟨as, rfl, has⟩ | ⟨as, rfl, has⟩
    · -- what would stand between the two splits begins with the document itself
      cases as with
      | nil => exact ⟨d, by simpa using hd, hid⟩
      | cons a as =>
        cases has
        exact absurd he' (hbefore' _ (List.mem_append_right _ List.mem_cons_self))
    · exact ⟨d, List.mem_append_left _ hd, hid⟩
  · rintro hd
    exact ⟨before, e, after, rfl, hbefore, he, hd⟩

/-- The document that is found is the one that is meant, unless that one is forestalled. -/
theorem select?_eq_preferred?_iff :
    select? documents s = preferred? documents s ↔ ¬ Forestalled documents s := by
  rcases content_cases documents s with hnone | ⟨before, e, after, rfl, hbefore, he⟩
  · have hcontent : (documents.find? fun d => d.content == s) = none := by simpa using hnone
    rw [select?_eq_of_content_ne hnone, preferred?, hcontent, Option.none_or]
    refine iff_of_true rfl ?_
    rintro ⟨before, e, after, rfl, -, he, -⟩
    exact hnone e (List.mem_append_right _ List.mem_cons_self) he
  · rw [forestalled_iff hbefore he, select?_append hbefore, select?_cons_of_content he,
      preferred?_of_content hbefore he]
    -- what is found differs only if a document before has the identifier
    cases hid : before.find? fun d => d.id == s with
    | none => simpa using hid
    | some d =>
      have hd : d ∈ before := List.mem_of_find?_eq_some hid
      have hds : d.id = s := by simpa using List.find?_some hid
      rw [Option.some_or, Option.some.injEq]
      exact iff_of_false (fun hde => hbefore d hd (hde ▸ he)) (not_not_intro ⟨d, hd, hds⟩)

/-- Where the document that is meant is forestalled, the first one with the identifier is found. -/
theorem select?_of_forestalled (h : Forestalled documents s) :
    select? documents s = documents.find? fun d => d.id == s := by
  obtain ⟨before, e, after, rfl, hbefore, -, d, hd, hid⟩ := h
  have hfound : (before.find? fun d => d.id == s).isSome = true :=
    List.find?_isSome.mpr ⟨d, hd, beq_iff_eq.mpr hid⟩
  obtain ⟨d', hd'⟩ := Option.isSome_iff_exists.mp hfound
  rw [select?_append hbefore, List.find?_append, hd', Option.some_or, Option.some_or]

end Provenance

/-! ### Selections and records -/

/-- What the wallet tells about a selection is what the document that is found tells. -/
theorem Provenance.document?_ofText (settings : Settings) (documents : List WalletDocument)
    (s : Text) : (ofText settings documents s).document? = select? documents s := by
  rw [ofText]
  cases select? documents s <;> rfl

/-- The record of a selection has the type and the issuer that the wallet tells. -/
theorem SubmittedDocument.provenance_of_create {settings : Settings} {wallet : Wallet.Input}
    {documents : List WalletDocument} (hload : wallet.load.outcome = .ok documents)
    {selected : Json} {p : Provenance}
    (hp : Provenance.ofSelection settings selected documents = .ok p) {name content : Text}
    {property : Json} {r : SubmittedDocument}
    (hr : (create settings name selected content property wallet).outcome = .ok r) :
    r.type = p.documentType ∧ r.importedFrom = p.issuer := by
  simp only [create, Trace.outcome_bind, Trace.outcome_liftFault, hload, hp, mapError_ok,
    ok_bind] at hr
  obtain ⟨members, -, hr⟩ := bind_eq_ok_iff.mp hr
  split at hr <;>
  · simp only [Trace.outcome_bind, Trace.outcome_note, Trace.outcome_pure, Trace.outcome_liftFault,
      bind_eq_ok_iff] at hr
    grind

/-- What is found for a selected text, and what is told of it. -/
structure Provenance.Finds (p : Provenance) (settings : Settings) (documents : List WalletDocument)
    (s : Text) : Prop where
  /-- The document that is found is the one that is meant iff that one is not forestalled. -/
  meant : p.document? = preferred? documents s ↔ ¬ Forestalled documents s
  /-- Otherwise it is the first one with the text for its identifier. -/
  forestalled : Forestalled documents s → p.document? = documents.find? fun d => d.id == s
  /-- None is found iff the text is neither the content nor the identifier of any. -/
  missing : p.document? = none ↔ ∀ d ∈ documents, d.content ≠ s ∧ d.id ≠ s
  /-- The type and the issuer are those of the document, or else the usual ones. -/
  told : p = (p.document?.map (ofDocument settings)).getD (unresolved settings)

theorem Provenance.finds_ofText (settings : Settings) (documents : List WalletDocument) (s : Text) :
    (ofText settings documents s).Finds settings documents s where
  meant := by
    rw [document?_ofText]
    exact select?_eq_preferred?_iff
  forestalled h := by
    rw [document?_ofText]
    exact select?_of_forestalled h
  missing := by
    rw [document?_ofText]
    exact select?_eq_none_iff
  told := by
    rw [document?_ofText, ofText]
    cases select? documents s <;> rfl

/-- For every wallet and every selection with a value, the document that is found is the first one
with this content, or else the first one with this identifier, iff no document with this identifier
stands before the first one with this content; and the records of the selection say where that
document comes from. -/
theorem selected_document {settings : Settings} {wallet : Wallet.Input}
    {documents : List WalletDocument} (hload : wallet.load.outcome = .ok documents)
    {selected : Json} (htruthy : selected.truthy = true) {s : Text}
    (hplain : selected.plain = .ok s) :
    ∃ p, Provenance.ofSelection settings selected documents = .ok p ∧
      p.Finds settings documents s ∧
      ∀ name content property r,
        (SubmittedDocument.create settings name selected content property wallet).outcome = .ok r →
        r.type = p.documentType ∧ r.importedFrom = p.issuer := by
  have hp := Provenance.ofSelection_eq_ok settings documents htruthy hplain
  refine ⟨_, hp, Provenance.finds_ofText settings documents s, fun name content property r hr => ?_⟩
  exact SubmittedDocument.provenance_of_create hload hp hr

/-- A document with the given identifier, type, proof and content. -/
def entry (id type subtype content : String) : WalletDocument :=
  { id := Text.ofString id, type := Text.ofString type, subtype := Text.ofString subtype
    content := Text.ofString content }

/-- The identifier of the first document is the content of the second. -/
def overlapping : List WalletDocument := [entry "x" "A" "p" "y", entry "2" "B" "p" "x"]

/-- The records of a wallet whose first document has the content of the second for its
identifier. -/
theorem selected_document_of_overlapping :
    ∃ p, Provenance.ofSelection .standard (Json.text "x") overlapping = .ok p ∧
      p.Finds .standard overlapping (Text.ofString "x") ∧
      ∀ name content property r,
        (SubmittedDocument.create .standard name (Json.text "x") content property
          (.records (.array (overlapping.map WalletDocument.toJson)))).outcome = .ok r →
        r.type = p.documentType ∧ r.importedFrom = p.issuer :=
  selected_document (by decide +kernel) rfl rfl

/-- The first document with a content need not be found: one before it has the content for its
identifier and is found instead. -/
theorem selected_document_forestalled :
    Provenance.ofSelection .standard (Json.text "x") overlapping
        = .ok (Provenance.ofDocument .standard (entry "x" "A" "p" "y")) ∧
      Provenance.preferred? overlapping (Text.ofString "x") = some (entry "2" "B" "p" "x") ∧
      entry "x" "A" "p" "y" ≠ entry "2" "B" "p" "x" := by
  refine ⟨?_, by decide +kernel, by decide +kernel⟩
  rw [Provenance.ofSelection_eq_ok .standard overlapping rfl rfl]
  rfl

end BenefitForm
