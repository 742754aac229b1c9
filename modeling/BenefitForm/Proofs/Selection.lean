import BenefitForm.Proofs.Plan
import BenefitForm.Proofs.RequiredDocument
import BenefitForm.Proofs.SelectedDocument

/-!
# Where a selected document comes from

A selector offers the contents of the wallet documents that match its proofs, and
a submission looks the selected content up again, in two ways: the proof by its
position among the options, the type and the issuer by the content in the whole
wallet. Both find a first document with that content, the first among the
matching ones and the first of all; they are one document unless the latter is of
a proof that the field does not accept.

- `selectedSubtype_property`: the proof is that of the first matching document.
- `ofText_of_find?`: the type and the issuer are those of the first document.
- `selection_provenance`: what the submission of any option records.
-/

namespace BenefitForm

open FormProperty

/-! ### Looking up an option -/

/-- The proof of an option is that of the first matching document with its content. -/
theorem selectedSubtype_property {settings : Settings} {documents : List WalletDocument}
    {plan : DocumentPlan} {v : Text} {d : WalletDocument}
    (hd : (Wallet.matching plan.proofs documents).find? (fun x => x.content == v) = some d)
    (hsubtype : d.subtype ≠ []) :
    (plan.property settings documents).selectedSubtype (.string v) = d.subtype := by
  have hvalues : ((plan.property settings documents).values?.getD [])
      = (Wallet.matching plan.proofs documents).map (·.content) := by
    show (if ((Wallet.matching plan.proofs documents).map (·.content)).isEmpty then [[]]
      else (Wallet.matching plan.proofs documents).map (·.content)) = _
    refine if_neg fun hempty => ?_
    rw [List.isEmpty_iff, List.map_eq_nil_iff] at hempty
    rw [hempty] at hd
    cases hd
  have hposition : (plan.property settings documents).position? (.string v)
      = (Wallet.matching plan.proofs documents).findIdx? fun x => x.content == v := by
    rw [position?, hvalues, List.findIdx?_map]
    exact congrArg (List.findIdx? · _) (funext fun x => Json.string_beq x.content v)
  have hnames : ((plan.property settings documents).valueNames?.getD [])
      = (Wallet.matching plan.proofs documents).map (·.subtype) := rfl
  have hfound : ((plan.property settings documents).position? (.string v)).bind
      (fun i => ((plan.property settings documents).valueNames?.getD [])[i]?) = some d.subtype := by
    obtain ⟨i, hi, hget⟩ := Option.bind_eq_some_iff.mp
      (List.find?_eq_bind_findIdx?_getElem?.symm.trans hd)
    rw [hposition, hi, Option.bind_some, hnames, List.getElem?_map, hget, Option.map_some]
  rw [selectedSubtype, hfound, Option.getD_some, Provenance.textOr,
    if_neg (by simpa using hsubtype)]

/-- The type and the issuer are those of the first document with the content, where no document
before it has the content for its identifier. -/
theorem ofText_of_find? {settings : Settings} {documents : List WalletDocument} {v : Text}
    {e : WalletDocument} (he : documents.find? (fun x => x.content == v) = some e)
    (hid : ∀ x ∈ documents.takeWhile (fun x => x.content != v), x.id ≠ v) :
    Provenance.ofText settings documents v = Provenance.ofDocument settings e := by
  obtain ⟨hcontent, before, after, rfl, hbefore⟩ := List.find?_eq_some_iff_append.mp he
  have hne : ∀ x ∈ before, x.content ≠ v := by simpa using hbefore
  have htake : (before ++ e :: after).takeWhile (fun x => x.content != v) = before := by
    rw [List.takeWhile_append_of_pos (by simpa using hne), List.takeWhile_cons_of_neg
      (by simpa using hcontent), List.append_nil]
  have hnone : (before.find? fun x => x.id == v) = none := by
    rw [htake] at hid
    simpa using hid
  rw [Provenance.ofText, Provenance.select?_append hne, hnone, Option.none_or,
    Provenance.select?_cons_of_content (beq_iff_eq.mp hcontent)]

/-- Where a matching document has a content, a first document of all has it. -/
theorem exists_find?_of_matching {proofs : List ProofType} {documents : List WalletDocument}
    {v : Text} {d : WalletDocument}
    (hd : (Wallet.matching proofs documents).find? (fun x => x.content == v) = some d) :
    ∃ e, documents.find? (fun x => x.content == v) = some e := by
  have hmem : d ∈ documents := (List.mem_filter.mp (List.mem_of_find?_eq_some hd)).1
  have hcontent : (d.content == v) = true :=
    List.find?_some (p := fun x : WalletDocument => x.content == v) hd
  exact Option.isSome_iff_exists.mp (List.find?_isSome.mpr ⟨d, hmem, hcontent⟩)

/-- The first document of all with a content is the first matching one, if it matches. -/
theorem find?_matching_of_mem {proofs : List ProofType} {documents : List WalletDocument}
    {v : Text} {e : WalletDocument} (he : documents.find? (fun x => x.content == v) = some e)
    (hproof : e.subtype ∈ proofs) :
    (Wallet.matching proofs documents).find? (fun x => x.content == v) = some e := by
  -- a document before the first one has another content, so it is passed over, matching or not
  induction documents with
  | nil => cases he
  | cons x documents ih =>
    rw [List.find?_cons] at he
    rw [Wallet.matching, List.filter_cons]
    by_cases hx : x.content = v
    · rw [beq_iff_eq.mpr hx] at he
      cases he
      rw [if_pos (by simpa using hproof), List.find?_cons, beq_iff_eq.mpr hx]
    · rw [beq_eq_false_iff_ne.mpr hx] at he
      split
      · rw [List.find?_cons, beq_eq_false_iff_ne.mpr hx]
        exact ih he
      · exact ih he

/-! ### Submitting one value -/

namespace FormProperty

variable (settings : Settings) (held : List WalletDocument)

/-- A field that is not filled has no record. -/
theorem recordAmong_of_ne {name : Text} {v : Json} {q : FormProperty} (h : q.name ≠ name) :
    q.recordAmong settings held [(name, v)] = .ok none := by
  have habsent : Members.get? [(name, v)] q.name = none := by
    rw [Members.get?_cons, if_neg (by simpa using h), Members.get?_nil]
  rw [recordAmong, habsent]
  rfl

/-- Fields that are not filled have no records. -/
theorem mapM_recordAmong_of_ne {name : Text} {v : Json} {qs : List FormProperty}
    (h : ∀ q ∈ qs, q.name ≠ name) :
    qs.mapM (recordAmong settings held [(name, v)]) = .ok (List.replicate qs.length none) := by
  rw [mapM_congr fun q hq => recordAmong_of_ne settings held (h q hq), ← List.map_const']
  exact List.mapM_pure

/-- Of fields with different names the one that is filled is the only one to have a record. -/
theorem mapM_recordAmong_of_mem {qs : List FormProperty} (hn : (qs.map (·.name)).Nodup)
    {p : FormProperty} (hp : p ∈ qs) {v : Text} (hv : v ≠ []) :
    ∃ m n, qs.mapM (recordAmong settings held [(p.name, .string v)]) = (do
      let content ← (Content.encodeText v).mapError fun _ => Failure.encodingFailed
      return List.replicate m none ++ some (p.fieldRecord settings held (.string v) v content)
        :: List.replicate n none) := by
  -- the other fields, before and after, have other names and hence no records
  obtain ⟨before, after, rfl⟩ := List.append_of_mem hp
  rw [List.map_append, List.map_cons, List.nodup_middle, List.nodup_cons, List.mem_append,
    not_or] at hn
  have hbefore : ∀ q ∈ before, q.name ≠ p.name := fun q hq he =>
    hn.1.1 (he ▸ List.mem_map_of_mem (f := FormProperty.name) hq)
  have hafter : ∀ q ∈ after, q.name ≠ p.name := fun q hq he =>
    hn.1.2 (he ▸ List.mem_map_of_mem (f := FormProperty.name) hq)
  have hself : Members.get? [(p.name, Json.string v)] p.name = some (.string v) := by
    rw [Members.get?_cons, if_pos (beq_self_eq_true _)]
  refine ⟨before.length, after.length, ?_⟩
  rw [List.mapM_append, mapM_recordAmong_of_ne settings held hbefore, List.mapM_cons,
    mapM_recordAmong_of_ne settings held hafter, recordAmong_of_text hself hv]
  cases Content.encodeText v <;> rfl

end FormProperty

namespace Compiled

variable {settings : Settings} {fields : FieldInput} {feed : Json} {wallet : Wallet.Input}
  {form : FormSchema} {rules : NormalizedRules} {documents : List WalletDocument}
  {plans : List DocumentPlan}

/-- A submission of one document field consists of its record, or ends because the value has no
encoding. -/
theorem classify_single (h : Compiled settings fields feed wallet form rules documents plans)
    {p : FormProperty} (hp : p ∈ formProperties settings fields.read.fields documents plans)
    (hsubmitted : p.isSubmitted = true) {v : Text} (hv : v ≠ []) :
    (Submission.classify settings (.object [(p.name, .string v)]) (.form form) wallet
      .null).outcome = (do
        let content ← (Content.encodeText v).mapError fun _ => Failure.encodingFailed
        let r := p.fieldRecord settings documents (.string v) v content
        return { files := r.file?.toList, documents := r.document?.toList }) := by
  have hmem : p ∈ (formProperties settings fields.read.fields documents plans).filter
      (·.isSubmitted) := List.mem_filter.mpr ⟨hp, hsubmitted⟩
  have hn : (((formProperties settings fields.read.fields documents plans).filter
      (·.isSubmitted)).map (·.name)).Nodup :=
    (List.filter_sublist.map _).nodup (nodup_formProperties ..)
  have hpersonal : Submission.isPersonal (form.documentNames.map .text) (.text p.name) = false := by
    have hname : form.documentNames.contains p.name = true :=
      List.contains_iff_mem.mpr (h.mem_documentNames_iff.mpr ⟨p, hp, hsubmitted, rfl⟩)
    rw [Submission.isPersonal, Key.contains_map_text, hname]
    rfl
  obtain ⟨m, n, hrun⟩ := mapM_recordAmong_of_mem settings documents hn hmem hv
  rw [h.outcome_classify, h.loaded, ok_bind, hrun]
  cases Content.encodeText v with
  | error e => rfl
  | ok content =>
    have hnone : (Entries.ofMembers [(p.name, Json.string v)]).filter (fun m =>
        Submission.isPersonal (form.documentNames.map .text) m.1 && !m.2.isNull) = [] := by
      rw [List.filter_eq_nil_iff]
      intro m hm
      rw [List.mem_singleton.mp hm, hpersonal]
      exact Bool.false_ne_true
    simp only [mapError_ok, ok_bind, pure_eq_ok, hnone]
    generalize p.fieldRecord settings documents (.string v) v content = r
    cases r <;> simp [List.filterMap_cons, FieldRecord.file?, FieldRecord.document?]

end Compiled

/-! ### Submitting an option -/

/-- How the submission of an option of a document field ends, and where what is recorded of it
comes from. -/
structure Recovers (settings : Settings) (documents : List WalletDocument)
    (proofs : List ProofType) (v : Text) (outcome : Except Failure Submission) : Prop where
  /-- An option with a surrogate has no encoding. -/
  unencodable : (∃ c ∈ v, c.isSurrogate = true) → outcome = .error .encodingFailed
  /-- Any other one becomes a document: `d` is the first document that the field accepts with this
  content and tells the proof, `e` is the first of all with this content and tells the rest. -/
  document : (∀ c ∈ v, c.isSurrogate = false) → ∃ s r d e, outcome = .ok s ∧
    s.files = [] ∧ s.documents = [r] ∧
    (Wallet.matching proofs documents).find? (fun x => x.content == v) = some d ∧
    documents.find? (fun x => x.content == v) = some e ∧ (e.subtype ∈ proofs → e = d) ∧
    r.subtype = .string d.subtype ∧
    ((∀ x ∈ documents.takeWhile (fun x => x.content != v), x.id ≠ v) →
      r.type = Provenance.textOr unknownType e.type ∧
      r.importedFrom = Provenance.textOr settings.issuer e.importedFrom)

/-- A non-empty option of a document field is the content of a document that the field accepts. -/
theorem exists_find?_of_mem_values {settings : Settings} {documents : List WalletDocument}
    {plan : DocumentPlan} {v : Text}
    (hv : v ∈ (plan.property settings documents).values?.getD []) (hne : v ≠ []) :
    ∃ d, (Wallet.matching plan.proofs documents).find? (fun x => x.content == v) = some d := by
  have hcontents : v ∈ (Wallet.matching plan.proofs documents).map (·.content) := by
    change v ∈ (if ((Wallet.matching plan.proofs documents).map (·.content)).isEmpty then [[]]
      else (Wallet.matching plan.proofs documents).map (·.content)) at hv
    split at hv
    · exact absurd (List.mem_singleton.mp hv) hne
    · exact hv
  obtain ⟨x, hx, rfl⟩ := List.mem_map.mp hcontents
  exact Option.isSome_iff_exists.mp (List.find?_isSome.mpr ⟨x, hx, beq_self_eq_true _⟩)

/-- Every non-empty option of every document field that is no file upload is submitted with the
proof of the first matching document and the type and issuer of the first document with its
content. -/
theorem selection_provenance {settings : Settings} {fields : FieldInput} {feed : Json}
    {wallet : Wallet.Input} {title benefitId : Json} {form : FormSchema}
    (hform : (compileForm settings fields feed wallet title benefitId).outcome = .ok form) :
    ∃ rules documents plans, (RuleFeed.normalize feed).outcome = .ok rules ∧
      wallet.load.outcome = .ok documents ∧ DocumentFields.plans rules = .ok plans ∧
      ∀ plan ∈ plans,
        (candidates settings fields.read.fields documents plans).find?
          (fun q => q.name == plan.name) = some (plan.property settings documents) →
        Upload.isUploadName settings.uploadPatterns plan.name = false →
        ∀ v ∈ (plan.property settings documents).values?.getD [], v ≠ [] →
          Recovers settings documents plan.proofs v
            (Submission.classify settings (.object [(plan.name, .string v)]) (.form form) wallet
              .null).outcome := by
  obtain ⟨rules, documents, plans, hc⟩ := compileForm_ok hform
  refine ⟨rules, documents, plans, hc.normalized, hc.loaded, hc.planned, ?_⟩
  intro plan hplan hfirst hupload v hv hne
  have hp : plan.property settings documents
      ∈ formProperties settings fields.read.fields documents plans :=
    (mem_firstsBy_iff FormProperty.name).mpr hfirst
  have houtcome : (Submission.classify settings (.object [(plan.name, .string v)]) (.form form)
      wallet .null).outcome = _ := hc.classify_single hp rfl hne
  have hfile : (plan.property settings documents).isUpload settings = false := hupload
  obtain ⟨d, hd⟩ := exists_find?_of_mem_values hv hne
  have hdmem : d ∈ Wallet.matching plan.proofs documents := List.mem_of_find?_eq_some hd
  have hproof : d.subtype ∈ plan.proofs := by simpa using (List.mem_filter.mp hdmem).2
  constructor
  case unencodable =>
    rintro ⟨c, hcv, hsurrogate⟩
    obtain ⟨e, he⟩ := Content.exists_encodeText_error hcv hsurrogate
    rw [houtcome, he]
    rfl
  case document =>
    intro hplain
    obtain ⟨content, hcontent⟩ := Content.exists_encodeText hplain
    obtain ⟨e, he⟩ := exists_find?_of_matching hd
    rw [houtcome, hcontent]
    refine ⟨_, (plan.property settings documents).submitted settings documents (.string v) v
      content, d, e, rfl, ?_, ?_, hd, he, ?_, ?_, ?_⟩
    · rw [fieldRecord_of_not_isUpload hfile]
      rfl
    · rw [fieldRecord_of_not_isUpload hfile]
      rfl
    · intro heproof
      exact Option.some.inj ((find?_matching_of_mem he heproof).symm.trans hd)
    · exact congrArg Json.string (selectedSubtype_property hd
        (DocumentFields.proof_ne_nil (RuleFeed.sound_of_normalize hc.normalized) hc.planned hplan
          hproof))
    · intro hid
      show (Provenance.ofText settings documents v).documentType = _ ∧
        (Provenance.ofText settings documents v).issuer = _
      rw [ofText_of_find? he hid]
      exact ⟨rfl, rfl⟩

/-- The field that `requiring` makes. -/
def requiredPlan (proof : String) : DocumentPlan :=
  DocumentRule.planFor ⟨Text.ofString "t", [Text.ofString proof], true⟩ (Text.ofString proof)

/-- The second of two documents is offered and submitted. -/
theorem selection_provenance_of_second :
    ∃ form, (compileForm .standard (.flat []) (requiring "p")
        (.documents [entry "1" "A" "q" "y", entry "2" "B" "p" "x"]) .null .null).outcome
          = .ok form ∧
      Recovers .standard [entry "1" "A" "q" "y", entry "2" "B" "p" "x"] [Text.ofString "p"]
        (Text.ofString "x") (Submission.classify .standard (.object (filling "p" "x")) (.form form)
          (.documents [entry "1" "A" "q" "y", entry "2" "B" "p" "x"]) .null).outcome := by
  have hplans : ((RuleFeed.normalize (requiring "p")).outcome.toOption.bind fun rules =>
      (DocumentFields.plans rules).toOption) = some [requiredPlan "p"] := by decide +kernel
  have hcompiled : ((compileForm .standard (.flat []) (requiring "p")
      (.documents [entry "1" "A" "q" "y", entry "2" "B" "p" "x"]) .null .null).outcome.toOption.any
        fun _ => true) = true := by decide +kernel
  obtain ⟨form, hform, -⟩ := exists_ok_of_any hcompiled
  obtain ⟨rules, documents, plans, hrules, hdocuments, hof, hall⟩ := selection_provenance hform
  rw [hrules] at hplans
  change (DocumentFields.plans rules).toOption = _ at hplans
  rw [hof] at hplans
  cases hplans
  cases hdocuments
  exact ⟨form, hform, hall (requiredPlan "p") List.mem_cons_self (by rfl) (by decide +kernel)
    (Text.ofString "x") (by decide +kernel) (by decide)⟩

/-- Whether a form offers an option. -/
def FormSchema.offers (form : FormSchema) (name v : Text) : Bool :=
  match Members.get? form.properties name with
  | some (.object members) =>
    ((Json.member members "enum").asArray?.getD []).any fun option => option == .string v
  | _ => false

/-- The option of a field is submitted as one document, whose type is that of no document with the
content and the proof of the field. -/
def Misattributed (wallet : List WalletDocument) (proof v : String) : Prop :=
  ∃ form s r, (compileForm .standard (.flat []) (requiring proof) (.documents wallet) .null
      .null).outcome = .ok form ∧
    form.offers (Text.ofString proof) (Text.ofString v) = true ∧
    (Submission.classify .standard (.object (filling proof v)) (.form form) (.documents wallet)
      .null).outcome = .ok s ∧ s.documents = [r] ∧
    ∀ d ∈ wallet, d.content = Text.ofString v → d.subtype = Text.ofString proof →
      r.type ≠ Provenance.textOr unknownType d.type

theorem misattributed_of_any {wallet : List WalletDocument} {proof v : String}
    (h : ((compileForm .standard (.flat []) (requiring proof) (.documents wallet) .null
      .null).outcome.toOption.any fun form =>
        form.offers (Text.ofString proof) (Text.ofString v) &&
        (Submission.classify .standard (.object (filling proof v)) (.form form) (.documents wallet)
          .null).outcome.toOption.any fun s =>
            match s.documents with
            | [r] => wallet.all fun d => d.content ≠ Text.ofString v ∨
                d.subtype ≠ Text.ofString proof ∨ r.type ≠ Provenance.textOr unknownType d.type
            | _ => false) = true) :
    Misattributed wallet proof v := by
  obtain ⟨form, hform, h⟩ := exists_ok_of_any h
  rw [Bool.and_eq_true] at h
  obtain ⟨s, hs, hdocuments⟩ := exists_ok_of_any h.2
  split at hdocuments
  · rename_i r hr
    refine ⟨form, s, r, hform, h.1, hs, hr, fun d hd hcontent hsubtype => ?_⟩
    have hor := of_decide_eq_true (List.all_eq_true.mp hdocuments d hd)
    exact (hor.resolve_left (not_not_intro hcontent)).resolve_left (not_not_intro hsubtype)
  · cases hdocuments

/-- Half of a surrogate pair. -/
def loneSurrogate : Text := [⟨0xD800, by decide⟩]

/-- Whether a failure ends the submission of an option that is a lone surrogate. -/
def isRefused (form : FormSchema) (wallet : List WalletDocument) (proof : String) : Bool :=
  form.offers (Text.ofString proof) loneSurrogate &&
    (match (Submission.classify .standard (.object [(Text.ofString proof, .string loneSurrogate)])
      (.form form) (.documents wallet) .null).outcome with
    | .error e => e = .encodingFailed
    | .ok _ => false)

/-- The first document of all with the selected content need not be one that the field accepts, a
document before it may have the content for its identifier, and an option may have no encoding. -/
theorem selection_misattributed :
    Misattributed [entry "1" "A" "q" "x", entry "2" "B" "p" "x"] "p" "x" ∧
      Misattributed [entry "x" "A" "q" "y", entry "2" "B" "p" "x"] "p" "x" ∧
      ∃ form, (compileForm .standard (.flat []) (requiring "p")
          (.documents [{ entry "1" "A" "p" "" with content := loneSurrogate }]) .null .null).outcome
            = .ok form ∧
        isRefused form [{ entry "1" "A" "p" "" with content := loneSurrogate }] "p" = true :=
  ⟨misattributed_of_any (by decide +kernel), misattributed_of_any (by decide +kernel),
    exists_ok_of_any (by decide +kernel)⟩

end BenefitForm
