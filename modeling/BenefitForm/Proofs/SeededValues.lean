import BenefitForm.Proofs.CatalogGrouping
import BenefitForm.Proofs.DeclarationOrder
import BenefitForm.Proofs.Payload

/-!
# Values that a form starts with

The form of a catalog starts with values from the pre-fill data: those of the names that
are no document fields, as texts, and the external application under `orderId`. The last
one is written whatever `orderId` is in the form, so it may be the name of a document
field, and it replaces a value of this name. All other names are personal ones.

- `Prefill.seeded_of_seed`: what seeding alone gives.
- `Prefill.Seeding`, `Prefill.seeding_of_formData`: what the first values are.
- `Compiled.sound_finding_of_texts`: of texts a form finds no wrong type, and its
  findings can be told.
- `compileCatalog_seeds`: the values that the form of a catalog starts with.
-/

namespace BenefitForm

/-! ### Members that are written -/

namespace Members

variable {κ α : Type} [BEq κ] [LawfulBEq κ]

/-- Writing under a key leaves the members of other keys, and the one that is written. -/
theorem mem_set_iff {ms : List (κ × α)} {k l : κ} {v w : α} :
    (l, w) ∈ set ms k v ↔ l = k ∧ w = v ∨ l ≠ k ∧ (l, w) ∈ ms := by
  cases hk : contains ms k with
  | true =>
    rw [set, if_pos hk, List.mem_map]
    constructor
    · rintro ⟨⟨l', w'⟩, hm, heq⟩
      by_cases hl : l' = k
      · rw [if_pos (beq_iff_eq.mpr hl)] at heq
        cases heq
        exact .inl ⟨hl, rfl⟩
      · rw [if_neg (mt beq_iff_eq.mp hl)] at heq
        cases heq
        exact .inr ⟨hl, hm⟩
    · rintro (⟨rfl, rfl⟩ | ⟨hl, hm⟩)
      · obtain ⟨m, hm, hkey⟩ := List.any_eq_true.mp hk
        exact ⟨m, hm, by rw [if_pos hkey, beq_iff_eq.mp hkey]⟩
      · exact ⟨_, hm, if_neg (mt beq_iff_eq.mp hl)⟩
  | false =>
    have hnone : ∀ w, (k, w) ∉ ms := fun w hm =>
      Bool.false_ne_true (hk.symm.trans (contains_iff.mpr (List.mem_map_of_mem hm)))
    rw [set_of_contains_eq_false hk, List.mem_append, List.mem_singleton, Prod.mk.injEq]
    by_cases hl : l = k
    · subst hl
      simp [hnone]
    · simp [hl]

/-- Writing under a key leaves the other keys in their order. -/
theorem filter_keys_set (ms : List (κ × α)) (k : κ) (v : α) :
    (keys (set ms k v)).filter (· != k) = (keys ms).filter (· != k) := by
  cases hk : contains ms k with
  | true => rw [keys_set_of_contains hk]
  | false => simp [set_of_contains_eq_false hk, keys]

theorem nodup_keys_set {ms : List (κ × α)} (h : (keys ms).Nodup) (k : κ) (v : α) :
    (keys (set ms k v)).Nodup := by
  cases hk : contains ms k with
  | true => rwa [keys_set_of_contains hk]
  | false =>
    have hnew : k ∉ keys ms := fun hm => Bool.false_ne_true (hk.symm.trans (contains_iff.mpr hm))
    rw [set_of_contains_eq_false hk, keys, List.map_append]
    exact h.append (List.nodup_singleton k) (List.disjoint_singleton.mpr hnew)

end Members

/-! ### Seeding -/

namespace Prefill

/-- The text that data gives for a key. -/
def Gives (data : Members) (key t : Text) : Prop :=
  ∃ v, Members.get? data key = some v ∧ fieldText v = .ok t

/-- Seeding goes through the names and adds those that the data has. -/
theorem exists_of_seed {data : Members} {names : List Text} (hn : names.Nodup)
    {seeded result : List (Text × Text)}
    (hnew : ∀ name ∈ names, Members.contains seeded name = false)
    (h : seed (fun name => .ok (Members.get? data name)) names seeded = .ok result) :
    ∃ added, result = seeded ++ added ∧
      List.Forall₂ (fun name m => m.1 = name ∧ Gives data name m.2)
        (names.filter (Members.contains data)) added := by
  induction names generalizing seeded with
  | nil =>
    cases h
    exact ⟨[], (List.append_nil _).symm, .nil⟩
  | cons name rest ih =>
    obtain ⟨hname, hrest⟩ := List.nodup_cons.mp hn
    obtain ⟨hfirst, hothers⟩ := List.forall_mem_cons.mp hnew
    rw [seed, ok_bind] at h
    cases hget : Members.get? data name with
    | none =>
      have hout : Members.contains data name = false := by
        rw [← Bool.not_eq_true, Members.contains_iff]
        exact Members.get?_eq_none_iff.mp hget
      rw [hget] at h
      rw [List.filter_cons_of_neg (by simp [hout])]
      exact ih hrest hothers h
    | some v =>
      have hin : Members.contains data name = true :=
        Members.contains_iff.mpr (List.mem_map_of_mem (Members.mem_of_get? hget))
      rw [hget] at h
      obtain ⟨t, ht, h⟩ := bind_eq_ok_iff.mp h
      rw [Members.set_of_contains_eq_false hfirst] at h
      -- the name is not among the rest, so these are still new
      have hlater : ∀ other ∈ rest, Members.contains (seeded ++ [(name, t)]) other = false := by
        intro other hother
        have hne : name ≠ other := fun he => hname (he ▸ hother)
        have hfalse := hothers other hother
        rw [Members.contains] at hfalse ⊢
        rw [List.any_append, hfalse, Bool.false_or, List.any_cons, List.any_nil, Bool.or_false]
        exact beq_eq_false_iff_ne.mpr hne
      obtain ⟨added, hresult, hadded⟩ := ih hrest hlater h
      rw [List.filter_cons_of_pos hin]
      exact ⟨(name, t) :: added, by rw [hresult, List.append_assoc]; rfl,
        .cons ⟨rfl, v, hget, ht⟩ hadded⟩

/-- What seeding alone gives: the names that the data has, in order, with the data's values. -/
structure Seeded (data : Members) (names : List Text) (seeded : List (Text × Text)) : Prop where
  keys : Members.keys seeded = names.filter (Members.contains data)
  values : ∀ name t, (name, t) ∈ seeded → name ∈ names ∧ Gives data name t

theorem seeded_of_seed {data : Members} {names : List Text} (hn : names.Nodup)
    {seeded : List (Text × Text)}
    (h : seed (fun name => .ok (Members.get? data name)) names [] = .ok seeded) :
    Seeded data names seeded := by
  obtain ⟨added, hadded, heach⟩ := exists_of_seed hn (fun _ _ => rfl) h
  rw [List.nil_append] at hadded
  subst hadded
  constructor
  case keys =>
    exact (map_eq_of_forall₂ (f := id) (g := Prod.fst) (fun _ _ hm => hm.1.symm) heach).symm.trans
      (List.map_id _)
  case values =>
    intro name t hm
    obtain ⟨other, hother, rfl, ht⟩ := exists_of_mem_right heach hm
    exact ⟨(List.mem_filter.mp hother).1, ht⟩

/-- What the first values of names are, from data. -/
structure Seeding (data : Members) (names : List Text) (entries : List (Text × Text)) :
    Prop where
  /-- No name has two values. -/
  nodup : (Members.keys entries).Nodup
  /-- Except for `orderId` there are the names that the data has, in order. -/
  keys : (Members.keys entries).filter (· != orderName)
    = (names.filter (Members.contains data)).filter (· != orderName)
  /-- They have the data's values in words. -/
  values : ∀ name t, (name, t) ∈ entries → name ≠ orderName → Gives data name t
  /-- With any names the external application is the value of `orderId`. -/
  application : names ≠ [] → ∀ v, Members.get? data applicationKey = some v →
    ∃ t, fieldText v = .ok t ∧ (orderName, t) ∈ entries
  /-- Nothing else is but the value that the data has for `orderId` as one of the names. -/
  order : ∀ t, (orderName, t) ∈ entries → names ≠ [] ∧ (Gives data applicationKey t ∨
    Members.get? data applicationKey = none ∧ orderName ∈ names ∧ Gives data orderName t)

/-- Of no data there are no first values, and for no names. -/
theorem Seeding.nil {data : Members} {names : List Text} (h : names ≠ [] → data = []) :
    Seeding data names [] := by
  have hfilter : names.filter (Members.contains data) = [] := by
    by_cases hne : names = []
    · rw [hne, List.filter_nil]
    · rw [h hne]
      exact List.filter_eq_nil_iff.mpr fun name _ => Bool.false_ne_true
  refine ⟨List.nodup_nil, by rw [hfilter]; rfl, nofun, fun hne v hv => ?_, nofun⟩
  rw [h hne] at hv
  cases hv

namespace Seeded

variable {data : Members} {names : List Text} {seeded : List (Text × Text)}
  (h : Seeded data names seeded) (hn : names.Nodup) (hne : names ≠ [])

include h hn hne

/-- Where the data has no external application, the first values are those that are seeded. -/
theorem seeding (hnone : Members.get? data applicationKey = none) :
    Seeding data names seeded where
  nodup := h.keys ▸ hn.filter _
  keys := by rw [h.keys]
  values name t hm _ := (h.values name t hm).2
  application _ v hv := by cases hnone.symm.trans hv
  order t hm := ⟨hne, .inr ⟨hnone, h.values _ t hm⟩⟩

/-- Where it has one, this is written over what is seeded. -/
theorem seeding_set {v : Json} (hv : Members.get? data applicationKey = some v) {t : Text}
    (ht : fieldText v = .ok t) : Seeding data names (Members.set seeded orderName t) where
  nodup := Members.nodup_keys_set (h.keys ▸ hn.filter _) orderName t
  keys := by rw [Members.filter_keys_set, h.keys]
  values name u hm hname := by
    rcases Members.mem_set_iff.mp hm with ⟨rfl, -⟩ | ⟨-, hm⟩
    · exact absurd rfl hname
    · exact (h.values name u hm).2
  application _ w hw := by
    cases hv.symm.trans hw
    exact ⟨t, ht, Members.mem_set_iff.mpr (.inl ⟨rfl, rfl⟩)⟩
  order u hm := by
    rcases Members.mem_set_iff.mp hm with ⟨-, rfl⟩ | ⟨hname, -⟩
    · exact ⟨hne, .inl ⟨v, hv, ht⟩⟩
    · exact absurd rfl hname

end Seeded

/-- The first values that are made of data and names. -/
theorem seeding_of_formData {data : Members} {names : List Text} (hn : names.Nodup)
    {entries : List (Text × Text)} (h : formData data names = .ok entries) :
    Seeding data names entries := by
  rw [formData] at h
  split at h
  · rename_i hempty
    cases h
    exact .nil fun hne => by simpa [hne] using hempty
  · rename_i hsome
    have hne : names ≠ [] := by
      rintro rfl
      simp at hsome
    obtain ⟨seeded, hseed, h⟩ := bind_eq_ok_iff.mp h
    have hseeded := seeded_of_seed hn hseed
    cases happlication : Members.get? data applicationKey with
    | none =>
      rw [happlication] at h
      cases h
      exact hseeded.seeding hn hne happlication
    | some v =>
      rw [happlication] at h
      obtain ⟨t, ht, h⟩ := bind_eq_ok_iff.mp h
      cases h
      exact hseeded.seeding_set hn hne happlication ht

/-- The members of pre-fill data: those of an object, or of the object that a text is read as. -/
def membersOf : Json → Members
  | .string t => ((Json.read t).toOption.bind Json.asObject?).getD []
  | v => v.asObject?.getD []

theorem values_ofValue {v : Json} {payload : Prefill} (h : (ofValue v).outcome = .ok payload) :
    payload.values = v.asObject?.getD [] := by
  cases v with
  | object members =>
    simp only [ofValue] at h
    split at h
    · rw [Trace.outcome_bind] at h
      obtain ⟨wallet, -, h⟩ := bind_eq_ok_iff.mp h
      cases h
      rfl
    · cases h
      rfl
  | _ =>
    cases h
    rfl

/-- What is parsed has the members of the data for its values. -/
theorem values_of_parse {data : Json} {payload : Prefill}
    (h : (parse data).outcome = .ok payload) : payload.values = membersOf data := by
  cases data with
  | string t =>
    cases t with
    | nil =>
      cases h
      rfl
    | cons c t =>
      rw [membersOf]
      cases hread : Json.read (c :: t) with
      | ok v =>
        simp only [parse, hread] at h
        exact values_ofValue h
      | error failure =>
        simp only [parse, hread] at h
        cases failure <;> cases h
        rfl
  | null =>
    cases h
    rfl
  | _ => exact values_ofValue h

end Prefill

/-! ### Validation of texts -/

namespace Compiled

variable {settings : Settings} {fields : FieldInput} {feed : Json} {wallet : Wallet.Input}
  {form : FormSchema} {rules : NormalizedRules} {documents : List WalletDocument}
  {plans : List DocumentPlan}
  (h : Compiled settings fields feed wallet form rules documents plans)

include h

/-- Of values that are texts a form finds no wrong type, and what it finds can be told. -/
theorem sound_finding_of_texts {data : Members} (htexts : ∀ m ∈ data, ∃ t, m.2 = .string t)
    {f : Finding} (hf : f ∈ form.schema.findings (.json (.object data))) :
    (∀ v types, f.violation ≠ .type v types) ∧ f.violation.IsWritable := by
  rcases h.finding_cases rfl hf with ⟨name, rfl⟩ | ⟨p, hp, v, hv, violation, hviolation, rfl⟩
  · exact ⟨nofun, trivial⟩
  · rw [Entries.get?_ofMembers] at hv
    obtain ⟨t, ht⟩ := htexts _ (Members.mem_of_get? hv)
    obtain rfl : v = .string t := ht
    rcases FormProperty.violation_cases hviolation with ⟨hwrong, -⟩ | ⟨t, q, rfl⟩ | ⟨t, n, rfl⟩ |
      ⟨t, n, rfl⟩ | ⟨ts, rfl⟩
    · -- every property asks for a text
      rw [type_of_mem_formProperties hp] at hwrong
      cases hwrong
    · exact ⟨nofun, trivial⟩
    · exact ⟨nofun, trivial⟩
    · exact ⟨nofun, trivial⟩
    · refine ⟨nofun, rfl, Json.isWritable_array.mpr fun w hw => ?_⟩
      obtain ⟨u, -, rfl⟩ := List.mem_map.mp hw
      rfl

theorem exists_sortedReports_of_texts {data : Members}
    (htexts : ∀ m ∈ data, ∃ t, m.2 = .string t) :
    ∃ sorted, sortedReports form.schema (.json (.object data)) = .ok sorted :=
  exists_sortedReports_of_areWritable fun _ hf => (h.sound_finding_of_texts htexts hf).2

/-- Validation of texts against a form with a title ends, and all that it reports is a finding of
the form, up to the marker of the limit. -/
theorem validate_texts {title : Text} (htitle : form.title = .string title) {data : Members}
    (htexts : ∀ m ∈ data, ∃ t, m.2 = .string t) (settings' : Settings) :
    (∃ errors, (validate settings' (.form form) (.object data) .null).outcome = .ok errors) ∧
    ∀ limit errors, (validate settings' (.form form) (.object data) limit).outcome = .ok errors →
      ∀ e ∈ errors, (∃ l, e = limitMarker l) ∨
        ∃ f ∈ form.schema.findings (.json (.object data)),
          ∃ r, Report.ofFinding f = .ok r ∧ e = r.toText := by
  obtain ⟨sorted, hsorted⟩ := h.exists_sortedReports_of_texts htexts
  have hvalidate : ∀ limit, validate settings' (.form form) (.object data) limit
      = deliver settings' limit (sorted.map Report.toText) := by
    intro limit
    have hdata : (Json.object data).toEntries = .ok (Entries.ofMembers data) := rfl
    rw [validate_eq settings' rfl (h.problemsOf_schema_iff.mpr ⟨title, htitle⟩), hdata,
      Trace.liftFault_ok_bind, Subject.ofEntries_ofMembers, hsorted, Trace.liftFault_ok_bind]
  constructor
  · rw [hvalidate, outcome_deliver_null]
    exact ⟨_, rfl⟩
  · intro limit errors herrors e he
    rw [hvalidate] at herrors
    obtain ⟨l, rfl⟩ := exists_bounded_of_deliver herrors
    rcases mem_collect he with hnone | hmarker | hreport
    · cases hnone
    · exact .inl ⟨l, hmarker⟩
    · obtain ⟨r, hr, rfl⟩ := List.mem_map.mp hreport
      obtain ⟨reports, hwords, rfl⟩ := sortedReports_eq_ok_iff.mp hsorted
      obtain ⟨f, hf, hof⟩ := exists_of_mem_right hwords (List.mem_mergeSort.mp hr)
      exact .inr ⟨f, hf, r, hof, rfl⟩

end Compiled

/-! ### The values of a compiled form -/

/-- The names of a form that are no document fields, in order. -/
def FormSchema.personal (form : FormSchema) : List Text :=
  (Members.keys form.properties).filter fun name => !form.documentNames.contains name

/-- The values that a compiled form starts with, as filled values. -/
def CompiledForm.values (compiled : CompiledForm) : Members :=
  compiled.formData.map fun m => (m.1, .string m.2)

/-- The form of a catalog starts with personal values from the pre-fill data and with `orderId`. The
values are texts, so their validation reports no wrong type. -/
theorem compileCatalog_seeds {settings : Settings} {catalog prefill benefitId : Json}
    {compiled : CompiledForm}
    (h : (compileCatalog settings catalog prefill benefitId).outcome = .ok compiled) :
    Prefill.Seeding (Prefill.membersOf prefill) compiled.form.personal compiled.formData ∧
    (∀ name ∈ Members.keys compiled.formData, name ∈ compiled.form.documentNames →
      name = Prefill.orderName) ∧
    (∀ f ∈ compiled.form.schema.findings (.json (.object compiled.values)),
      ∀ v types, f.violation ≠ .type v types) ∧
    ∀ settings',
      (∃ errors, (validate settings' (.form compiled.form) (.object compiled.values)
        .null).outcome = .ok errors) ∧
      ∀ limit errors, (validate settings' (.form compiled.form) (.object compiled.values)
          limit).outcome = .ok errors → ∀ e ∈ errors, (∃ l, e = limitMarker l) ∨
        ∃ f ∈ compiled.form.schema.findings (.json (.object compiled.values)),
          ∃ r, Report.ofFinding f = .ok r ∧ e = r.toText := by
  simp only [compileCatalog, Trace.outcome_bind, Trace.outcome_liftFault, bind_eq_ok_iff,
    mapError_eq_ok_iff] at h
  obtain ⟨item, -, payload, hpayload, groups, -, form, hform, data, hdata, hpure⟩ := h
  cases hpure
  obtain ⟨rules, documents, plans, hc⟩ := compileForm_ok hform
  have hseeding : Prefill.Seeding (Prefill.membersOf prefill) form.personal data := by
    rw [← Prefill.values_of_parse hpayload]
    exact Prefill.seeding_of_formData (hc.nodup_keys.filter _) hdata
  have htexts : ∀ m ∈ data.map (fun m => (m.1, Json.string m.2)), ∃ t, m.2 = .string t := by
    intro m hm
    obtain ⟨entry, -, rfl⟩ := List.mem_map.mp hm
    exact ⟨entry.2, rfl⟩
  refine ⟨hseeding, fun name hname hdocument => ?_, fun f hf => (hc.sound_finding_of_texts htexts
    hf).1, fun settings' => hc.validate_texts (title_of_compileForm hform) htexts settings'⟩
  by_contra horder
  -- but for `orderId` the keys are names that are no documents
  have hkept : name ∈ (Members.keys data).filter (· != Prefill.orderName) :=
    List.mem_filter.mpr ⟨hname, bne_iff_ne.mpr horder⟩
  rw [hseeding.keys] at hkept
  have hpersonal := (List.mem_filter.mp (List.mem_filter.mp (List.mem_filter.mp hkept).1).1).2
  rw [List.contains_iff_mem.mpr hdocument] at hpersonal
  cases hpersonal

/-- A catalog with a personal field and a field of the documents group with the name `orderId`. -/
def orderCatalog : Json :=
  catalogWith [catalogRecord "a" "first" "g", catalogRecord "orderId" "second" "documents"]

/-- Pre-fill data for both, and an external application. -/
def orderData : Json :=
  Json.record [("orderId", Json.text "x"), ("a", .bool true), ("external_application_id", .int 7)]

/-- The document field gets the number of the external application. -/
theorem compileCatalog_seeds_of_order :
    ∃ compiled, (compileCatalog .standard orderCatalog orderData .null).outcome = .ok compiled ∧
      (Text.ofString "orderId" ∈ compiled.form.documentNames ∧ compiled.formData
        = [(Text.ofString "a", Text.ofString "true"),
          (Text.ofString "orderId", Text.ofString "7")]) ∧
      Prefill.Seeding (Prefill.membersOf orderData) compiled.form.personal compiled.formData ∧
      ∀ f ∈ compiled.form.schema.findings (.json (.object compiled.values)),
        ∀ v types, f.violation ≠ .type v types := by
  have hcompiled : ((compileCatalog .standard orderCatalog orderData .null).outcome.toOption.any
      fun compiled => Text.ofString "orderId" ∈ compiled.form.documentNames ∧ compiled.formData
        = [(Text.ofString "a", Text.ofString "true"),
          (Text.ofString "orderId", Text.ofString "7")]) = true := by
    decide +kernel
  obtain ⟨compiled, h, hof⟩ := exists_ok_of_any hcompiled
  obtain ⟨hseeding, -, hfindings, -⟩ := compileCatalog_seeds h
  exact ⟨compiled, h, of_decide_eq_true hof, hseeding, hfindings⟩

end BenefitForm
