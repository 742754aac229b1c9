import BenefitForm.Proofs.RequiredDocument

/-!
# What validation admits for documents

The options of a document field are the contents of the wallet documents that are
one of its proofs. Two keywords of its property restrict values, the type and the
listed options, so the values that it allows are its options
(`DocumentPlan.findingsAt_property_eq_nil_iff`), whatever JSON the applicant sends.

- `Compiled.exists_plan`: a property with a document's record was built from the
  first plan of its name.
- `valid_selection`: of values that pass validation every document field has a
  document of the wallet, or the empty text where the wallet has none for it.
-/

namespace BenefitForm

open FormProperty Json

namespace DocumentPlan

variable {settings : Settings} {documents : List WalletDocument} {plan : DocumentPlan}

/-- Whether a value is one that the applicant may select: the content of a wallet document that is
one of the proofs, or the empty text where there is no such document. -/
def Offers (plan : DocumentPlan) (documents : List WalletDocument) (v : Json) : Prop :=
  (∃ d ∈ documents, d.subtype ∈ plan.proofs ∧ v = .string d.content) ∨
    v = .string [] ∧ ∀ d ∈ documents, d.subtype ∉ plan.proofs

/-- The contents that a document field lists. -/
def options (plan : DocumentPlan) (documents : List WalletDocument) : List Text :=
  let contents := (Wallet.matching plan.proofs documents).map (·.content)
  if contents.isEmpty then [[]] else contents

/-- What is listed may be selected. -/
theorem mem_options_iff {t : Text} :
    t ∈ plan.options documents ↔ plan.Offers documents (.string t) := by
  have hmatching : ∀ d, d ∈ Wallet.matching plan.proofs documents ↔
      d ∈ documents ∧ d.subtype ∈ plan.proofs := by
    intro d
    rw [Wallet.matching, List.mem_filter, List.contains_iff_mem]
  have hcontent : t ∈ (Wallet.matching plan.proofs documents).map (·.content) ↔
      ∃ d ∈ documents, d.subtype ∈ plan.proofs ∧ Json.string t = .string d.content := by
    simp only [List.mem_map, hmatching, and_assoc, Json.string.injEq, eq_comm (a := t)]
  rw [options, Offers, ← hcontent]
  by_cases hnone : ∀ d ∈ documents, d.subtype ∉ plan.proofs
  · have hempty : Wallet.matching plan.proofs documents = [] :=
      List.eq_nil_iff_forall_not_mem.mpr fun d hd =>
        hnone d ((hmatching d).mp hd).1 ((hmatching d).mp hd).2
    simpa [hempty] using fun _ => hnone
  · obtain ⟨d, hd, hproof⟩ : ∃ d ∈ documents, d.subtype ∈ plan.proofs := by
      simpa using hnone
    have hne : ((Wallet.matching plan.proofs documents).map (·.content)).isEmpty = false := by
      rw [List.isEmpty_eq_false_iff, ne_eq, List.map_eq_nil_iff]
      exact List.ne_nil_of_mem ((hmatching d).mpr ⟨hd, hproof⟩)
    simp only [hne, Bool.false_eq_true, if_false, hnone, and_false, or_false]

/-- The property of a document field allows the values that may be selected and no others. -/
theorem findingsAt_property_eq_nil_iff {step : Text} {v : Json} :
    findingsAt (.object (plan.property settings documents).formMembers) step v = [] ↔
      plan.Offers documents v := by
  constructor
  · intro h
    obtain ⟨t, ht, rfl⟩ := mem_values_of_findingsAt rfl h
    exact mem_options_iff.mp ht
  · intro h
    obtain ⟨t, rfl⟩ : ∃ t, v = .string t := by
      rcases h with ⟨d, -, -, rfl⟩ | ⟨rfl, -⟩
      · exact ⟨_, rfl⟩
      · exact ⟨_, rfl⟩
    have hlisted : ∀ siblings, argumentFindings siblings (Text.ofString "enum")
        (ofTexts (plan.options documents)) (.json (.string t)) = [] := by
      intro siblings
      rw [argumentFindings_of_isPlain (k := .enum) rfl rfl, List.map_eq_nil_iff,
        violations_enum_eq_nil_iff]
      exact ⟨t, mem_options_iff.mpr h, rfl⟩
    rw [findingsAt, List.map_eq_nil_iff, keywordFindings_eq_flatMap, List.flatMap_eq_nil_iff]
    intro m hm
    obtain ⟨key, argument, hs, hne, rfl⟩ := (mem_formMembers_iff _).mp hm
    simp only [slots, property, List.mem_cons, List.not_mem_nil, or_false, Prod.mk.injEq,
      Option.map_some, Option.map_none, Option.some.injEq, reduceCtorEq, and_false, false_or] at hs
    -- only the type and the options restrict values
    rcases hs with ⟨rfl, rfl⟩ | ⟨rfl, -⟩ | ⟨rfl, rfl⟩ | ⟨rfl, -⟩ | ⟨rfl, -⟩ | ⟨rfl, -⟩ | ⟨rfl, -⟩ |
      ⟨rfl, -⟩
    case inr.inr.inl => exact hlisted _
    case inr.inr.inr.inr.inr.inl => exact absurd rfl hne
    all_goals rfl

end DocumentPlan

namespace Compiled

variable {settings : Settings} {fields : FieldInput} {feed : Json} {wallet : Wallet.Input}
  {form : FormSchema} {rules : NormalizedRules} {documents : List WalletDocument}
  {plans : List DocumentPlan}

/-- A property with the record of a document field was built from the first plan of its name, and
no declared field has that name. -/
theorem exists_plan (h : Compiled settings fields feed wallet form rules documents plans)
    {name : Text} {members : Members} (hm : (name, .object members) ∈ form.properties)
    (hrecord : Members.contains members (Text.ofString "vcMeta") = true) :
    ∃ plan, plans.find? (fun q => q.name == name) = some plan ∧
      members = (plan.property settings documents).formMembers ∧
      ∀ f ∈ fields.read.fields, f.name ≠ name := by
  obtain ⟨p, hp, he⟩ := h.mem_properties_iff.mp hm
  cases he
  rw [formProperties, mem_firstsBy_iff, candidates, List.find?_append, Option.or_eq_some_iff] at hp
  rcases hp with hdeclared | ⟨hnone, hplanned⟩
  · -- the property of a declared field has no such record
    exfalso
    obtain ⟨f, -, rfl⟩ := List.mem_map.mp (List.mem_of_find?_eq_some hdeclared)
    rw [Members.contains_iff] at hrecord
    refine Members.get?_eq_none_iff.mp ?_ hrecord
    exact f.property.get?_formMembers (by decide)
  · rw [List.find?_map] at hplanned
    obtain ⟨plan, hplan, rfl⟩ := Option.map_eq_some_iff.mp hplanned
    refine ⟨plan, hplan, rfl, fun f hf he => ?_⟩
    exact List.find?_eq_none.mp hnone _ (List.mem_map_of_mem (f := DeclaredField.property) hf)
      (beq_iff_eq.mpr he)

end Compiled

/-- Values that pass the validation of a form, whatever the limit on reports, have for each document
field that is among them the content of a wallet document that is one of the proofs of the field's
plan, or the empty text where the wallet has no such document. -/
theorem valid_selection {settings : Settings} {fields : FieldInput} {feed : Json}
    {wallet : Wallet.Input} {title benefitId : Json} {form : FormSchema}
    (hform : (compileForm settings fields feed wallet title benefitId).outcome = .ok form)
    {data limit : Json} (hvalid : (validate settings (.form form) data limit).outcome = .ok []) :
    ∃ rules documents plans entries, (RuleFeed.normalize feed).outcome = .ok rules ∧
      wallet.load.outcome = .ok documents ∧ DocumentFields.plans rules = .ok plans ∧
      data.toEntries = .ok entries ∧
      ∀ name members, (name, .object members) ∈ form.properties →
        Members.contains members (Text.ofString "vcMeta") = true →
        ∃ plan, plans.find? (fun q => q.name == name) = some plan ∧
          members = (plan.property settings documents).formMembers ∧
          ∀ v, Members.get? entries (.text name) = some v → plan.Offers documents v := by
  obtain ⟨rules, documents, plans, hc⟩ := compileForm_ok hform
  obtain ⟨entries, hentries, hfindings⟩ := exists_toEntries_of_validate hvalid
  refine ⟨rules, documents, plans, entries, hc.normalized, hc.loaded, hc.planned, hentries, ?_⟩
  intro name members hm hrecord
  obtain ⟨plan, hplan, rfl, -⟩ := hc.exists_plan hm hrecord
  refine ⟨plan, hplan, rfl, fun v hv => ?_⟩
  have hallowed := ((findings_eq_nil_iff form (Subject.entries?_ofEntries entries)).mp hfindings).2
  exact DocumentPlan.findingsAt_property_eq_nil_iff.mp (hallowed _ hm v hv)

/-- Whether a form has a property of the name with the record of a document field. -/
def FormSchema.hasRecordOf (form : FormSchema) (name : Text) : Bool :=
  match Members.get? form.properties name with
  | some (.object members) => Members.contains members (Text.ofString "vcMeta")
  | _ => false

theorem FormSchema.exists_mem_of_hasRecordOf {form : FormSchema} {name : Text}
    (h : form.hasRecordOf name = true) : ∃ members, (name, .object members) ∈ form.properties ∧
      Members.contains members (Text.ofString "vcMeta") = true := by
  rw [hasRecordOf] at h
  split at h
  · rename_i members hget
    exact ⟨members, Members.mem_of_get? hget, h⟩
  · cases h

/-- A negative limit admits no other values. -/
theorem valid_selection_of_negative_limit :
    ∃ form members, ∃ plan : DocumentPlan, (compileForm .standard (.flat []) (requiring "p")
        (.documents (holding "p" ["x", "y"])) (.string []) .null).outcome = .ok form ∧
      (validate .standard (.form form) (.object (filling "p" "y")) (.int (-1))).outcome = .ok [] ∧
      (Text.ofString "p", .object members) ∈ form.properties ∧
      members = (plan.property .standard (holding "p" ["x", "y"])).formMembers ∧
      plan.Offers (holding "p" ["x", "y"]) (Json.text "y") := by
  have hany : ((compileForm .standard (.flat []) (requiring "p")
      (.documents (holding "p" ["x", "y"])) (.string []) .null).outcome.toOption.any fun form =>
        form.hasRecordOf (Text.ofString "p") &&
        (validate .standard (.form form) (.object (filling "p" "y"))
          (.int (-1))).outcome.toOption.any (·.isEmpty)) = true := by
    decide +kernel
  obtain ⟨form, hform, hany⟩ := exists_ok_of_any hany
  rw [Bool.and_eq_true] at hany
  obtain ⟨members, hm, hrecord⟩ := form.exists_mem_of_hasRecordOf hany.1
  obtain ⟨reports, hvalid, hnone⟩ := exists_ok_of_any hany.2
  rw [List.isEmpty_iff] at hnone
  subst hnone
  obtain ⟨rules, documents, plans, entries, -, hdocuments, -, hentries, hall⟩ :=
    valid_selection hform hvalid
  cases hdocuments
  cases hentries
  obtain ⟨plan, -, hmembers, hoffers⟩ := hall _ members hm hrecord
  exact ⟨form, members, plan, hform, hvalid, hm, hmembers, hoffers (Json.text "y") (by rfl)⟩

end BenefitForm
