import BenefitForm.Proofs.RequiredDocument

/-!
# Reports about missing documents

Two stages report that a document is missing. The builder of the document fields
warns where no document of the wallet is one of the proofs of a field; the joined
form lists the document fields whose selectors have no real option. The first
looks at the documents, the second at what the selectors show, after the declared
fields have taken their names.

- `mem_missing_iff`, `warnsUnmatched_iff`: what each stage says, of the candidates.
- `missing_iff_unmatched`: they agree on the name of a document field unless all
  documents that satisfy the field are empty. A name that a declared field has is
  listed for the options of that field alone, whatever is warned about it.
-/

namespace BenefitForm

open FormProperty

/-! ### Two reports -/

/-- Whether a form comes with a warning that no document satisfies the field of a name. -/
def FormSchema.WarnsUnmatched (form : FormSchema) (name : Text) : Prop :=
  ∃ w ∈ form.warnings, w.code = .unmatchedDocument ∧ w.fieldName = .string name

/-- Whether a declared field is a choice among the documents with nothing to choose: its options
are there, and the value of each is empty. -/
structure DeclaredField.OffersNothing (f : DeclaredField) : Prop where
  group : f.groupName = .string documentsGroup
  choice : f.isChoice = true
  options : f.options ≠ []
  empty : ∀ o ∈ f.options, o.value = []

/-- Whether documents of the wallet satisfy a planned field and all of them are empty. -/
structure DocumentPlan.OffersEmpty (plan : DocumentPlan) (documents : List WalletDocument) :
    Prop where
  matched : Wallet.matching plan.proofs documents ≠ []
  empty : ∀ d ∈ Wallet.matching plan.proofs documents, d.content = []

/-- A declared field is listed as a missing document iff it is a choice among the documents with
nothing to choose. -/
theorem DeclaredField.property_missing_iff (f : DeclaredField) :
    (f.property.isSubmitted = true ∧ f.property.hasNoOption = true) ↔ f.OffersNothing := by
  have hsubmitted : f.property.isSubmitted = true ↔ f.groupName = .string documentsGroup := by
    show (f.groupName == .string documentsGroup) = true ↔ _
    exact Json.beq_string_iff
  have hoption : f.property.hasNoOption = true ↔
      f.isChoice = true ∧ f.options ≠ [] ∧ ∀ o ∈ f.options, o.value = [] := by
    show (if f.isChoice && !f.options.isEmpty then some (f.options.map (·.value))
      else none).any (fun vs => vs.all (·.isEmpty)) = true ↔ _
    by_cases hlisted : f.isChoice = true ∧ f.options ≠ []
    · rw [if_pos (by simpa using hlisted)]
      simp [hlisted]
    · rw [if_neg (by simpa using hlisted)]
      simp only [Option.any_none, Bool.false_eq_true, false_iff]
      exact fun h => hlisted ⟨h.1, h.2.1⟩
  rw [hsubmitted, hoption]
  exact ⟨fun ⟨hgroup, hchoice, hne, hempty⟩ => ⟨hgroup, hchoice, hne, hempty⟩,
    fun h => ⟨h.group, h.choice, h.options, h.empty⟩⟩

/-- A document field is listed as missing iff no document that satisfies it has a content. -/
theorem DocumentPlan.property_missing_iff (settings : Settings) (documents : List WalletDocument)
    (plan : DocumentPlan) :
    (plan.property settings documents).hasNoOption = true ↔
      Wallet.matching plan.proofs documents = [] ∨ plan.OffersEmpty documents := by
  show (if ((Wallet.matching plan.proofs documents).map (·.content)).isEmpty then [[]]
    else (Wallet.matching plan.proofs documents).map (·.content)).all (·.isEmpty) = true ↔ _
  by_cases hnone : Wallet.matching plan.proofs documents = []
  · rw [hnone]
    simp
  · rw [if_neg (by simpa using hnone), or_iff_right hnone]
    simp only [List.all_map, List.all_eq_true, Function.comp_apply, List.isEmpty_iff]
    exact ⟨fun h => ⟨hnone, h⟩, fun h => h.empty⟩

/-- The first candidate of a name is the first declared field of that name, or the first plan where
no declared field has it. -/
theorem find?_candidates (settings : Settings) (fields : List DeclaredField)
    (documents : List WalletDocument) (plans : List DocumentPlan) (name : Text) :
    (candidates settings fields documents plans).find? (fun q => q.name == name)
      = ((fields.find? fun f => f.name == name).map DeclaredField.property).or
        ((plans.find? fun q => q.name == name).map (DocumentPlan.property settings documents)) := by
  rw [candidates, List.find?_append, List.find?_map, List.find?_map]
  rfl

namespace Compiled

variable {settings : Settings} {fields : FieldInput} {feed : Json} {wallet : Wallet.Input}
  {form : FormSchema} {rules : NormalizedRules} {documents : List WalletDocument}
  {plans : List DocumentPlan}

/-- A form lists a name as missing iff the first candidate of the name is a document field without
a real option. -/
theorem mem_missing_iff (h : Compiled settings fields feed wallet form rules documents plans)
    {name : Text} :
    name ∈ form.missing ↔ ∃ p, (candidates settings fields.read.fields documents plans).find?
        (fun q => q.name == name) = some p ∧ p.isSubmitted = true ∧ p.hasNoOption = true := by
  rw [h.missing, List.filter_filter]
  -- the properties of a form are the candidates that are the first of their names
  simp only [List.mem_map, List.mem_filter, Bool.and_eq_true, formProperties, mem_firstsBy_iff]
  constructor
  · rintro ⟨p, ⟨hfirst, hoption, hsubmitted⟩, rfl⟩
    exact ⟨p, hfirst, hsubmitted, hoption⟩
  · rintro ⟨p, hfirst, hsubmitted, hoption⟩
    have hname : p.name = name :=
      beq_iff_eq.mp (List.find?_some (p := fun q : FormProperty => q.name == name) hfirst)
    exact ⟨p, ⟨hname ▸ hfirst, hoption, hsubmitted⟩, hname⟩

/-- The warnings of a form about unmatched documents are notes about the document fields that were
built. -/
theorem mem_warnings_iff_note
    (h : Compiled settings fields feed wallet form rules documents plans) {w : CompilationWarning}
    (hw : w.code = .unmatchedDocument) :
    w ∈ form.warnings ↔ ∃ p ∈ firstsBy FormProperty.name
        (plans.map (DocumentPlan.property settings documents)), w ∈ DocumentFields.note p := by
  have hfields : w ∉ fields.read.warnings := by
    intro hmem
    rw [FieldReading.code_of_mem_warnings hmem] at hw
    cases hw
  have hrules : w ∉ rules.warnings := by
    intro hmem
    rw [(RuleFeed.sound_of_normalize h.normalized).warnings w hmem] at hw
    cases hw
  have hother : Registry.isDuplicate w = false := by
    rw [Registry.isDuplicate, hw]
    rfl
  rw [h.mem_warnings_iff hother, or_iff_right hfields, or_iff_right hrules]

/-- A form warns about a name iff no document of the wallet is one of the proofs of the first plan
of that name. -/
theorem warnsUnmatched_iff (h : Compiled settings fields feed wallet form rules documents plans)
    {name : Text} :
    form.WarnsUnmatched name ↔ ∃ plan, plans.find? (fun q => q.name == name) = some plan ∧
      Wallet.matching plan.proofs documents = [] := by
  have hnote : ∀ plan : DocumentPlan, ∀ w : CompilationWarning,
      w ∈ DocumentFields.note (plan.property settings documents) ↔
        Wallet.matching plan.proofs documents = [] ∧ w = DocumentFields.unmatched plan.name := by
    intro plan w
    show w ∈ (if ((Wallet.matching plan.proofs documents).map (·.subtype)).isEmpty then
      [DocumentFields.unmatched plan.name] else []) ↔ _
    rw [List.isEmpty_map]
    cases Wallet.matching plan.proofs documents <;> simp
  have hfirst : ∀ p, p ∈ firstsBy FormProperty.name
      (plans.map (DocumentPlan.property settings documents)) ↔
        ∃ plan, plans.find? (fun q => q.name == p.name) = some plan ∧
          plan.property settings documents = p := by
    intro p
    rw [mem_firstsBy_iff, List.find?_map, Option.map_eq_some_iff]
    rfl
  -- a note holds the name of its plan, so the name in the warning gives the plan back
  rw [FormSchema.WarnsUnmatched]
  constructor
  · rintro ⟨w, hmem, hcode, hname⟩
    obtain ⟨p, hp, hw⟩ := (h.mem_warnings_iff_note hcode).mp hmem
    obtain ⟨plan, hplan, rfl⟩ := (hfirst p).mp hp
    obtain ⟨hnone, rfl⟩ := (hnote plan w).mp hw
    cases hname
    exact ⟨plan, hplan, hnone⟩
  · rintro ⟨plan, hplan, hnone⟩
    have hname : plan.name = name :=
      beq_iff_eq.mp (List.find?_some (p := fun q : DocumentPlan => q.name == name) hplan)
    subst hname
    refine ⟨DocumentFields.unmatched plan.name, ?_, rfl, rfl⟩
    refine (h.mem_warnings_iff_note rfl).mpr ⟨plan.property settings documents, ?_, ?_⟩
    · exact (hfirst _).mpr ⟨plan, hplan, rfl⟩
    · exact (hnote plan _).mpr ⟨hnone, rfl⟩

end Compiled

/-! ### Where they agree -/

/-- What a form says about the document of a name. -/
structure ReportsMissing (form : FormSchema) (fields : List DeclaredField)
    (documents : List WalletDocument) (plans : List DocumentPlan) (name : Text) : Prop where
  /-- The warning is about the wallet: no document satisfies the field that is planned first. -/
  warned : form.WarnsUnmatched name ↔
    ∃ plan, plans.find? (fun q => q.name == name) = some plan ∧
      ∀ d ∈ documents, d.subtype ∉ plan.proofs
  /-- Where no declared field has the name, it is listed iff there is a warning, or there are
  documents for it and they are empty. -/
  planned : (∀ f ∈ fields, f.name ≠ name) → (name ∈ form.missing ↔ form.WarnsUnmatched name ∨
    ∃ plan, plans.find? (fun q => q.name == name) = some plan ∧ plan.OffersEmpty documents)
  /-- Otherwise the first declared field of the name decides. -/
  declared : ∀ f, fields.find? (fun f => f.name == name) = some f →
    (name ∈ form.missing ↔ f.OffersNothing)

/-- In every compiled form a name that no declared field has is listed among the missing documents
iff a warning says that no document satisfies its field, or all documents that do are empty. -/
theorem missing_iff_unmatched {settings : Settings} {fields : FieldInput} {feed : Json}
    {wallet : Wallet.Input} {title benefitId : Json} {form : FormSchema}
    (hform : (compileForm settings fields feed wallet title benefitId).outcome = .ok form) :
    ∃ rules documents plans, (RuleFeed.normalize feed).outcome = .ok rules ∧
      wallet.load.outcome = .ok documents ∧ DocumentFields.plans rules = .ok plans ∧
      ∀ name, ReportsMissing form fields.read.fields documents plans name := by
  obtain ⟨rules, documents, plans, hc⟩ := compileForm_ok hform
  refine ⟨rules, documents, plans, hc.normalized, hc.loaded, hc.planned, fun name => ?_⟩
  have hmissing : name ∈ form.missing ↔ _ := hc.mem_missing_iff
  rw [find?_candidates] at hmissing
  constructor
  case warned =>
    simp only [hc.warnsUnmatched_iff, Wallet.matching, List.filter_eq_nil_iff,
      List.contains_iff_mem]
  case planned =>
    intro hfree
    have hnone : (fields.read.fields.find? fun f => f.name == name) = none := by
      rw [List.find?_eq_none]
      exact fun f hf => by simpa using hfree f hf
    -- both reports are then about the first plan of the name
    rw [hmissing, hnone, hc.warnsUnmatched_iff, Option.map_none, Option.none_or]
    constructor
    · rintro ⟨p, hp, -, hoption⟩
      obtain ⟨plan, hplan, rfl⟩ := Option.map_eq_some_iff.mp hp
      rcases (plan.property_missing_iff settings documents).mp hoption with hempty | hempty
      · exact .inl ⟨plan, hplan, hempty⟩
      · exact .inr ⟨plan, hplan, hempty⟩
    · intro h
      obtain ⟨plan, hplan, hoption⟩ : ∃ plan, plans.find? (fun q => q.name == name) = some plan ∧
          (Wallet.matching plan.proofs documents = [] ∨ plan.OffersEmpty documents) := by
        rcases h with ⟨plan, hplan, hempty⟩ | ⟨plan, hplan, hempty⟩
        · exact ⟨plan, hplan, .inl hempty⟩
        · exact ⟨plan, hplan, .inr hempty⟩
      exact ⟨_, Option.map_eq_some_iff.mpr ⟨plan, hplan, rfl⟩, rfl,
        (plan.property_missing_iff settings documents).mpr hoption⟩
  case declared =>
    intro f hf
    rw [hmissing, hf, Option.map_some, Option.some_or]
    simp only [Option.some.injEq, exists_eq_left']
    exact f.property_missing_iff

/-- A choice among the documents with one option, whose value is empty. -/
def emptyChoice (name : String) : DeclaredField where
  name := Text.ofString name
  type := Text.ofString "select"
  options := [⟨[], Text.ofString "none"⟩]
  groupName := .string documentsGroup

/-- A feed of document rules for one proof each. -/
def asking (proofs : List String) : Json :=
  .array (proofs.map fun proof => Json.record [("documentType", Json.text "t"),
    ("allowedProofs", Json.ofTexts [Text.ofString proof])])

/-- Three names are listed, of which one is warned about, and another name is warned about alone:
`q` has no document, the one for `r` is empty, `c` is a choice with nothing to choose, and the
declared field `p` has taken the place of a document field. -/
theorem missing_iff_unmatched_of_all :
    ∃ form, (compileForm .standard
        (.flat [.declared { name := Text.ofString "p" }, .declared (emptyChoice "c")])
        (asking ["p", "q", "r"]) (.documents (holding "r" [""])) .null .null).outcome = .ok form ∧
      form.missing = ["c", "q", "r"].map Text.ofString ∧
      ∃ rules documents plans, (RuleFeed.normalize (asking ["p", "q", "r"])).outcome = .ok rules ∧
        (Wallet.Input.documents (holding "r" [""])).load.outcome = .ok documents ∧
        DocumentFields.plans rules = .ok plans ∧
        ∀ name, ReportsMissing form [{ name := Text.ofString "p" }, emptyChoice "c"] documents
          plans name := by
  have hany : ((compileForm .standard
      (.flat [.declared { name := Text.ofString "p" }, .declared (emptyChoice "c")])
      (asking ["p", "q", "r"]) (.documents (holding "r" [""])) .null .null).outcome.toOption.any
        fun form => form.missing = ["c", "q", "r"].map Text.ofString) = true := by
    decide +kernel
  obtain ⟨form, hform, hmissing⟩ := exists_ok_of_any hany
  exact ⟨form, hform, of_decide_eq_true hmissing, missing_iff_unmatched hform⟩

/-- Whether a form lists a name without a warning, or warns about it without listing it. -/
def FormSchema.Disagrees (form : FormSchema) (name : Text) : Prop :=
  ¬(name ∈ form.missing ↔ form.WarnsUnmatched name)

theorem FormSchema.disagrees_of_any {form : FormSchema} {name : Text}
    (h : (form.missing.contains name != form.warnings.any fun w =>
      w.code == .unmatchedDocument && w.fieldName == .string name) = true) :
    form.Disagrees name := by
  have hwarns : (form.warnings.any fun w =>
      w.code == .unmatchedDocument && w.fieldName == .string name) = true ↔
        form.WarnsUnmatched name := by
    simp only [List.any_eq_true, Bool.and_eq_true, beq_iff_eq, Json.beq_string_iff,
      FormSchema.WarnsUnmatched]
  intro hiff
  rw [← hwarns, ← List.contains_iff_mem, ← Bool.eq_iff_iff] at hiff
  rw [hiff, bne_self_eq_false] at h
  cases h

/-- The two reports disagree about a document field that gave way to a declared one, about one
whose only document is empty, and about a declared choice with nothing to choose. -/
theorem missing_disagrees :
    (∃ form, (compileForm .standard (.flat [.declared { name := Text.ofString "p" }])
        (asking ["p"]) (.documents []) (.string []) .null).outcome = .ok form ∧
      form.Disagrees (Text.ofString "p")) ∧
    (∃ form, (compileForm .standard (.flat []) (asking ["p"]) (.documents (holding "p" [""]))
        (.string []) .null).outcome = .ok form ∧ form.Disagrees (Text.ofString "p")) ∧
    ∃ form, (compileForm .standard (.flat [.declared (emptyChoice "a")]) .null (.documents [])
        (.string []) .null).outcome = .ok form ∧ form.Disagrees (Text.ofString "a") := by
  have hof : ∀ {fields : FieldInput} {feed : Json} {wallet : List WalletDocument} {name : Text},
      ((compileForm .standard fields feed (.documents wallet) (.string []) .null).outcome.toOption
        |>.any fun form => form.missing.contains name != form.warnings.any fun w =>
          w.code == .unmatchedDocument && w.fieldName == .string name) = true →
      ∃ form, (compileForm .standard fields feed (.documents wallet) (.string []) .null).outcome
        = .ok form ∧ form.Disagrees name := by
    intro fields feed wallet name hany
    obtain ⟨form, hform, h⟩ := exists_ok_of_any hany
    exact ⟨form, hform, FormSchema.disagrees_of_any h⟩
  exact ⟨hof (by decide +kernel), hof (by decide +kernel), hof (by decide +kernel)⟩

end BenefitForm
