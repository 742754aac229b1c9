import BenefitForm.Proofs.Compilation
import BenefitForm.Proofs.Plan
import BenefitForm.Proofs.Refusal

/-!
# When a compilation gives a form

Rules and wallets of any shape are read, and usable rules always have plans, so a
compilation of a field list fails in two ways only: the options of a field cannot
be gone through, or the group of a field that the form keeps has a name that is no
key. Neither is reported as a warning.

- `Compilable`: the field lists without these two mistakes.
- `compileForm_total`: of such a list there is a form, which comes with one report
  about each entry that is refused; of any other there is none.
-/

namespace BenefitForm

open FormProperty

/-! ### How a compilation ends -/

/-- A compilation whose fields cannot be read to their end fails. -/
theorem outcome_compileForm_of_failure {settings : Settings} {fields : FieldInput} {feed : Json}
    {wallet : Wallet.Input} {e : Failure} (h : fields.read.failure? = some e)
    (title benefitId : Json) :
    (compileForm settings fields feed wallet title benefitId).outcome = .error e := by
  rw [outcome_compileForm_eq, FieldReading.outcome, h]
  rfl

/-! ### Warnings -/

/-- Warnings with a code, of which a list has no others. -/
theorem filter_code_eq_self {ws : List CompilationWarning} {code : WarningCode}
    (h : ∀ w ∈ ws, w.code = code) : ws.filter (·.code == code) = ws :=
  List.filter_eq_self.mpr fun w hw => beq_iff_eq.mpr (h w hw)

/-- Warnings with a code, of which a list has none. -/
theorem filter_code_eq_nil {ws : List CompilationWarning} {code : WarningCode}
    (h : ∀ w ∈ ws, w.code ≠ code) : ws.filter (·.code == code) = [] :=
  List.filter_eq_nil_iff.mpr fun w hw hcode => h w hw (beq_iff_eq.mp hcode)

/-- The warnings of a run are about duplicates or are notes. -/
theorem Registry.code_of_mem_reports {note : FormProperty → List CompilationWarning}
    (hnote : ∀ p, ∀ w ∈ note p, w.code = .unmatchedDocument) {ps : List FormProperty}
    {w : CompilationWarning} (hw : w ∈ reports note [] ps) :
    w.code = .duplicateField ∨ w.code = .unmatchedDocument := by
  cases hduplicate : isDuplicate w with
  | true => exact .inl (of_decide_eq_true hduplicate)
  | false =>
    obtain ⟨p, -, hmem⟩ := (mem_reports_iff note hduplicate).mp hw
    exact .inr (hnote p w hmem)

/-- The code of a note about a document field. -/
theorem DocumentFields.code_of_mem_note (p : FormProperty) (w : CompilationWarning)
    (hw : w ∈ note p) : w.code = .unmatchedDocument := by
  rw [note] at hw
  split at hw
  · rw [List.mem_singleton.mp hw]
    rfl
  · cases hw

/-- The warnings of a form about entries are those of the field list and those of the feed. -/
theorem Compiled.filter_warnings {settings : Settings} {fields : FieldInput} {feed : Json}
    {wallet : Wallet.Input} {form : FormSchema} {rules : NormalizedRules}
    {documents : List WalletDocument} {plans : List DocumentPlan}
    (h : Compiled settings fields feed wallet form rules documents plans) :
    form.warnings.filter (·.code == .malformedField) = fields.read.warnings ∧
      form.warnings.filter (·.code == .malformedRule) = rules.warnings := by
  have hfields : ∀ w ∈ fields.read.warnings, w.code = .malformedField :=
    fun w hw => FieldReading.code_of_mem_warnings hw
  have hrules := (RuleFeed.sound_of_normalize h.normalized).warnings
  -- the other warnings are about names that are taken and documents that are missing
  have happ : ∀ w ∈ Registry.reports (fun _ => []) []
      (fields.read.fields.map DeclaredField.property),
        w.code = .duplicateField ∨ w.code = .unmatchedDocument :=
    fun w hw => Registry.code_of_mem_reports (fun _ _ h => by cases h) hw
  have hdoc : ∀ w ∈ Registry.reports DocumentFields.note []
      (plans.map (DocumentPlan.property settings documents)),
        w.code = .duplicateField ∨ w.code = .unmatchedDocument :=
    fun w hw => Registry.code_of_mem_reports DocumentFields.code_of_mem_note hw
  have htaken : ∀ w ∈ takenWarnings settings fields.read.fields documents plans,
      w.code = .duplicateField := fun w hw => code_of_mem_takenWarnings hw
  have hne : ∀ {code c : WarningCode}, c = .malformedField ∨ c = .malformedRule →
      code = .duplicateField ∨ code = .unmatchedDocument → code ≠ c := by
    rintro code c (rfl | rfl) (rfl | rfl) <;> decide
  rw [h.warnings]
  simp only [List.filter_append]
  constructor
  · rw [filter_code_eq_self hfields, filter_code_eq_nil fun w hw => hne (.inl rfl) (happ w hw),
      filter_code_eq_nil fun w hw => hrules w hw ▸ by decide,
      filter_code_eq_nil fun w hw => hne (.inl rfl) (hdoc w hw),
      filter_code_eq_nil fun w hw => hne (.inl rfl) (.inl (htaken w hw))]
    simp only [List.append_nil]
  · rw [filter_code_eq_nil fun w hw => hfields w hw ▸ by decide,
      filter_code_eq_nil fun w hw => hne (.inr rfl) (happ w hw), filter_code_eq_self hrules,
      filter_code_eq_nil fun w hw => hne (.inr rfl) (hdoc w hw),
      filter_code_eq_nil fun w hw => hne (.inr rfl) (.inl (htaken w hw))]
    simp only [List.append_nil, List.nil_append]

/-! ### Field lists -/

/-- A field list of which a form can be compiled: the options of each field can be gone through,
and the first field of each name has a group whose name is a key, or none. -/
structure Compilable (entries : List Json) : Prop where
  options : ∀ v ∈ entries, DeclaredField.listsOptions v = true
  groups : ∀ f ∈ firstsBy DeclaredField.name (declaredFields entries),
    f.groupName.isGroupName = true

/-- A list as field input. -/
theorem FieldInput.ofJson_array (entries : List Json) :
    FieldInput.ofJson (.array entries) = .flat (entries.map .record) := by
  cases entries <;> rfl

/-- The groups of the properties of a form are named by keys iff those of the first declared fields
are. -/
theorem all_isGroupName_iff (settings : Settings) (fields : List DeclaredField)
    (documents : List WalletDocument) (plans : List DocumentPlan) :
    (formProperties settings fields documents plans).all (·.groupName.isGroupName) = true ↔
      ∀ f ∈ firstsBy DeclaredField.name fields, f.groupName.isGroupName = true := by
  have hplans : ∀ p ∈ firstsBy FormProperty.name
      (plans.map (DocumentPlan.property settings documents)),
        p.groupName.isGroupName = true := by
    intro p hp
    obtain ⟨plan, -, rfl⟩ := List.mem_map.mp ((firstsBy_sublist _ _).mem hp)
    rfl
  rw [formProperties_eq, ← firstsBy_map FormProperty.name, List.all_append, Bool.and_eq_true,
    List.all_map, List.all_eq_true]
  refine ⟨fun h => h.1, fun h => ⟨h, List.all_eq_true.mpr fun p hp => ?_⟩⟩
  exact hplans p (List.mem_filter.mp hp).1

/-- What a form says of the entries it is compiled from. -/
structure FormSchema.Reports (form : FormSchema) (settings : Settings) (entries : List Json)
    (feed : Json) (items : List Json) : Prop where
  /-- There is one warning about each field entry that is refused, in order, and no other. -/
  fields : form.warnings.filter (·.code == .malformedField)
    = (refusals DeclaredField.ofJson 0 entries).map FieldReading.warningOf
  /-- There is one warning about each rule entry that is refused, in order, and no other. -/
  rules : form.warnings.filter (·.code == .malformedRule) = RuleFeed.refused feed
  /-- The properties are those of the other entries. -/
  properties : ∃ rules documents plans, (RuleFeed.normalize feed).outcome = .ok rules ∧
    (Wallet.load (.array items)).outcome = .ok documents ∧ DocumentFields.plans rules = .ok plans ∧
    form.properties
      = (formProperties settings (declaredFields entries) documents plans).map formMember

/-- The fields of a list that is read to its end. -/
theorem FieldInput.fields_ofJson_array {entries : List Json}
    (h : (FieldInput.ofJson (.array entries)).read.failure? = none) :
    (FieldInput.ofJson (.array entries)).read.fields = declaredFields entries := by
  rw [FieldInput.ofJson_array] at h ⊢
  exact (FieldReading.fields_ofRecords h).trans (List.map_id _)

/-- Every form that is compiled of a list reports what is refused. -/
theorem Compiled.reports {settings : Settings} {entries : List Json} {feed : Json}
    {items : List Json} {form : FormSchema} {rules : NormalizedRules}
    {documents : List WalletDocument} {plans : List DocumentPlan}
    (h : Compiled settings (.ofJson (.array entries)) feed (.records (.array items)) form rules
      documents plans) : form.Reports settings entries feed items := by
  have hread := h.fields_read
  constructor
  case fields =>
    rw [h.filter_warnings.1, FieldReading.warnings]
    rw [FieldInput.ofJson_array] at hread ⊢
    exact congrArg (List.map FieldReading.warningOf) (FieldReading.skipped_ofRecords hread)
  case rules =>
    rw [h.filter_warnings.2]
    exact RuleFeed.warnings_of_normalize h.normalized
  case properties =>
    refine ⟨rules, documents, plans, h.normalized, h.loaded, h.planned, ?_⟩
    rw [h.properties, FieldInput.fields_ofJson_array hread]

/-- Of every field list without the two mistakes, and of every feed and wallet, a form is compiled
that reports what is refused; of any other field list none is. -/
theorem compileForm_total {settings : Settings} {entries : List Json} {feed : Json}
    {items : List Json} {title : Text} {benefitId : Json}
    (hentries : ∀ v ∈ entries, v.isWritable = true) (hfeed : feed.isWritable = true)
    (hitems : ∀ v ∈ items, v.isWritable = true) :
    (Compilable entries → ∃ form, (compileForm settings (.ofJson (.array entries)) feed
      (.records (.array items)) (.string title) benefitId).outcome = .ok form ∧
        form.Reports settings entries feed items) ∧
    (¬ Compilable entries → (compileForm settings (.ofJson (.array entries)) feed
      (.records (.array items)) (.string title) benefitId).outcome
        = .error (.fault .wrongKind)) := by
  obtain ⟨rules, hrules⟩ := RuleFeed.exists_rules hfeed
  obtain ⟨documents, hdocuments⟩ := Wallet.exists_load hitems
  obtain ⟨grouped, -, hplans⟩ := DocumentFields.plans_eq_ok (RuleFeed.sound_of_normalize hrules)
  have hread : (FieldInput.ofJson (.array entries)).read.failure?
      = if entries.all DeclaredField.listsOptions then none else some (.fault .wrongKind) := by
    rw [FieldInput.ofJson_array]
    exact FieldReading.failure?_ofRecords hentries 0
  -- the options are gone through while the list is read, the groups when the form is joined
  by_cases hall : entries.all DeclaredField.listsOptions = true
  · rw [if_pos hall] at hread
    have houtcome := congrArg (Except.map fun _ => ()) (outcome_compileForm_of_read settings hread
      hrules hdocuments hplans (.string title) benefitId)
    rw [FieldInput.fields_ofJson_array hread, FormSchema.map_ofProperties] at houtcome
    constructor
    · intro h
      rw [if_pos ((all_isGroupName_iff ..).mpr h.groups)] at houtcome
      obtain ⟨form, hform⟩ := exists_ok_of_map houtcome
      obtain ⟨rules, documents, plans, hc⟩ := compileForm_ok hform
      exact ⟨form, hform, hc.reports⟩
    · intro h
      rw [if_neg fun hgroups => h ⟨List.all_eq_true.mp hall, (all_isGroupName_iff ..).mp hgroups⟩]
        at houtcome
      exact eq_error_of_map houtcome
  · rw [if_neg hall] at hread
    constructor
    · intro h
      exact absurd (List.all_eq_true.mpr h.options) hall
    · intro _
      exact outcome_compileForm_of_failure hread _ _

/-- A field between two entries that are none. -/
def unevenEntries : List Json :=
  [.null, Json.record [("name", Json.text "a"), ("options", .array [Json.text "x", .int 1])],
    .array []]

/-- Three entries are refused, of which one is a rule entry, and the form has the property of the
fourth. -/
theorem compileForm_total_of_unevenEntries :
    ∃ form, (compileForm .standard (.ofJson (.array unevenEntries)) (.array [.bool true])
        (.records (.array [.null])) (.string []) .null).outcome = .ok form ∧
      form.Reports .standard unevenEntries (.array [.bool true]) [.null] :=
  (compileForm_total (by decide +kernel) (by decide +kernel) (by decide +kernel)).1
    ⟨by decide +kernel, by decide +kernel⟩

/-- A field record with one more member. -/
def fieldWith (key : String) (v : Json) : Json := Json.record [("name", Json.text "a"), (key, v)]

/-- A number in the place of the options, or a list in the place of a group's name, ends the
compilation without a form. -/
theorem compileForm_fails :
    (compileForm .standard (.ofJson (.array [fieldWith "options" (.int 5)])) .null
        (.records (.array [])) (.string []) .null).outcome = .error (.fault .wrongKind) ∧
      (compileForm .standard (.ofJson (.array [fieldWith "groupName" (.array [Json.text "g"])]))
        .null (.records (.array [])) (.string []) .null).outcome = .error (.fault .wrongKind) :=
  ⟨rfl, rfl⟩

end BenefitForm
