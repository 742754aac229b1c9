import BenefitForm.Compile
import BenefitForm.Proofs.Assembly
import BenefitForm.Proofs.RuleFeed

/-!
# What a compilation gives

A compilation reads its fields, rules and wallet, offers one candidate property
after another, and joins what was kept. `outcome_compileForm_eq` says all of this
as one sequence of steps in which the builders and their registries do not occur.
`compileForm_ok` takes a successful compilation apart into what was read
(`Compiled`) and says what the form is made of; the theorems about forms start
from there.

- `candidates`: the declared fields in order, then the document plans in order.
- `formProperties`: the first candidate of each name.
- `compileForm_structure`: the properties, the required names and the duplicates
  of every compiled form, said of the candidates alone. Names may clash among the
  declared fields, among the plans and across both: each time the later candidate
  goes, with exactly one warning.
-/

namespace BenefitForm

open FormProperty

/-! ### The builders -/

theorem foldl_warn (r : Registry) (ws : List CompilationWarning) :
    ws.foldl Registry.warn r = r.adopt ws := by
  induction ws generalizing r with
  | nil => simp [Registry.adopt]
  | cons w ws ih =>
    rw [List.foldl_cons, ih]
    simp [Registry.adopt, Registry.warn]

/-- The application fields are built iff the input is read to its end. -/
theorem FieldInput.build_eq_ok {input : FieldInput} {f : Fragment} :
    (input.build {}).outcome = .ok f ↔ input.read.failure? = none ∧
      f = ((input.read.fields.map DeclaredField.property).foldl (Registry.offer fun _ => [])
        (Registry.adopt {} input.read.warnings)).fragment := by
  simp only [FieldInput.build, foldl_warn, Registry.addAll_eq_foldl_offer]
  cases input.read.failure? with
  | some e => simp
  | none => simp [eq_comm]

namespace DocumentFields

/-- The document fields of normalized rules depend on the wallet and the plans. -/
theorem outcome_buildNormalized (settings : Settings) (rules : NormalizedRules)
    (wallet : Wallet.Input) (registry : Registry) :
    (buildNormalized settings rules wallet registry).outcome = (do
      let documents ← wallet.load.outcome
      let plans ← (plans rules).mapError .fault
      return ((plans.map (DocumentPlan.property settings documents)).foldl (Registry.offer note)
        (registry.adopt rules.warnings)).fragment) := by
  simp only [buildNormalized, foldl_add]
  cases wallet.load.outcome with
  | error e => rfl
  | ok documents => cases plans rules <;> rfl

/-- The document fields of a feed are those of the rules that it holds. -/
theorem outcome_build (settings : Settings) (feed : Json) (wallet : Wallet.Input)
    (registry : Registry) :
    (build settings feed wallet registry).outcome = (do
      let rules ← (RuleFeed.normalize feed).outcome
      (buildNormalized settings rules wallet registry).outcome) := by
  simp only [build]
  cases (RuleFeed.normalize feed).outcome <;> rfl

/-- The document fields are built iff the feed and the wallet are read and the plans are made. -/
theorem build_eq_ok {settings : Settings} {feed : Json} {wallet : Wallet.Input} {f : Fragment} :
    (build settings feed wallet {}).outcome = .ok f ↔
      ∃ rules documents plans, (RuleFeed.normalize feed).outcome = .ok rules ∧
        wallet.load.outcome = .ok documents ∧ DocumentFields.plans rules = .ok plans ∧
        f = ((plans.map (DocumentPlan.property settings documents)).foldl (Registry.offer note)
          (Registry.adopt {} rules.warnings)).fragment := by
  rw [outcome_build, bind_eq_ok_iff]
  simp only [outcome_buildNormalized, bind_eq_ok_iff, mapError_eq_ok_iff, pure_eq_ok]
  constructor
  · rintro ⟨rules, hrules, documents, hdocuments, plans, hplans, hf⟩
    exact ⟨rules, documents, plans, hrules, hdocuments, hplans, (Except.ok.inj hf).symm⟩
  · rintro ⟨rules, documents, plans, hrules, hdocuments, hplans, rfl⟩
    exact ⟨rules, hrules, documents, hdocuments, plans, hplans, rfl⟩

end DocumentFields

/-! ### Candidates -/

/-- The candidates for the properties of a form, in order: the declared fields, then the document
plans. -/
def candidates (settings : Settings) (fields : List DeclaredField)
    (documents : List WalletDocument) (plans : List DocumentPlan) : List FormProperty :=
  fields.map DeclaredField.property ++ plans.map (DocumentPlan.property settings documents)

/-- The properties of a form before the marks are taken out: the first candidate of each name. -/
def formProperties (settings : Settings) (fields : List DeclaredField)
    (documents : List WalletDocument) (plans : List DocumentPlan) : List FormProperty :=
  firstsBy FormProperty.name (candidates settings fields documents plans)

/-- The warnings about document fields whose names are those of declared fields. -/
def takenWarnings (settings : Settings) (fields : List DeclaredField)
    (documents : List WalletDocument) (plans : List DocumentPlan) : List CompilationWarning :=
  ((firstsBy FormProperty.name (plans.map (DocumentPlan.property settings documents))).filter
    fun p => p.name ∈ (fields.map DeclaredField.property).map (·.name)).map
      fun p => .duplicate (.text p.name)

/-- What a successful compilation has read, and the form that it makes of it. -/
structure Compiled (settings : Settings) (fields : FieldInput) (feed : Json)
    (wallet : Wallet.Input) (form : FormSchema) (rules : NormalizedRules)
    (documents : List WalletDocument) (plans : List DocumentPlan) : Prop where
  fields_read : fields.read.failure? = none
  normalized : (RuleFeed.normalize feed).outcome = .ok rules
  loaded : wallet.load.outcome = .ok documents
  planned : DocumentFields.plans rules = .ok plans
  properties : form.properties
    = (formProperties settings fields.read.fields documents plans).map formMember
  required : form.required
    = ((formProperties settings fields.read.fields documents plans).filter (·.required)).map
      (·.name)
  documentNames : form.documentNames
    = ((formProperties settings fields.read.fields documents plans).filter (·.isSubmitted)).map
      (·.name)
  missing : form.missing
    = (((formProperties settings fields.read.fields documents plans).filter (·.isSubmitted)).filter
      (·.hasNoOption)).map (·.name)
  warnings : form.warnings
    = fields.read.warnings
      ++ Registry.reports (fun _ => []) [] (fields.read.fields.map DeclaredField.property)
      ++ (rules.warnings ++ Registry.reports DocumentFields.note []
        (plans.map (DocumentPlan.property settings documents)))
      ++ takenWarnings settings fields.read.fields documents plans

/-- What holds of the properties of declared fields and of plans holds of those of a form. -/
theorem forall_mem_formProperties {Q : FormProperty → Prop} {settings : Settings}
    {fields : List DeclaredField} {documents : List WalletDocument} {plans : List DocumentPlan}
    (hdeclared : ∀ f : DeclaredField, Q f.property)
    (hplanned : ∀ plan : DocumentPlan, Q (plan.property settings documents)) :
    ∀ p ∈ formProperties settings fields documents plans, Q p := by
  intro p hp
  rcases List.mem_append.mp ((firstsBy_sublist _ _).mem hp) with h | h
  · obtain ⟨f, -, rfl⟩ := List.mem_map.mp h
    exact hdeclared f
  · obtain ⟨plan, -, rfl⟩ := List.mem_map.mp h
    exact hplanned plan

/-- The values of every property of a form are texts. -/
theorem type_of_mem_formProperties {settings : Settings} {fields : List DeclaredField}
    {documents : List WalletDocument} {plans : List DocumentPlan} {p : FormProperty}
    (h : p ∈ formProperties settings fields documents plans) :
    p.type = Text.ofString "string" :=
  forall_mem_formProperties (Q := fun p => p.type = Text.ofString "string") (fun _ => rfl)
    (fun _ => rfl) p h

theorem FieldReading.code_of_mem_warnings {reading : FieldReading} {w : CompilationWarning}
    (hw : w ∈ reading.warnings) : w.code = .malformedField := by
  obtain ⟨s, -, rfl⟩ := List.mem_map.mp hw
  rfl

theorem code_of_mem_takenWarnings {settings : Settings} {fields : List DeclaredField}
    {documents : List WalletDocument} {plans : List DocumentPlan} {w : CompilationWarning}
    (hw : w ∈ takenWarnings settings fields documents plans) : w.code = .duplicateField := by
  obtain ⟨p, -, rfl⟩ := List.mem_map.mp hw
  rfl

theorem nodup_formProperties (settings : Settings) (fields : List DeclaredField)
    (documents : List WalletDocument) (plans : List DocumentPlan) :
    ((formProperties settings fields documents plans).map (·.name)).Nodup :=
  nodup_map_firstsBy _ _

/-- The fragment that a run of offers leaves when it starts without properties. -/
theorem fragment_foldl_offer (note : FormProperty → List CompilationWarning)
    (ws : List CompilationWarning) (ps : List FormProperty) :
    (ps.foldl (Registry.offer note) (Registry.adopt {} ws)).fragment
      = ⟨firstsBy FormProperty.name ps,
        ((firstsBy FormProperty.name ps).filter (·.required)).map (·.name),
        ws ++ Registry.reports note [] ps⟩ := by
  have hproperties : (ps.foldl (Registry.offer note) (Registry.adopt {} ws)).properties
      = firstsBy FormProperty.name ps := by
    rw [Registry.properties_foldl_offer]
    simp [Registry.adopt, Registry.names]
  have hrequired : (ps.foldl (Registry.offer note) (Registry.adopt {} ws)).Consistent :=
    Registry.Consistent.foldl_offer note (Registry.consistent_empty.adopt ws) ps
  rw [Registry.Consistent, hproperties] at hrequired
  rw [Registry.fragment, hproperties, hrequired, Registry.warnings_foldl_offer]
  rfl

/-- The first candidate of each name is the first declared field of that name, or the first plan
of a name that no declared field has. -/
theorem formProperties_eq (settings : Settings) (fields : List DeclaredField)
    (documents : List WalletDocument) (plans : List DocumentPlan) :
    formProperties settings fields documents plans
      = firstsBy FormProperty.name (fields.map DeclaredField.property)
        ++ (firstsBy FormProperty.name
            (plans.map (DocumentPlan.property settings documents))).filter fun p => p.name ∉
            (firstsBy FormProperty.name (fields.map DeclaredField.property)).map (·.name) := by
  rw [formProperties, candidates, firstsBy_append]
  refine congrArg (_ ++ ·) (List.filter_congr fun p _ => ?_)
  rw [decide_eq_decide, not_iff_not]
  exact (mem_map_firstsBy FormProperty.name).symm

/-- The names that are taken may be looked for among the first fields of each name. -/
theorem takenWarnings_eq (settings : Settings) (fields : List DeclaredField)
    (documents : List WalletDocument) (plans : List DocumentPlan) :
    ((firstsBy FormProperty.name
        (plans.map (DocumentPlan.property settings documents))).filter fun p => p.name ∈
          (firstsBy FormProperty.name (fields.map DeclaredField.property)).map (·.name)).map
            (fun p => CompilationWarning.duplicate (.text p.name))
      = takenWarnings settings fields documents plans := by
  refine congrArg (List.map _) (List.filter_congr fun p _ => ?_)
  rw [decide_eq_decide]
  exact mem_map_firstsBy FormProperty.name

/-- A compilation builds both parts and joins them. -/
theorem outcome_compileForm (settings : Settings) (fields : FieldInput) (feed : Json)
    (wallet : Wallet.Input) (title benefitId : Json) :
    (compileForm settings fields feed wallet title benefitId).outcome = (do
      let app ← (fields.build {}).outcome
      let doc ← (DocumentFields.build settings feed wallet {}).outcome
      (FormSchema.assemble app.part doc.part title).outcome) := by
  simp only [compileForm, Trace.outcome_bind, Built.trace, Trace.outcome_note, Trace.outcome_pure]
  refine congrArg (_ >>= ·) (funext fun app => congrArg (_ >>= ·) (funext fun doc => ?_))
  cases (FormSchema.assemble app.part doc.part title).outcome <;> rfl

/-- The warnings of a compilation, in order: about the entries and the names of the fields, about
the entries and the document fields of the rules, and about names on both sides. -/
def compilationWarnings (settings : Settings) (reading : FieldReading) (rules : NormalizedRules)
    (documents : List WalletDocument) (plans : List DocumentPlan) : List CompilationWarning :=
  reading.warnings
    ++ Registry.reports (fun _ => []) [] (reading.fields.map DeclaredField.property)
    ++ (rules.warnings ++ Registry.reports DocumentFields.note []
      (plans.map (DocumentPlan.property settings documents)))
    ++ takenWarnings settings reading.fields documents plans

/-- The fields of a reading that came to its end. -/
def FieldReading.outcome (reading : FieldReading) : Except Failure (List DeclaredField) :=
  match reading.failure? with
  | some e => .error e
  | none => .ok reading.fields

theorem FieldReading.outcome_eq_ok_iff {reading : FieldReading} {fields : List DeclaredField} :
    reading.outcome = .ok fields ↔ reading.failure? = none ∧ reading.fields = fields := by
  rw [outcome]
  cases reading.failure? <;> simp

/-- A compilation reads its fields, its feed and its wallet, plans the document fields, and makes
a form of the first candidate of each name. -/
theorem outcome_compileForm_eq (settings : Settings) (fields : FieldInput) (feed : Json)
    (wallet : Wallet.Input) (title benefitId : Json) :
    (compileForm settings fields feed wallet title benefitId).outcome = (do
      let declared ← fields.read.outcome
      let rules ← (RuleFeed.normalize feed).outcome
      let documents ← wallet.load.outcome
      let plans ← (DocumentFields.plans rules).mapError .fault
      FormSchema.ofProperties (formProperties settings declared documents plans) title
        (compilationWarnings settings fields.read rules documents plans)) := by
  rw [outcome_compileForm, FieldReading.outcome]
  cases hfields : fields.read.failure? with
  | some e =>
    simp only [FieldInput.build, hfields]
    rfl
  | none =>
    have happ := FieldInput.build_eq_ok.mpr ⟨hfields, rfl⟩
    rw [happ, ok_bind, ok_bind, DocumentFields.outcome_build]
    cases (RuleFeed.normalize feed).outcome with
    | error e => rfl
    | ok rules =>
      rw [ok_bind, ok_bind, DocumentFields.outcome_buildNormalized]
      cases wallet.load.outcome with
      | error e => rfl
      | ok documents =>
        rw [ok_bind, ok_bind]
        cases DocumentFields.plans rules with
        | error e => rfl
        | ok plans =>
          rw [mapError_ok, ok_bind, ok_bind, pure_eq_ok, ok_bind, fragment_foldl_offer,
            fragment_foldl_offer]
          -- both parts were built from a registry without properties, so their names differ
          refine (FormSchema.outcome_assemble (nodup_map_firstsBy _ _) (nodup_map_firstsBy _ _)
            _ _ title).trans ?_
          rw [← formProperties_eq, takenWarnings_eq]
          rfl

/-- Where fields, feed and wallet are read, the form is that of the first candidate of each
name. -/
theorem outcome_compileForm_of_read (settings : Settings) {fields : FieldInput} {feed : Json}
    {wallet : Wallet.Input} {rules : NormalizedRules} {documents : List WalletDocument}
    {plans : List DocumentPlan} (hfields : fields.read.failure? = none)
    (hrules : (RuleFeed.normalize feed).outcome = .ok rules)
    (hdocuments : wallet.load.outcome = .ok documents)
    (hplans : DocumentFields.plans rules = .ok plans) (title benefitId : Json) :
    (compileForm settings fields feed wallet title benefitId).outcome
      = FormSchema.ofProperties (formProperties settings fields.read.fields documents plans) title
        (compilationWarnings settings fields.read rules documents plans) := by
  rw [outcome_compileForm_eq, FieldReading.outcome_eq_ok_iff.mpr ⟨hfields, rfl⟩, hrules, hdocuments]
  simp only [ok_bind, hplans, mapError_ok]

/-- A compilation gives a form iff fields, feed and wallet are read and a form can be made of the
properties. -/
theorem compileForm_eq_ok_iff {settings : Settings} {fields : FieldInput} {feed : Json}
    {wallet : Wallet.Input} {title benefitId : Json} {form : FormSchema} :
    (compileForm settings fields feed wallet title benefitId).outcome = .ok form ↔
      ∃ rules documents plans, fields.read.failure? = none ∧
        (RuleFeed.normalize feed).outcome = .ok rules ∧ wallet.load.outcome = .ok documents ∧
        DocumentFields.plans rules = .ok plans ∧
        FormSchema.ofProperties (formProperties settings fields.read.fields documents plans) title
          (compilationWarnings settings fields.read rules documents plans) = .ok form := by
  simp only [outcome_compileForm_eq, bind_eq_ok_iff, mapError_eq_ok_iff,
    FieldReading.outcome_eq_ok_iff]
  constructor
  · rintro ⟨_, ⟨hread, rfl⟩, rules, hrules, documents, hdocuments, plans, hplans, hform⟩
    exact ⟨rules, documents, plans, hread, hrules, hdocuments, hplans, hform⟩
  · rintro ⟨rules, documents, plans, hread, hrules, hdocuments, hplans, hform⟩
    exact ⟨_, ⟨hread, rfl⟩, rules, hrules, documents, hdocuments, plans, hplans, hform⟩

/-- A successful compilation has read its fields, rules and wallet, and the form is made of the
first candidate of each name. -/
theorem compileForm_ok {settings : Settings} {fields : FieldInput} {feed : Json}
    {wallet : Wallet.Input} {title benefitId : Json} {form : FormSchema}
    (h : (compileForm settings fields feed wallet title benefitId).outcome = .ok form) :
    ∃ rules documents plans,
      Compiled settings fields feed wallet form rules documents plans := by
  obtain ⟨rules, documents, plans, hread, hrules, hdocuments, hplans, hform⟩ :=
    compileForm_eq_ok_iff.mp h
  obtain ⟨hints, -, hpure⟩ := bind_eq_ok_iff.mp hform
  cases hpure
  exact ⟨rules, documents, plans, hread, hrules, hdocuments, hplans, rfl, rfl, rfl, rfl, rfl⟩

/-! ### The structure of a form -/

namespace Compiled

variable {settings : Settings} {fields : FieldInput} {feed : Json} {wallet : Wallet.Input}
  {form : FormSchema} {rules : NormalizedRules} {documents : List WalletDocument}
  {plans : List DocumentPlan}

/-- The names of a form's properties are those of the candidates without later repeats. -/
theorem keys_properties (h : Compiled settings fields feed wallet form rules documents plans) :
    Members.keys form.properties
      = (formProperties settings fields.read.fields documents plans).map (·.name) := by
  rw [h.properties, keys_map_formMember]

theorem nodup_keys (h : Compiled settings fields feed wallet form rules documents plans) :
    (Members.keys form.properties).Nodup := by
  rw [h.keys_properties]
  exact nodup_formProperties settings fields.read.fields documents plans

/-- The members of a form are its properties without their marks. -/
theorem mem_properties_iff (h : Compiled settings fields feed wallet form rules documents plans)
    {m : Text × Json} :
    m ∈ form.properties ↔
      ∃ p ∈ formProperties settings fields.read.fields documents plans, formMember p = m := by
  rw [h.properties, List.mem_map]

/-- A property of a form is found under its name. -/
theorem get?_properties (h : Compiled settings fields feed wallet form rules documents plans)
    {p : FormProperty} (hp : p ∈ formProperties settings fields.read.fields documents plans) :
    Members.get? form.properties p.name = some (.object p.formMembers) :=
  Members.get?_of_mem h.nodup_keys (h.mem_properties_iff.mpr ⟨p, hp, rfl⟩)

theorem mem_documentNames_iff
    (h : Compiled settings fields feed wallet form rules documents plans) {name : Text} :
    name ∈ form.documentNames ↔
      ∃ p ∈ formProperties settings fields.read.fields documents plans,
        p.isSubmitted = true ∧ p.name = name := by
  simp only [h.documentNames, List.mem_map, List.mem_filter, and_assoc]

/-- Beside the duplicates a form comes with the warnings about the entries of its fields and rules
and with the notes about the document fields that were built. -/
theorem mem_warnings_iff (h : Compiled settings fields feed wallet form rules documents plans)
    {w : CompilationWarning} (hw : Registry.isDuplicate w = false) :
    w ∈ form.warnings ↔ w ∈ fields.read.warnings ∨ w ∈ rules.warnings ∨
      ∃ p ∈ firstsBy FormProperty.name (plans.map (DocumentPlan.property settings documents)),
        w ∈ DocumentFields.note p := by
  have htaken : w ∉ takenWarnings settings fields.read.fields documents plans := by
    intro hmem
    rw [Registry.isDuplicate, code_of_mem_takenWarnings hmem] at hw
    cases hw
  rw [h.warnings]
  simp only [List.mem_append, htaken, Registry.mem_reports_iff _ hw, List.not_mem_nil,
    not_false_eq_true, decide_true, List.filter_true, and_false, exists_false, or_false]

/-- Each candidate is a property of the form or is reported as a duplicate. -/
theorem countP_duplicates
    (h : Compiled settings fields feed wallet form rules documents plans) :
    form.warnings.countP Registry.isDuplicate + form.properties.length
      = (candidates settings fields.read.fields documents plans).length := by
  have hskipped : fields.read.warnings.countP Registry.isDuplicate = 0 := by
    rw [List.countP_eq_zero]
    intro w hw
    rw [Registry.isDuplicate, FieldReading.code_of_mem_warnings hw]
    exact Bool.false_ne_true
  have hrules : rules.warnings.countP Registry.isDuplicate = 0 := by
    rw [List.countP_eq_zero]
    intro w hw
    rw [Registry.isDuplicate, (RuleFeed.sound_of_normalize h.normalized).warnings w hw]
    exact Bool.false_ne_true
  -- within each side, then between the two
  have happ := Registry.duplicates_reports (fun _ => []) (fun _ => rfl) []
    (fields.read.fields.map DeclaredField.property)
  have hdoc := Registry.duplicates_reports DocumentFields.note DocumentFields.countP_note []
    (plans.map (DocumentPlan.property settings documents))
  have htaken : (takenWarnings settings fields.read.fields documents plans).countP
      Registry.isDuplicate
        = (takenWarnings settings fields.read.fields documents plans).length := by
    rw [List.countP_eq_length]
    intro w hw
    rw [Registry.isDuplicate, code_of_mem_takenWarnings hw]
    rfl
  have hsplit := List.length_eq_length_filter_add
    (l := firstsBy FormProperty.name (plans.map (DocumentPlan.property settings documents)))
    fun p => p.name ∈ (fields.read.fields.map DeclaredField.property).map (·.name)
  have hkept : form.properties.length
      = (firstsBy FormProperty.name (fields.read.fields.map DeclaredField.property)).length
        + ((firstsBy FormProperty.name
            (plans.map (DocumentPlan.property settings documents))).filter fun p => p.name ∉
              (fields.read.fields.map DeclaredField.property).map (·.name)).length := by
    rw [h.properties, List.length_map, formProperties, candidates, firstsBy_append,
      List.length_append]
  rw [takenWarnings, List.length_map] at htaken
  simp only [List.not_mem_nil, not_false_eq_true, decide_true, List.filter_true] at happ hdoc
  simp only [decide_not] at hkept
  rw [h.warnings, candidates, List.length_append]
  simp only [List.countP_append, hskipped, hrules, takenWarnings, htaken]
  omega

end Compiled

/-- A form is made of candidates: of each name the first one counts. -/
structure MadeOf (form : FormSchema) (candidates : List FormProperty) : Prop where
  /-- The names are those of the candidates, later repeats removed, in order. -/
  keys : Members.keys form.properties = ProofSet.distinct (candidates.map (·.name))
  /-- Each property is the one of the first candidate of its name, without the mark. -/
  properties : ∀ m ∈ form.properties,
    ∃ p, (candidates.find? fun q => q.name == m.1) = some p ∧
      m.2 = .object (Members.erase p.members (Text.ofString "required"))
  /-- A name is required iff the first candidate of the name is. -/
  required : form.required = (Members.keys form.properties).filter fun name =>
    (candidates.find? fun q => q.name == name).any (·.required)
  /-- No name is required twice. -/
  required_nodup : form.required.Nodup
  /-- No property has a mark. -/
  unmarked : ∀ m ∈ form.properties, ∀ members, m.2 = .object members →
    Members.contains members (Text.ofString "required") = false
  /-- There is one warning for each candidate that is left out. -/
  duplicates : form.warnings.countP Registry.isDuplicate + form.properties.length
    = candidates.length

/-- The form of every successful compilation is made of its candidates. -/
theorem compileForm_structure {settings : Settings} {fields : FieldInput} {feed : Json}
    {wallet : Wallet.Input} {title benefitId : Json} {form : FormSchema}
    (h : (compileForm settings fields feed wallet title benefitId).outcome = .ok form) :
    ∃ rules documents plans, fields.read.failure? = none ∧
      (RuleFeed.normalize feed).outcome = .ok rules ∧ wallet.load.outcome = .ok documents ∧
      DocumentFields.plans rules = .ok plans ∧
      MadeOf form (candidates settings fields.read.fields documents plans) := by
  obtain ⟨rules, documents, plans, hc⟩ := compileForm_ok h
  refine ⟨rules, documents, plans, hc.fields_read, hc.normalized, hc.loaded, hc.planned, ?_⟩
  have hfirst : ∀ p ∈ formProperties settings fields.read.fields documents plans,
      ((candidates settings fields.read.fields documents plans).find?
        fun q => q.name == p.name) = some p :=
    fun p hp => (mem_firstsBy_iff FormProperty.name).mp hp
  constructor
  case keys =>
    rw [hc.keys_properties, formProperties, map_key_firstsBy]
  case properties =>
    intro m hm
    obtain ⟨p, hp, rfl⟩ := hc.mem_properties_iff.mp hm
    exact ⟨p, hfirst p hp, rfl⟩
  case required =>
    rw [hc.required, hc.keys_properties, List.filter_map]
    refine congrArg (List.map _) (List.filter_congr fun p hp => ?_)
    show p.required = (List.find? (fun q : FormProperty => q.name == p.name) _).any (·.required)
    rw [hfirst p hp]
    rfl
  case required_nodup =>
    rw [hc.required]
    exact (List.filter_sublist.map _).nodup (nodup_formProperties ..)
  case unmarked =>
    intro m hm members hmembers
    obtain ⟨p, -, rfl⟩ := hc.mem_properties_iff.mp hm
    cases hmembers
    exact p.not_contains_required
  case duplicates =>
    exact hc.countP_duplicates

/-- Two declared fields of one name, and one with the name of a document field. -/
def clashingFields : FieldInput :=
  .flat (["a", "a", "p"].map fun name => .declared { name := Text.ofString name })

/-- Document rules that share a proof. -/
def clashingRules : Json :=
  .array ([["p", "q"], ["q"]].map fun proofs => Json.record [("documentType", Json.text "t"),
    ("allowedProofs", Json.ofTexts (proofs.map Text.ofString))])

/-- Of six candidates with three names three are left. -/
theorem compileForm_structure_of_clashes :
    ∃ form, (compileForm .standard clashingFields clashingRules (.documents []) .null
        .null).outcome = .ok form ∧ form.properties.length = 3 ∧
      ∃ rules documents plans, clashingFields.read.failure? = none ∧
        (RuleFeed.normalize clashingRules).outcome = .ok rules ∧
        (Wallet.Input.documents []).load.outcome = .ok documents ∧
        DocumentFields.plans rules = .ok plans ∧
        MadeOf form (candidates .standard clashingFields.read.fields documents plans) := by
  have hcompiled : ((compileForm .standard clashingFields clashingRules (.documents []) .null
      .null).outcome.toOption.any fun form => form.properties.length = 3) = true := by
    decide +kernel
  obtain ⟨form, hform, hlength⟩ := exists_ok_of_any hcompiled
  exact ⟨form, hform, of_decide_eq_true hlength, compileForm_structure hform⟩

end BenefitForm
