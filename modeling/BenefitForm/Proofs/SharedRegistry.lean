import BenefitForm.Proofs.Compilation

/-!
# One registry for both builders

A compilation gives each builder a registry of its own and drops a document field
whose name a declared field has when the parts are joined. A caller may as well hand
the registry of the declared fields on to the second builder. The document field is
then refused by the registry, and the second fragment lists the declared fields once
more, which the joining drops.

Either way the second part adds the first document field of each name that no
declared field has, so the two forms differ in their warnings alone.

- `compileShared`: a compilation with one registry.
- `properties_sharedRegistry`: that registry ends up with the properties of the form.
- `compileShared_eq_compileForm`: both ways end alike, also where they fail.
-/

namespace BenefitForm

open FormProperty

/-- Compile fields, rules and a wallet with one registry for both builders. -/
def compileShared (settings : Settings) (fields : FieldInput) (rules : Json)
    (wallet : Wallet.Input) (title : Json) : Trace FormSchema := do
  let built := fields.build {}
  let app ← built.trace
  let doc ← (DocumentFields.build settings rules wallet built.registry).trace
  FormSchema.assemble app.part doc.part title

/-- A form without its warnings. -/
def FormSchema.withoutWarnings (form : FormSchema) : FormSchema := { form with warnings := [] }

/-- The warnings decide nothing about a form of properties. -/
theorem FormSchema.withoutWarnings_ofProperties (ps : List FormProperty) (title : Json)
    (ws : List CompilationWarning) :
    (ofProperties ps title ws).map withoutWarnings = ofProperties ps title [] := by
  rw [ofProperties, ofProperties]
  cases displayHints (ps.map formMember) ((ps.filter (·.isSubmitted)).map (·.name)) <;> rfl

/-- A registry with the declared fields that is offered the document fields holds the properties of
the form. -/
theorem properties_sharedRegistry {settings : Settings} {fields : List DeclaredField}
    {documents : List WalletDocument} {plans : List DocumentPlan} {r : Registry}
    (h : r.properties = firstsBy FormProperty.name (fields.map DeclaredField.property)) :
    ((plans.map (DocumentPlan.property settings documents)).foldl
        (Registry.offer DocumentFields.note) r).properties
      = formProperties settings fields documents plans := by
  rw [Registry.properties_foldl_offer, formProperties_eq, Registry.names, h]

/-- The declared fields and, of the form, what does not have their names are the form. -/
theorem declared_append_filter (settings : Settings) (fields : List DeclaredField)
    (documents : List WalletDocument) (plans : List DocumentPlan) :
    firstsBy FormProperty.name (fields.map DeclaredField.property)
        ++ (formProperties settings fields documents plans).filter (fun p => p.name ∉
          (firstsBy FormProperty.name (fields.map DeclaredField.property)).map (·.name))
      = formProperties settings fields documents plans := by
  rw [formProperties_eq, List.filter_append, List.filter_filter]
  have hdeclared : (firstsBy FormProperty.name (fields.map DeclaredField.property)).filter
      (fun p => p.name ∉
        (firstsBy FormProperty.name (fields.map DeclaredField.property)).map (·.name)) = [] := by
    rw [List.filter_eq_nil_iff]
    intro p hp
    simpa using ⟨p, hp, rfl⟩
  rw [hdeclared, List.nil_append]
  simp only [Bool.and_self]

/-- A part with the declared fields and one with the whole form are joined to the form. -/
theorem outcome_assemble_shared {settings : Settings} {fields : List DeclaredField}
    {documents : List WalletDocument} {plans : List DocumentPlan} {app doc : Fragment}
    (happ : app.properties = firstsBy FormProperty.name (fields.map DeclaredField.property))
    (hdoc : doc.properties = formProperties settings fields documents plans) (title : Json) :
    (FormSchema.assemble app.part doc.part title).outcome.map FormSchema.withoutWarnings
      = FormSchema.ofProperties (formProperties settings fields documents plans) title [] := by
  have hpart : ∀ f : Fragment, f.part = ⟨f.properties.map builtMember, f.warnings⟩ := fun _ => rfl
  have hjoined := FormSchema.outcome_assemble
    (nodup_map_firstsBy FormProperty.name (fields.map DeclaredField.property))
    (nodup_formProperties settings fields documents plans) app.warnings doc.warnings title
  rw [declared_append_filter] at hjoined
  rw [hpart, hpart, happ, hdoc, hjoined, FormSchema.withoutWarnings_ofProperties]

/-- With one registry for both builders a compilation ends as it does with two: in the same failure,
or in a form that differs in its warnings alone. -/
theorem compileShared_eq_compileForm (settings : Settings) (fields : FieldInput) (rules : Json)
    (wallet : Wallet.Input) (title benefitId : Json) :
    (compileShared settings fields rules wallet title).outcome.map FormSchema.withoutWarnings
      = (compileForm settings fields rules wallet title benefitId).outcome.map
        FormSchema.withoutWarnings := by
  rw [outcome_compileForm_eq, FieldReading.outcome]
  simp only [compileShared, Trace.outcome_bind, Built.trace]
  cases hfields : fields.read.failure? with
  | some e =>
    simp only [FieldInput.build, hfields]
    rfl
  | none =>
    have hregistry : (fields.build {}).registry
        = (fields.read.fields.map DeclaredField.property).foldl (Registry.offer fun _ => [])
          (Registry.adopt {} fields.read.warnings) := by
      simp only [FieldInput.build, hfields, foldl_warn, Registry.addAll_eq_foldl_offer]
    have hdeclared : (fields.build {}).registry.properties = firstsBy FormProperty.name
        (fields.read.fields.map DeclaredField.property) := by
      rw [hregistry]
      exact congrArg Fragment.properties (fragment_foldl_offer _ _ _)
    rw [FieldInput.build_eq_ok.mpr ⟨hfields, rfl⟩, ok_bind, ok_bind, DocumentFields.outcome_build]
    -- neither the feed nor the wallet nor the plans depend on the registry
    cases (RuleFeed.normalize rules).outcome with
    | error e => rfl
    | ok normalized =>
      rw [ok_bind, ok_bind, DocumentFields.outcome_buildNormalized]
      cases wallet.load.outcome with
      | error e => rfl
      | ok documents =>
        rw [ok_bind, ok_bind]
        cases DocumentFields.plans normalized with
        | error e => rfl
        | ok plans =>
          rw [mapError_ok, ok_bind, ok_bind, pure_eq_ok, ok_bind,
            FormSchema.withoutWarnings_ofProperties]
          refine outcome_assemble_shared ?_ (properties_sharedRegistry ?_) title
          · rw [← hregistry]
            exact hdeclared
          · exact hdeclared

end BenefitForm
