import BenefitForm.Catalog
import BenefitForm.DocumentField
import BenefitForm.Field.Grouping
import BenefitForm.Field.Schema
import BenefitForm.Prefill
import BenefitForm.Schema

/-!
# Compiling a form

`compileForm` joins the declared fields of a benefit, its rules and the wallet of
an applicant into a form schema. `compileCatalog` takes the fields and rules from
a catalog answer and the wallet and first values from pre-fill data.
-/

namespace BenefitForm

/-- A form ready to be shown. -/
structure CompiledForm where
  /-- The schema and the hints for the renderer. -/
  form : FormSchema
  /-- The values that the form starts with. -/
  formData : List (Text × Text)
  /-- The applicant's documents, for the submission. -/
  wallet : List WalletDocument
  /-- The reviewer's remark. -/
  remark? : Option Text
  /-- The benefit. -/
  benefitId : Json

/-- The log record that sums up a compilation. -/
def compiledRecord (form : FormSchema) (benefitId : Json) : LogRecord where
  level := .info
  source := .compiler
  message := Text.ofString "compiled form fields=" ++ Text.ofNat form.properties.length
    ++ Text.ofString " required=" ++ Text.ofNat form.required.length
    ++ Text.ofString " documents=" ++ Text.ofNat form.documentNames.length
    ++ Text.ofString " missing=" ++ Text.ofNat form.missing.length
    ++ Text.ofString " warnings=" ++ Text.ofNat form.warnings.length
  benefitId? := some (if benefitId.truthy then benefitId else Json.text "-")
  fieldName? := none

/-- Compile fields, rules and a wallet into a form. The benefit is only named in the log. -/
def compileForm (settings : Settings) (fields : FieldInput) (rules : Json) (wallet : Wallet.Input)
    (title benefitId : Json) : Trace FormSchema := do
  let app ← (fields.build {}).trace
  let doc ← (DocumentFields.build settings rules wallet {}).trace
  let form ← FormSchema.assemble app.part doc.part title
  Trace.note (compiledRecord form benefitId)
  return form

/-- Compile the form of a catalog answer and pre-fill data. -/
def compileCatalog (settings : Settings) (catalog prefill benefitId : Json) :
    Trace CompiledForm := do
  let item ← Catalog.parse catalog
  let payload ← Prefill.parse prefill
  let groups ← FieldGroup.ofRecords (.array item.fields)
  let form ← compileForm settings (FieldGroup.input groups) (.array item.rules)
    (.documents payload.wallet) (.string []) benefitId
  let personal := (Members.keys form.properties).filter fun name =>
    !form.documentNames.contains name
  let data ← Prefill.formData payload.values personal
  return ⟨form, data, payload.wallet, payload.remark?, benefitId⟩

end BenefitForm
