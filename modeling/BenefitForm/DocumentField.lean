import BenefitForm.Label
import BenefitForm.Registry
import BenefitForm.Rule.Plan
import BenefitForm.Upload
import BenefitForm.Wallet

/-!
# Document fields

A planned document field becomes a selector among the wallet's matching
documents (`DocumentPlan.property`). With none it keeps a single empty option, so
that the form can be shown, and the compilation warns that a document is missing.
`DocumentFields.build` adds the fields of a rule feed to a registry.
-/

namespace BenefitForm

namespace DocumentPlan

/-- The title with the proofs in readable form. -/
def fullTitle (plan : DocumentPlan) : Text :=
  if plan.proofLabel.isEmpty then plan.title
  else plan.title ++ Text.ofString " (" ++ Label.humanize plan.proofLabel ++ Text.ofString ")"

/-- The property of a planned field. -/
def property (settings : Settings) (wallet : List WalletDocument) (plan : DocumentPlan) :
    FormProperty :=
  let found := Wallet.matching plan.proofs wallet
  let values := found.map (·.content)
  { name := plan.name
    title := plan.fullTitle
    required := plan.required
    values? := some (if values.isEmpty then [[]] else values)
    valueNames? := some (found.map (·.subtype))
    default? := some (values.headD [])
    groupName := .string documentsGroup
    groupLabel := .string documentsGroupLabel
    documentMeta? := some {
      submissionReasons := plan.submissionReasons
      documentType := plan.documentType
      documentSubtype? := plan.documentSubtype?
      format := documentFormat
      issuer := settings.issuer
      isFileUpload := Upload.isUploadName settings.uploadPatterns plan.name } }

end DocumentPlan

namespace DocumentFields

/-- What is said about a field that no document satisfies. -/
def missingMessage (name : Text) : Text := name ++ Text.ofString " does not have a document"

/-- The warning about a field that no document satisfies. -/
def unmatched (name : Text) : CompilationWarning where
  code := .unmatchedDocument
  message := missingMessage name
  fieldName := .string name
  index? := none

/-- Whether no document satisfies a property. -/
def isUnmatched (p : FormProperty) : Bool := (p.valueNames?.getD []).isEmpty

/-- Add a document field, and warn where no document satisfies it. -/
def add (r : Registry) (p : FormProperty) : Registry :=
  -- about a field that is refused the registry itself has warned
  if (r.add p).2 && isUnmatched p then (r.add p).1.warn (unmatched p.name) else (r.add p).1

/-- The fields of the rules in order: those of the groups, then those of document rules. -/
def plans (rules : NormalizedRules) : Except Fault (List DocumentPlan) := do
  let groups := ProofGroup.ofCriteria rules.criteria
  let grouped ← groups.mapM fun g => g.plans rules
  return grouped.flatten ++ DocumentRule.plans rules.documentRules groups

/-- The log record that sums up a compilation of document fields. -/
def summary (r : Registry) (plans : List DocumentPlan) : LogRecord :=
  .plain .debug .documents (Text.ofString "built " ++ Text.ofNat r.size
    ++ Text.ofString " document fields from " ++ Text.ofNat plans.length ++ Text.ofString " plans")

/-- Add the fields of normalized rules to a registry. The warnings of the rules are taken over
before the wallet is read. -/
def buildNormalized (settings : Settings) (rules : NormalizedRules) (wallet : Wallet.Input)
    (registry : Registry) : Built :=
  let adopted := registry.adopt rules.warnings
  let loaded := wallet.load
  match loaded.outcome with
  | .error e => ⟨adopted, loaded.records, .error e⟩
  | .ok documents =>
    match plans rules with
    | .error e => ⟨adopted, loaded.records, .error (.fault e)⟩
    | .ok plans =>
      let built := (plans.map (DocumentPlan.property settings documents)).foldl add adopted
      ⟨built, loaded.records ++ adopted.recordsSince built ++ [summary built plans],
        .ok built.fragment⟩

/-- Add the fields of a rule feed to a registry. -/
def build (settings : Settings) (feed : Json) (wallet : Wallet.Input) (registry : Registry) :
    Built :=
  let normalized := RuleFeed.normalize feed
  match normalized.outcome with
  | .error e => ⟨registry, normalized.records, .error e⟩
  | .ok rules =>
    let built := buildNormalized settings rules wallet registry
    { built with records := normalized.records ++ built.records }

end DocumentFields

end BenefitForm
