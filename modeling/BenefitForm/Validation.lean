import BenefitForm.Log
import BenefitForm.Schema.Input
import BenefitForm.Validation.WellFormed

/-!
# Validation

`checkSchema` says whether a schema is well formed and `validate` what it does
not allow about filled values. The number of reports has a limit: reports past it
are left out, and one last entry says so.

A selector without a matching document accepts its empty option, so that a
missing document is no violation; `missingDocumentErrors` reports it instead.
-/

namespace BenefitForm

/-- What keeps a schema from being well formed: nothing or one message. -/
def problemsOf (schema : Json) : Except Fault (List Text) := do
  match ← schema.schemaProblem? with
  | none => return []
  | some p =>
    let message ← p.message
    return [Text.ofString "Invalid schema: " ++ message]

/-- What keeps a form's schema from being well formed. -/
def checkSchema (schema : SchemaInput) : Except Fault (List Text) := do
  let schema ← schema.schema
  problemsOf schema

/-- Reports in their order. -/
def sortedReports (schema : Json) (data : Subject) : Except Fault (List Report) := do
  let reports ← (schema.findings data).mapM Report.ofFinding
  return reports.mergeSort Report.le

/-- How many reports are given. -/
structure ReportLimit where
  /-- The number that the count of reports is held against. -/
  most : Json.Number
  /-- The limit in words. -/
  shown : Text

namespace ReportLimit

/-- The limit that a whole number is. -/
def ofInt (n : Int) : ReportLimit := ⟨.exact n, Text.ofInt n⟩

/-- The limit that a value is; it has to be a number or a truth value. -/
def ofJson : Json → Except Fault ReportLimit
  | .int n => .ok (ofInt n)
  | .float x => .ok ⟨.binary x, x.toText⟩
  | .bool b =>
    .ok ⟨.exact (if b then 1 else 0), Text.ofString (if b then "True" else "False")⟩
  | _ => .error .wrongKind

/-- Whether a count of reports has come up to the limit. None comes up to what is not a number. -/
def isReached (limit : ReportLimit) (count : Nat) : Bool :=
  ((Json.Number.exact count).compare? limit.most).any Ordering.isGE

end ReportLimit

/-- The entry that stands for the reports past the limit. -/
def limitMarker (limit : ReportLimit) : Text :=
  Text.ofString "... and more errors (stopped at " ++ limit.shown ++ Text.ofString ")"

/-- Add reports to those that are given already. A report that would come after the limit is
reached is not given, nor any after it: the marker stands for them. -/
def collect (limit : ReportLimit) : List Text → List Text → List Text
  | errors, [] => errors
  | errors, report :: rest =>
    if limit.isReached errors.length then errors ++ [limitMarker limit]
    else collect limit (errors ++ [report]) rest

/-- The reports that a limit allows, and the marker where there are more. -/
def bounded (limit : ReportLimit) (reports : List Text) : List Text := collect limit [] reports

/-- The log record about values that a schema does not allow. -/
def invalidRecord (errors : List Text) : LogRecord :=
  .plain .debug .validation (Text.ofString "form data failed validation with "
    ++ Text.ofNat errors.length ++ Text.ofString " errors")

/-- What a schema does not allow about filled values. A schema that is not well formed is reported
instead. Null stands for the usual limit; a limit is looked at where there is anything to
report. -/
def validate (settings : Settings) (schema : SchemaInput) (data limit : Json) :
    Trace (List Text) := do
  let schema ← schema.schema
  let problems ← problemsOf schema
  if !problems.isEmpty then return problems
  let entries ← data.toEntries
  let reports ← sortedReports schema (.ofEntries entries)
  if reports.isEmpty then return []
  let limit ← if limit.isNull then pure (.ofInt settings.maxErrors) else ReportLimit.ofJson limit
  let errors := bounded limit (reports.map Report.toText)
  if !errors.isEmpty then Trace.note (invalidRecord errors)
  return errors

/-- The messages about document fields that no document satisfies: all of them, or those of
required fields. -/
def missingDocumentErrors {κ : Type} [BEq κ] [MemberKey κ] (required missing : List κ)
    (requiredOnly : Bool) : List (κ × List Text) :=
  Members.ofList ((missing.filter fun name => !requiredOnly || required.contains name).map
    fun name =>
      (name, [(MemberKey.key name).label ++ Text.ofString " does not have a document"]))

/-- The messages about one field in the form in which the renderer takes them. -/
def extraError (messages : List Text) : Json := Json.record [("__errors", Json.ofTexts messages)]

/-- The messages about fields in the form in which the renderer takes them. -/
def extraErrors {κ : Type} (errors : List (κ × List Text)) : List (κ × Json) :=
  errors.map fun e => (e.1, extraError e.2)

namespace FormSchema

/-- The messages about the document fields of a form that no document satisfies. -/
def missingErrors (f : FormSchema) (requiredOnly : Bool) : List (Text × List Text) :=
  missingDocumentErrors f.required f.missing requiredOnly

end FormSchema

end BenefitForm
