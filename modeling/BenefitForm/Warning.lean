import BenefitForm.Key
import BenefitForm.Log

/-!
# Warnings of a compilation

A definition with mistakes still compiles: what cannot be used is left out and
reported in a `CompilationWarning`, next to the form.
-/

namespace BenefitForm

/-- What was found while a form was compiled. -/
inductive WarningCode where
  /-- A rule entry was left out. -/
  | malformedRule
  /-- A field entry was left out. -/
  | malformedField
  /-- A second field of one name was left out. -/
  | duplicateField
  /-- No document of the wallet satisfies a field. -/
  | unmatchedDocument
deriving DecidableEq

namespace WarningCode

/-- The name of a code. -/
def name : WarningCode → String
  | .malformedRule => "MALFORMED_RULE"
  | .malformedField => "MALFORMED_FIELD"
  | .duplicateField => "DUPLICATE_FIELD"
  | .unmatchedDocument => "UNMATCHED_DOCUMENT"

/-- The code of a name. -/
def ofName? (t : Text) : Option WarningCode :=
  [malformedRule, malformedField, duplicateField, unmatchedDocument].find? fun c =>
    Text.ofString c.name == t

end WarningCode

/-- Something that did not stop a compilation. -/
structure CompilationWarning where
  /-- The kind of the warning. -/
  code : WarningCode
  /-- The warning in words. -/
  message : Text
  /-- The generated field it is about, null where it is about none. -/
  fieldName : Json := .null
  /-- The position of the entry it is about. -/
  index? : Option Int

namespace CompilationWarning

/-- The warning that a second field of a name was left out. -/
def duplicate (name : Key) : CompilationWarning where
  code := .duplicateField
  message := Text.ofString "Skipped duplicate field creation: " ++ name.label
  fieldName := name.toJson
  index? := none

/-- The warning as a JSON object. -/
def toJson (w : CompilationWarning) : Json :=
  Json.record [("code", Json.text w.code.name), ("message", .string w.message),
    ("field_name", w.fieldName),
    ("rule_index", match w.index? with | some i => .int i | none => .null)]

end CompilationWarning

end BenefitForm
