import BenefitForm.Field.Input
import BenefitForm.Registry

/-!
# Properties of declared fields

Each declared field becomes one property. Fields with a well-known name take the
constraints of its `FieldTemplate`; a choice with options lists their values and
labels. `FieldInput.build` adds the fields of an input to a registry and reports
the entries that are no fields.
-/

namespace BenefitForm

/-- The constraints of a well-known field. -/
structure FieldTemplate where
  /-- The title of a field that declares no label. -/
  title : String
  /-- The pattern of the values. -/
  pattern? : Option String := none
  /-- The format of the values. -/
  format? : Option String := none
  /-- The least length of the values. -/
  minLength? : Option Int := none
  /-- The greatest length of the values. -/
  maxLength? : Option Int := none

namespace FieldTemplate

/-- A mobile number with the country code. -/
def phone : FieldTemplate where
  title := "Enter valid phone number (+91XXXXXXXXXX)"
  pattern? := some "^\\+91[6-9]\\d\x7b9\x7d$"

/-- An identity number of twelve digits. -/
def identityNumber : FieldTemplate where
  title := "Enter valid Aadhar number (12 digits)"
  pattern? := some "^[0-9]\x7b12\x7d$"

/-- A postal code of six digits. -/
def postalCode : FieldTemplate where
  title := "Enter valid PIN code (6 digits)"
  pattern? := some "^[0-9]\x7b6\x7d$"

/-- A bank account number. -/
def bankAccount : FieldTemplate where
  title := "Enter valid bank account number (9-18 digits)"
  pattern? := some "^[0-9]+$"
  minLength? := some 9
  maxLength? := some 18

/-- The code of a bank branch. -/
def bankBranch : FieldTemplate where
  title := "Enter valid IFSC code (e.g., SBIN0001234)"
  pattern? := some "^[A-Z]\x7b4\x7d0[A-Z0-9]\x7b6\x7d$"

/-- An e-mail address. -/
def email : FieldTemplate where
  title := "Enter valid email address"
  pattern? := some "^[^\\s@]+@[^\\s@]+\\.[^\\s@]+$"

/-- A date of birth. -/
def birthDate : FieldTemplate where
  title := "Date of Birth"
  format? := some "date"

/-- A tax number. -/
def taxNumber : FieldTemplate where
  title := "Enter valid PAN card (e.g., ABCDE1234F)"
  pattern? := some "^[A-Z]\x7b5\x7d[0-9]\x7b4\x7d[A-Z]\x7b1\x7d$"

/-- The well-known names. -/
def table : List (String × FieldTemplate) :=
  [("bankAccountNumber", bankAccount), ("bankIfscCode", bankBranch), ("email", email),
    ("phone", phone), ("mobileNumber", phone), ("dateOfBirth", birthDate),
    ("panCard", taxNumber), ("aadharCard", identityNumber), ("uidai", identityNumber),
    ("pincode", postalCode), ("postalCode", postalCode)]

/-- The template of a name. -/
def find? (name : Text) : Option FieldTemplate :=
  (table.find? fun entry => Text.ofString entry.1 == name).map (·.2)

end FieldTemplate

namespace DeclaredField

/-- Whether the field offers a choice. -/
def isChoice (f : DeclaredField) : Bool :=
  ["radio", "select"].any fun t => Text.ofString t == f.type

/-- The property of a declared field. -/
def property (f : DeclaredField) : FormProperty :=
  let template? := FieldTemplate.find? f.name
  let listed := f.isChoice && !f.options.isEmpty
  { name := f.name
    title := match template? with
      | some t => if f.label.isEmpty then Text.ofString t.title else f.label
      | none => f.label
    required := f.required
    values? := if listed then some (f.options.map (·.value)) else none
    valueNames? := if listed then some (f.options.map (·.label)) else none
    groupName := f.groupName
    groupLabel := f.groupLabel
    pattern? := template?.bind fun t => t.pattern?.map Text.ofString
    format? := template?.bind fun t => t.format?.map Text.ofString
    minLength? := template?.bind (·.minLength?)
    maxLength? := template?.bind (·.maxLength?) }

end DeclaredField

namespace FieldReading

/-- The warning about an entry that is no field. -/
def warningOf (s : Text × Nat) : CompilationWarning where
  code := .malformedField
  message := s.1
  index? := some s.2

/-- The warnings about the entries that were left out. -/
def warnings (r : FieldReading) : List CompilationWarning := r.skipped.map warningOf

/-- The log records of a reading that no registry collects. -/
def records (r : FieldReading) : List LogRecord :=
  r.skipped.map fun s => .plain .warning .fields s.1

end FieldReading

/-- Add the fields of an input to a registry. Entries that are no fields are reported before
the first field is added. -/
def FieldInput.build (input : FieldInput) (registry : Registry) : Built :=
  let reading := input.read
  let warned := reading.warnings.foldl Registry.warn registry
  match reading.failure? with
  | some e => ⟨warned, registry.recordsSince warned, .error e⟩
  | none =>
    let added := warned.addAll (reading.fields.map DeclaredField.property)
    ⟨added, registry.recordsSince added, .ok added.fragment⟩

end BenefitForm
