import BenefitForm.Key

/-!
# Violations

A `Violation` is one thing about a value that its schema does not allow. A
`Finding` is a violation with the path from the whole data to the value, and a
`Report` is a finding put into words. The value is a `Subject`: filled values may
be an object whose keys are not all texts.

Reports are ordered by their place, the path with dots between its steps, and
reports of one place by their message (`Report.le`); the place of the whole data
is the empty text there although it is written `(root)`.
-/

namespace BenefitForm

/-- A value that a schema is applied to. -/
inductive Subject where
  | json (v : Json)
  /-- An object whose keys need not be texts. -/
  | keyed (entries : Entries)

namespace Subject

/-- Filled values: a JSON object where all keys are texts. -/
def ofEntries (entries : Entries) : Subject :=
  if entries.all fun e => e.1.asText?.isSome then .json (.object entries.members)
  else .keyed entries

/-- The JSON value that the subject is. -/
def asJson? : Subject → Option Json
  | .json v => some v
  | .keyed _ => none

/-- The members of an object. -/
def entries? : Subject → Option Entries
  | .json (.object members) => some (Entries.ofMembers members)
  | .json _ => none
  | .keyed entries => some entries

/-- The display form of the subject. -/
def display : Subject → Except Fault Text
  | .json v => v.display
  | .keyed entries => do
    let shown ← entries.mapM fun e => do
      let value ← e.2.display
      return e.1.display ++ Text.ofString ": " ++ value
    return Text.ofString "\x7b" ++ Text.join (Text.ofString ", ") shown ++ Text.ofString "\x7d"

end Subject

/-- What a schema does not allow about a value. -/
inductive Violation where
  /-- The schema allows no value. -/
  | refused (v : Subject)
  /-- The value has none of the types. -/
  | type (v : Subject) (types : List Json)
  /-- The value is none of those listed. -/
  | unlisted (v : Subject) (allowed : List Json)
  /-- The value is not the one that is expected. -/
  | constant (expected : Json)
  /-- No stretch of the text matches the pattern. -/
  | pattern (t pattern : Text)
  /-- The text has fewer code points than it must. -/
  | tooShort (t : Text) (least : Json)
  /-- The text has more code points than it may. -/
  | tooLong (t : Text) (most : Json)
  /-- The number is less than it must be. -/
  | tooSmall (v least : Json)
  /-- The number is greater than it may be. -/
  | tooGreat (v most : Json)
  /-- The object lacks a property. -/
  | missing (name : Text)
  /-- The object has properties that are not declared. -/
  | unexpected (names : List Key)

namespace Violation

/-- The words about a text that is too short. -/
def shortness (least : Json) : String :=
  if Json.equal least (.int 1) then " should be non-empty" else " is too short"

/-- The words about a text that is too long. -/
def length (most : Json) : String :=
  if Json.equal most (.int 0) then " is expected to be empty" else " is too long"

/-- The violation in words. -/
def message : Violation → Except Fault Text
  | .refused v => do
    let shown ← v.display
    return Text.ofString "False schema does not allow " ++ shown
  | .type v types => do
    let shown ← v.display
    let names ← Json.displayItems types
    return shown ++ Text.ofString " is not of type " ++ Text.join (Text.ofString ", ") names
  | .unlisted v allowed => do
    let shown ← v.display
    let others ← (Json.array allowed).display
    return shown ++ Text.ofString " is not one of " ++ others
  | .constant expected => do
    let shown ← expected.display
    return shown ++ Text.ofString " was expected"
  | .pattern t p => .ok (t.quoted ++ Text.ofString " does not match " ++ p.quoted)
  | .tooShort t least => .ok (t.quoted ++ Text.ofString (shortness least))
  | .tooLong t most => .ok (t.quoted ++ Text.ofString (length most))
  | .tooSmall v least => do
    let shown ← v.display
    let bound ← least.display
    return shown ++ Text.ofString " is less than the minimum of " ++ bound
  | .tooGreat v most => do
    let shown ← v.display
    let bound ← most.display
    return shown ++ Text.ofString " is greater than the maximum of " ++ bound
  | .missing name => .ok (name.quoted ++ Text.ofString " is a required property")
  | .unexpected names =>
    let sorted := names.mergeSort fun a b => Text.le a.label b.label
    let listed := Text.join (Text.ofString ", ") (sorted.map Key.display)
    let verb := if names.length = 1 then " was" else " were"
    .ok (Text.ofString "Additional properties are not allowed (" ++ listed ++ Text.ofString verb
      ++ Text.ofString " unexpected)")

end Violation

/-- A violation and where it is. -/
structure Finding where
  /-- The names and positions that lead from the whole data to the value. -/
  path : List Text
  /-- What is not allowed. -/
  violation : Violation

namespace Finding

/-- The same finding one step further down. -/
def within (step : Text) (f : Finding) : Finding := { f with path := step :: f.path }

end Finding

/-- A finding in words. -/
structure Report where
  /-- The path to the value. -/
  path : List Text
  /-- What is not allowed. -/
  message : Text
deriving DecidableEq

namespace Report

/-- The report of a finding. -/
def ofFinding (f : Finding) : Except Fault Report := do
  let message ← f.violation.message
  return ⟨f.path, message⟩

/-- The path as one text. -/
def place (r : Report) : Text := Text.join (Text.ofString ".") r.path

/-- The order of reports: by place, then by message. -/
def le (a b : Report) : Bool :=
  if a.place = b.place then Text.le a.message b.message else Text.le a.place b.place

/-- The report as one text. -/
def toText (r : Report) : Text :=
  (if r.path.isEmpty then Text.ofString "(root)" else r.place) ++ Text.ofString ": " ++ r.message

end Report

end BenefitForm
