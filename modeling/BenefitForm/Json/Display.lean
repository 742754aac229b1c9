import BenefitForm.Failure
import BenefitForm.Json
import BenefitForm.Number.Shortest
import BenefitForm.Text.Printable

/-!
# The display form of a value

Messages, labels and encoded contents show a value in its display form: `None`,
`True`, `1.0`, `'text'`, `[1, 'a']`, `{...}` with the members in order. A quoted
text stands in single quotes unless it holds one and no double quote, and every
code point that is not printable is escaped.

A whole number of more than 4300 digits has no display form.
-/

namespace BenefitForm

/-- The most digits a whole number may have to be written or read. -/
def maxDigits : Nat := 4300

/-- The numeral of a whole number with at most `maxDigits` digits. -/
def Text.ofBoundedInt (n : Int) : Except Fault Text :=
  if n.natAbs < powerOfTen maxDigits then .ok (Text.ofInt n) else .error .invalidValue

/-- One code point of a quoted text. -/
def CodePoint.quoted (quote c : CodePoint) : Text :=
  if c = quote || c.val = 0x5C then ['\\', c]
  else if c.val = 0x09 then Text.ofString "\\t"
  else if c.val = 0x0A then Text.ofString "\\n"
  else if c.val = 0x0D then Text.ofString "\\r"
  else if c.isPrintable then [c]
  else c.escape

/-- A text in quotes. -/
def Text.quoted (t : Text) : Text :=
  let quote : CodePoint := if t.contains '\'' && !t.contains '"' then '"' else '\''
  [quote] ++ t.flatMap (CodePoint.quoted quote) ++ [quote]

namespace Json

mutual

/-- The display form of a value. -/
def display : Json → Except Fault Text
  | .null => .ok (Text.ofString "None")
  | .bool b => .ok (Text.ofString (if b then "True" else "False"))
  | .int n => Text.ofBoundedInt n
  | .float x => .ok x.toText
  | .string t => .ok t.quoted
  | .array items => do
    let shown ← displayItems items
    return Text.ofString "[" ++ Text.join (Text.ofString ", ") shown ++ Text.ofString "]"
  | .object members => do
    let shown ← displayMembers members
    return Text.ofString "\x7b" ++ Text.join (Text.ofString ", ") shown ++ Text.ofString "\x7d"

/-- The display forms of a list's items. -/
def displayItems : List Json → Except Fault (List Text)
  | [] => .ok []
  | v :: rest => do
    let shown ← display v
    let others ← displayItems rest
    return shown :: others

/-- The display forms of an object's members. -/
def displayMembers : List (Text × Json) → Except Fault (List Text)
  | [] => .ok []
  | (k, v) :: rest => do
    let shown ← display v
    let others ← displayMembers rest
    return (k.quoted ++ Text.ofString ": " ++ shown) :: others

end

/-- A text as it is, and any other value in its display form. -/
def plain : Json → Except Fault Text
  | .string t => .ok t
  | v => v.display

end Json

end BenefitForm
