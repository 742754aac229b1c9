import BenefitForm.Failure
import BenefitForm.Json

/-!
# The items of a value

Where a list is expected, any value that has items will do (`Json.iterate`): a
text has its code points and an object its keys.
-/

namespace BenefitForm

namespace Json

/-- The items of a value: those of a list, the code points of a text, the keys of an object. -/
def iterate : Json → Except Fault (List Json)
  | .array items => .ok items
  | .string t => .ok (t.map fun c => .string [c])
  | .object members => .ok (members.map fun m => .string m.1)
  | _ => .error .wrongKind

/-- The items of a value, and none of what counts as empty. -/
def iterateOrEmpty (v : Json) : Except Fault (List Json) :=
  if v.truthy then v.iterate else .ok []

end Json

end BenefitForm
