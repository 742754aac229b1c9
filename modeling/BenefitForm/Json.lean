import BenefitForm.Number.Binary64
import BenefitForm.Text

/-!
# JSON values

Definitions, rules, wallets and form values are JSON of any shape: a field that
should be a text may hold anything, and the program has an answer for each case.

- `Json`: the values, with whole and floating-point numbers kept apart and the
  members of an object in the order they were written.
- `Members`: an object's members, with `get?`, `set` (a second value for a key
  takes the place of the first) and `ofList`. The operations serve keys of any
  type that can be compared.
- `Json.truthy`: everything but null, false, zero and the empty.
- `Json.typeName`: the kind of a value as messages name it.
-/

namespace BenefitForm

/-- A JSON value. -/
inductive Json where
  | null
  | bool (b : Bool)
  | int (n : Int)
  | float (x : Binary64)
  | string (t : Text)
  | array (items : List Json)
  | object (members : List (Text × Json))

/-- The members of an object, in order. -/
abbrev Members := List (Text × Json)

namespace Members

variable {κ α : Type}

/-- The value of a key. -/
def get? [BEq κ] (members : List (κ × α)) (key : κ) : Option α := members.lookup key

/-- Whether a key is present. -/
def contains [BEq κ] (members : List (κ × α)) (key : κ) : Bool := members.any fun m => m.1 == key

/-- Give a key a value: in place where the key is present, at the end otherwise. -/
def set [BEq κ] (members : List (κ × α)) (key : κ) (value : α) : List (κ × α) :=
  if contains members key then members.map fun m => if m.1 == key then (m.1, value) else m
  else members ++ [(key, value)]

/-- Members written one after another, a later value for a key replacing the earlier. -/
def ofList [BEq κ] (entries : List (κ × α)) : List (κ × α) :=
  entries.foldl (fun members e => set members e.1 e.2) []

/-- The keys in order. -/
def keys (members : List (κ × α)) : List κ := members.map (·.1)

/-- The members without a key. -/
def erase [BEq κ] (members : List (κ × α)) (key : κ) : List (κ × α) :=
  members.filter fun m => m.1 != key

end Members

namespace Json

instance : Inhabited Json := ⟨.null⟩

/-- The text of a string literal as a value. -/
def text (s : String) : Json := .string (Text.ofString s)

/-- A text, or null. -/
def ofText? : Option Text → Json
  | some t => .string t
  | none => .null

/-- A list of texts. -/
def ofTexts (ts : List Text) : Json := .array (ts.map .string)

/-- An object with literal keys. -/
def record (fields : List (String × Json)) : Json :=
  .object (fields.map fun f => (Text.ofString f.1, f.2))

/-- Everything but null, false, zero and the empty text, list and object. -/
def truthy : Json → Bool
  | .null => false
  | .bool b => b
  | .int n => n ≠ 0
  | .float x => !x.isZero
  | .string t => !t.isEmpty
  | .array items => !items.isEmpty
  | .object members => !members.isEmpty

/-- Whether the value is null. -/
def isNull : Json → Bool
  | .null => true
  | _ => false

/-- The text that the value is. -/
def asText? : Json → Option Text
  | .string t => some t
  | _ => none

/-- The truth value that the value is. -/
def asBool? : Json → Option Bool
  | .bool b => some b
  | _ => none

/-- The items of a list. -/
def asArray? : Json → Option (List Json)
  | .array items => some items
  | _ => none

/-- The members of an object. -/
def asObject? : Json → Option Members
  | .object members => some members
  | _ => none

/-- The kind of a value. -/
def typeName : Json → String
  | .null => "NoneType"
  | .bool _ => "bool"
  | .int _ => "int"
  | .float _ => "float"
  | .string _ => "str"
  | .array _ => "list"
  | .object _ => "dict"

/-- The value of a key, null where the key is absent. -/
def member (members : Members) (key : String) : Json :=
  (Members.get? members (Text.ofString key)).getD .null

/-- The value of the first key that is present and not null. -/
def firstOf (members : Members) (keys : List String) : Json :=
  (keys.map (member members)).find? (fun v => !v.isNull) |>.getD .null

end Json

end BenefitForm
