import BenefitForm.Json.Display
import BenefitForm.Json.Equal
import BenefitForm.Json.Items

/-!
# Keys

The members of a JSON object have texts for keys. A list of pairs may stand for
an object too, and then a member may have any value for its key that holds no
other values: a `Key`. Two keys are one where their values are equal, so that
`1`, `1.0` and `true` are one key.

- `Entries`: members whose keys need not be texts, in order.
- `Json.toEntries`: the members of an object or of a list of pairs.
- `MemberKey`: what functions on members ask of a type of keys; texts and keys
  both serve.
-/

namespace BenefitForm

/-- What a member of an object may be found under. -/
inductive Key where
  | null
  | bool (b : Bool)
  | int (n : Int)
  | float (x : Binary64)
  | text (t : Text)

/-- Members whose keys need not be texts, in order. -/
abbrev Entries := List (Key × Json)

namespace Key

/-- The key as a value. -/
def toJson : Key → Json
  | .null => .null
  | .bool b => .bool b
  | .int n => .int n
  | .float x => .float x
  | .text t => .string t

/-- The key that a value is; lists and objects are none. -/
def ofJson? : Json → Option Key
  | .null => some .null
  | .bool b => some (.bool b)
  | .int n => some (.int n)
  | .float x => some (.float x)
  | .string t => some (.text t)
  | _ => none

/-- The key that a value has to be. -/
def ofJson (v : Json) : Except Fault Key :=
  match ofJson? v with
  | some k => .ok k
  | none => .error .wrongKind

instance : BEq Key := ⟨fun a b => Json.equal a.toJson b.toJson⟩

instance : Inhabited Key := ⟨.null⟩

/-- The text that the key is. -/
def asText? : Key → Option Text
  | .text t => some t
  | _ => none

/-- The key in words: a text as it is. -/
def label : Key → Text
  | .null => Text.ofString "None"
  | .bool b => Text.ofString (if b then "True" else "False")
  | .int n => Text.ofInt n
  | .float x => x.toText
  | .text t => t

/-- The key in display form: a text in quotes. -/
def display : Key → Text
  | .text t => t.quoted
  | k => k.label

/-- The key as a key of a JSON document, where it has to be a text. -/
def memberName : Key → Text
  | .null => Text.ofString "null"
  | .bool b => Text.ofString (if b then "true" else "false")
  | .float .nan => Text.ofString "NaN"
  | .float (.infinite negative) => Text.ofString (if negative then "-Infinity" else "Infinity")
  | k => k.label

/-- The position that the key is in a list; a negative one counts from the end. -/
def position? (k : Key) (length : Nat) : Option Int :=
  let index (n : Int) : Int := if n < 0 then n + length else n
  match k with
  | .bool b => some (if b then 1 else 0)
  | .int n => some (index n)
  | _ => none

/-- The item of a list that the key is the position of. -/
def itemIn (k : Key) (items : List Json) : Except Fault Json :=
  match k.position? items.length with
  | none => .error .wrongKind
  | some i =>
    if i < 0 then .error .missingPosition
    else match items[i.toNat]? with
      | some v => .ok v
      | none => .error .missingPosition

end Key

/-- A type whose values the members of an object may be found under. -/
class MemberKey (κ : Type) where
  /-- The key that a text is. -/
  ofText : Text → κ
  /-- The key that a value of the type stands for. -/
  key : κ → Key

instance : MemberKey Text := ⟨fun t => t, .text⟩

instance : MemberKey Key := ⟨.text, fun k => k⟩

namespace Entries

/-- The members of an object. -/
def ofMembers (members : Members) : Entries := members.map fun m => (.text m.1, m.2)

/-- The members that have texts for keys. -/
def members (entries : Entries) : Members :=
  entries.filterMap fun e => e.1.asText?.map fun t => (t, e.2)

/-- The entries as an object of a JSON document. -/
def toJson (entries : Entries) : Json := .object (entries.map fun e => (e.1.memberName, e.2))

end Entries

namespace Json

/-- The members of an object, or of a list of pairs that stands for one. -/
def toEntries : Json → Except Fault Entries
  | .object members => .ok (Entries.ofMembers members)
  | v => do
    let items ← v.iterate
    let pairs ← items.mapM fun item => do
      match ← item.iterate with
      | [key, value] => return (← Key.ofJson key, value)
      | _ => throw .invalidValue
    return Members.ofList pairs

end Json

end BenefitForm
