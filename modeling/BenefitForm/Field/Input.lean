import BenefitForm.Field
import BenefitForm.Warning

/-!
# Field input

The fields of a form arrive as a list, or as a mapping from group names to
groups. Both are read into one list of fields (`FieldInput.read`): a field of a
mapping takes the name and the label of its group, a field of a list keeps those
it declares. An entry that is no field is left out, with the reason and its
position among all entries.

`FieldGrouping.ofRecords` makes the mapping of a catalog's field records.
-/

namespace BenefitForm

/-- An entry of a field list: a record, or a field that is already read. -/
inductive FieldEntry where
  | record (v : Json)
  | declared (f : DeclaredField)

/-- The fields of one group: a record, or a label with entries. -/
inductive FieldGroupEntry where
  | record (v : Json)
  | group (label : Json) (entries : List FieldEntry)

/-- The fields of a form. -/
inductive FieldInput where
  | flat (entries : List FieldEntry)
  | grouped (groups : List (Json × FieldGroupEntry))
  /-- A value that has no entries. -/
  | unusable

/-- What a field input holds. -/
structure FieldReading where
  /-- The entries in order: a field, or why and where an entry was left out. -/
  entries : List (Except (Text × Nat) DeclaredField) := []
  /-- What ended the reading before its end. -/
  failure? : Option Failure := none

namespace FieldEntry

/-- Read an entry. -/
def read : FieldEntry → Except Failure DeclaredField
  | .record v => DeclaredField.ofJson v
  | .declared f => .ok f

end FieldEntry

namespace FieldReading

/-- The fields that were read. -/
def fields (r : FieldReading) : List DeclaredField := r.entries.filterMap Except.toOption

/-- The reasons and positions of the entries that were left out. -/
def skipped (r : FieldReading) : List (Text × Nat) :=
  r.entries.filterMap fun
    | .error s => some s
    | .ok _ => none

/-- Go on with a second reading where the first came to its end. -/
def append (first second : FieldReading) : FieldReading :=
  match first.failure? with
  | some _ => first
  | none => ⟨first.entries ++ second.entries, second.failure?⟩

/-- Read the entries of a list, of which the first has the position `index`. -/
def ofEntries (place : DeclaredField → DeclaredField) (index : Nat) :
    List FieldEntry → FieldReading
  | [] => {}
  | entry :: rest =>
    match entry.read with
    | .ok f => append ⟨[.ok (place f)], none⟩ (ofEntries place (index + 1) rest)
    | .error (.malformedRule reason) =>
      append ⟨[.error (reason, index)], none⟩ (ofEntries place (index + 1) rest)
    | .error e => ⟨[], some e⟩

end FieldReading

namespace FieldGroupEntry

/-- The label and the entries of a group; a record that is no object is no group. -/
def contents : FieldGroupEntry → Except Fault (Option (Json × List FieldEntry))
  | .group label entries => .ok (some (label, entries))
  | .record (.object members) => do
    let entries ← (Json.member members "fields").iterateOrEmpty
    let label := (Members.get? members (Text.ofString "label")).getD (.string [])
    return some (label, entries.map .record)
  | .record _ => .ok none

end FieldGroupEntry

namespace FieldInput

/-- Read the groups of a mapping, of which the first entry has the position `index`. -/
def readGroups (index : Nat) : List (Json × FieldGroupEntry) → FieldReading
  | [] => {}
  | (name, group) :: rest =>
    match group.contents with
    | .error e => ⟨[], some (.fault e)⟩
    | .ok none => readGroups index rest
    | .ok (some (label, entries)) =>
      (FieldReading.ofEntries (fun f => { f with groupName := name, groupLabel := label })
        index entries).append (readGroups (index + entries.length) rest)

/-- Read all fields of an input. -/
def read : FieldInput → FieldReading
  | .flat entries => FieldReading.ofEntries id 0 entries
  | .grouped groups => readGroups 0 groups
  | .unusable => ⟨[], some (.fault .wrongKind)⟩

/-- The input that a JSON value is: an object is a mapping, and what counts as empty has no
entries. -/
def ofJson (v : Json) : FieldInput :=
  match v with
  | .object members => .grouped (members.map fun m => (.string m.1, .record m.2))
  | v =>
    match v.iterateOrEmpty with
    | .ok entries => .flat (entries.map .record)
    | .error _ => .unusable

/-- The input with its records read beforehand, so that a malformed one is a failure. -/
def declaredOfJson : Json → Except Failure FieldInput
  | .array entries => do
    let fields ← entries.mapM DeclaredField.ofJson
    return .flat (fields.map .declared)
  | .object members => do
    let groups ← members.mapM fun m =>
      match m.2 with
      | .object group => do
        let entries ← (Json.member group "fields").iterateOrEmpty
        let fields ← entries.mapM DeclaredField.ofJson
        let label := (Members.get? group (Text.ofString "label")).getD (.string [])
        return (Json.string m.1, FieldGroupEntry.group label (fields.map .declared))
      | v => return (Json.string m.1, FieldGroupEntry.record v)
    return .grouped groups
  | v => .ok (ofJson v)

end FieldInput

end BenefitForm
