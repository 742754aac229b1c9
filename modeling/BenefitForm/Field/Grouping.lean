import BenefitForm.Field.Input
import BenefitForm.Settings

/-!
# Grouping of catalog fields

A catalog's field records name their group themselves. `FieldGroup.ofRecords`
gathers the records of each group in order; records without a group share the
default one. A group has the label of its first record.
-/

namespace BenefitForm

/-- The records of one group. -/
structure FieldGroup where
  /-- The name of the group, any value that can be a key. -/
  name : Json
  /-- Its label. -/
  label : Json
  /-- Its field records, in order. -/
  records : List Json

namespace FieldGroup

/-- A value, or a text where the value counts as empty. -/
def valueOr (default : Text) (v : Json) : Json := if v.truthy then v else .string default

/-- Put a record into the group of its name, or into a new one at the end. -/
def place (groups : List FieldGroup) (name label record : Json) : List FieldGroup :=
  if groups.any fun g => g.name == name then
    groups.map fun g => if g.name == name then { g with records := g.records ++ [record] } else g
  else groups ++ [⟨name, label, [record]⟩]

/-- Gather records; an entry that is no object is passed over. -/
def gather (groups : List FieldGroup) : List Json → Except Fault (List FieldGroup)
  | [] => .ok groups
  | .object members :: rest =>
    let name := valueOr defaultGroup (Json.member members "fieldsGroupName")
    let label := valueOr defaultGroupLabel (Json.member members "fieldsGroupLabel")
    if name.canBeKey then gather (place groups name label (.object members)) rest
    else .error .wrongKind
  | _ :: rest => gather groups rest

/-- The groups of the records among the items of a value. -/
def ofRecords (v : Json) : Except Fault (List FieldGroup) := do
  let entries ← v.iterate
  gather [] entries

/-- The group as a member of a field mapping. -/
def entry (g : FieldGroup) : Json × FieldGroupEntry :=
  (g.name, .record (Json.record [("label", g.label), ("fields", .array g.records)]))

/-- The groups as a field mapping. -/
def input (groups : List FieldGroup) : FieldInput := .grouped (groups.map entry)

end FieldGroup

end BenefitForm
