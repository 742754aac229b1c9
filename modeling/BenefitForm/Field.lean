import BenefitForm.Rule.ProofSet

/-!
# Fields that a benefit declares

A benefit declares the fields of its application form as JSON records. A record
needs a name; everything else has a default. The options of a choice are records
with a value, or plain texts that are value and label at once.
-/

namespace BenefitForm

/-- One choice of a field. -/
structure FieldOption where
  /-- The value that the form submits. -/
  value : Text
  /-- The text that the applicant sees. -/
  label : Text
deriving DecidableEq

/-- A field of the application form as the benefit declares it. -/
structure DeclaredField where
  /-- The name of the field. -/
  name : Text
  /-- The title that the applicant sees. -/
  label : Text := []
  /-- The kind of input. -/
  type : Text := Text.ofString "string"
  /-- Whether the applicant has to fill it in. -/
  required : Bool := false
  /-- The choices, in order. -/
  options : List FieldOption := []
  /-- Whether several choices may be taken. -/
  multiple : Bool := false
  /-- The group of the field, null where it has none. -/
  groupName : Json := .null
  /-- The label of that group. -/
  groupLabel : Json := .null

namespace FieldOption

/-- The choice that an entry describes; an entry that describes none is left out. -/
def ofJson? : Json → Except Failure (Option FieldOption)
  | .object members =>
    match Members.get? members (Text.ofString "value") with
    | none => .ok none
    | some v => do
      let value ← v.plain
      let label ← ((Members.get? members (Text.ofString "label")).getD (.string value)).plain
      return some ⟨value, label⟩
  | .string t => .ok (some ⟨t, t⟩)
  | _ => .ok none

/-- The choice as a JSON object. -/
def toJson (o : FieldOption) : Json :=
  Json.record [("value", .string o.value), ("label", .string o.label)]

end FieldOption

namespace DeclaredField

/-- The text of a value, or a default where it counts as empty. -/
def textOr (default : Text) (v : Json) : Except Fault Text :=
  if v.truthy then v.plain else .ok default

/-- Read a field record. -/
def ofJson : Json → Except Failure DeclaredField
  | .object members =>
    match Json.member members "name" with
    | .string (c :: rest) => do
      let entries ← (Json.member members "options").iterateOrEmpty
      let options ← entries.mapM FieldOption.ofJson?
      let label ← textOr [] (Json.member members "label")
      let type ← textOr (Text.ofString "string") (Json.member members "type")
      return {
        name := c :: rest
        label := label
        type := type
        required := (Json.member members "required").asBool? == some true
        options := options.filterMap id
        multiple := (Json.member members "multiple").truthy
        groupName := Json.firstOf members ["groupName", "fieldsGroupName"]
        groupLabel := Json.firstOf members ["groupLabel", "fieldsGroupLabel"] }
    | _ => throw (.malformedRule (Text.ofString "Field entry missing 'name'"))
  | entry => do
    let shown ← entry.display
    throw (.malformedRule (Text.ofString "Field entry is not an object: " ++ shown))

/-- The field as a JSON object. -/
def toJson (f : DeclaredField) : Json :=
  Json.record [("name", .string f.name), ("label", .string f.label), ("type", .string f.type),
    ("required", .bool f.required), ("options", .array (f.options.map FieldOption.toJson)),
    ("multiple", .bool f.multiple), ("group_name", f.groupName), ("group_label", f.groupLabel)]

end DeclaredField

end BenefitForm
