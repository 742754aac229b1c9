import BenefitForm.Schema

/-!
# Compiled and stored schemas

A filled form is checked and submitted against a schema that was just compiled or
against one that was stored as JSON: the whole schema, or its properties alone.
A `SchemaInput` is any of these.

- `SchemaInput.schema`: the schema as a JSON object.
- `SchemaInput.resolve`: its properties, and the names of the document fields
  where the schema lists them.
-/

namespace BenefitForm

/-- The schema that a filled form belongs to. -/
inductive SchemaInput where
  /-- A compiled form. -/
  | form (f : FormSchema)
  /-- A schema object, or its properties. -/
  | stored (v : Json)

namespace SchemaInput

/-- Whether a stored value has `properties` of its own. -/
def nestedProperties? (key : Text) : Json → Except Fault (Option Members)
  | .object members =>
    match Members.get? members key with
    | some (.object properties) => .ok (some properties)
    | _ => .ok none
  | .array items => if items.contains (.string key) then .error .noSuchMember else .ok none
  | .string t => if key.occursIn t then .error .noSuchMember else .ok none
  | _ => .error .wrongKind

/-- The schema as a JSON object. Members that have no text for a key are no keywords. -/
def schema : SchemaInput → Except Fault Json
  | .form f => .ok f.schema
  | .stored v => v.toEntries.map fun entries => .object entries.members

/-- The properties, and the names of the document fields where the schema lists them. -/
def resolve : SchemaInput → Except Fault (Entries × Option (List Key))
  | .form f => .ok (Entries.ofMembers f.properties, some (f.documentNames.map .text))
  | .stored v => do
    match ← nestedProperties? (Text.ofString "properties") v with
    | some properties => return (Entries.ofMembers properties, none)
    | none =>
      let properties ← v.toEntries
      return (properties, none)

end SchemaInput

end BenefitForm
