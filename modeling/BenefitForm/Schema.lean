import BenefitForm.Registry
import BenefitForm.Settings
import BenefitForm.Upload

/-!
# Form schemas

A `FormSchema` joins the application fields and the document fields of a form:
the schema itself, the hints that tell the renderer in which order and in which
groups to show the fields, and the names of the document fields.

- `FormSchema.assemble`: application fields first; a document field whose name is
  taken is left out with a warning; the marks of required properties move into
  the list of required names.
- `documentNames`: the properties that are submitted as documents.
- `missingDocuments`: those whose selector has no real option.
- `displayHints`: groups in order of first appearance, then fields without a
  group, then the documents.

The functions take properties of any JSON shape, since a stored schema may be
read back, and names of any type of keys: a compiled form has texts (`Text`), a
part read from a list of pairs may have others (`Key`).
-/

namespace BenefitForm

variable {κ : Type}

/-- Whether a property is submitted as a document: it carries a document's metadata or stands in
the documents group. -/
def isDocumentProperty : Json → Except Fault Bool
  | .object members =>
    let group := Json.member members "fieldGroup"
    if (Json.member members "vcMeta").truthy then .ok true
    else do
      let group ← Upload.membersOrEmpty group
      return Json.equal (Json.member group "groupName") (.string documentsGroup)
  | _ => .ok false

/-- The names of the properties that are submitted as documents, in order. -/
def documentNames : List (κ × Json) → Except Fault (List κ)
  | [] => .ok []
  | (name, property) :: rest => do
    let isDocument ← isDocumentProperty property
    let others ← documentNames rest
    return if isDocument then name :: others else others

/-- The names that are neither document fields nor system fields, in order. -/
def personalNames {α : Type} [BEq α] (names documents system : List α) : List α :=
  names.filter fun name => !documents.contains name && !system.contains name

/-- Whether a value is among the system fields: those given, or the usual ones for null. A text
given in their place has its parts for members. -/
def isSystemField (system name : Json) : Except Fault Bool :=
  match system with
  | .null => .ok ((systemFields.map Json.string).contains name)
  | .string t =>
    match name with
    | .string part => .ok (part.occursIn t)
    | _ => .error .wrongKind
  | system => system.iterate.map fun items => items.contains name

/-- `personalNames` for lists of any shape; every name has to be a key. -/
def personalItems (names documents system : Json) : Except Fault (List Json) := do
  let documents ← documents.iterate
  let names ← names.iterate
  if (documents ++ names).all Json.canBeKey then
    (names.filter fun name => !documents.contains name).filterM fun name =>
      (isSystemField system name).map not
  else throw .wrongKind

/-- Whether the options of a selector are listed and all empty. -/
def hasNoOption (options : Json) : Except Fault Bool :=
  if options.isNull then .ok false
  else do
    let items ← options.iterate
    return !items.any Json.truthy

/-- Whether the property of a name is a selector without a real option; an absent property is
none. -/
def lacksDocument [BEq κ] (properties : List (κ × Json)) (name : κ) : Except Fault Bool :=
  match Members.get? properties name with
  | none => .ok false
  | some (.object members) => hasNoOption (Json.member members "enum")
  | some _ => .error .noSuchMember

/-- The names among the given whose selector has no real option, in order. -/
def missingDocuments [BEq κ] (properties : List (κ × Json)) : List κ → Except Fault (List κ)
  | [] => .ok []
  | name :: rest => do
    let lacks ← lacksDocument properties name
    let others ← missingDocuments properties rest
    return if lacks then name :: others else others

/-- `missingDocuments` for names of any shape; each has to be a key where it is reached. -/
def missingItems (properties : Entries) : List Json → Except Fault (List Json)
  | [] => .ok []
  | name :: rest => do
    let key ← Key.ofJson name
    let lacks ← lacksDocument properties key
    let others ← missingItems properties rest
    return if lacks then name :: others else others

/-- The fields of one group, for the renderer. -/
structure DisplayGroup (κ : Type) where
  /-- The name of the group, any value that can be a key. -/
  name : Json
  /-- The label of the group. -/
  label : Json
  /-- The names of its fields, in order. -/
  fields : List κ

namespace DisplayGroup

/-- Put a field into the group of a name, or into a new one at the end. -/
def place (groups : List (DisplayGroup κ)) (name label : Json) (field : κ) :
    List (DisplayGroup κ) :=
  if groups.any fun g => g.name == name then
    groups.map fun g => if g.name == name then { g with fields := g.fields ++ [field] } else g
  else groups ++ [⟨name, label, [field]⟩]

/-- Whether the group is that of the document fields. -/
def isDocuments (g : DisplayGroup κ) : Bool := g.name == .string documentsGroup

/-- The hint for a field of the group; `first` marks the one that the group's heading precedes. -/
def hint (g : DisplayGroup κ) (first : Bool) : Json :=
  Json.record [("ui:group", g.name), ("ui:groupLabel", g.label), ("ui:groupFirst", .bool first)]

/-- The hints for the fields of the group. -/
def hints (g : DisplayGroup κ) : List (κ × Json) :=
  match g.fields with
  | [] => []
  | first :: rest => (first, g.hint true) :: rest.map fun name => (name, g.hint false)

end DisplayGroup

/-- The groups of the properties, and the names of those without a group. -/
def displayGroups : List (κ × Json) → List (DisplayGroup κ) → List κ →
    Except Fault (List (DisplayGroup κ) × List κ)
  | [], groups, ungrouped => .ok (groups, ungrouped)
  | (name, property) :: rest, groups, ungrouped =>
    let group := match property with
      | .object members => Json.member members "fieldGroup"
      | _ => .null
    if group.truthy then
      match group with
      | .object members =>
        let groupName := Json.member members "groupName"
        -- the group is looked up by its name, whatever value that is
        if groupName.canBeKey then
          displayGroups rest
            (DisplayGroup.place groups groupName (Json.member members "groupLabel") name) ungrouped
        else .error .wrongKind
      | _ => .error .noSuchMember
    else displayGroups rest groups (ungrouped ++ [name])

/-- The order of the fields: groups but that of the documents, personal fields without a group,
the documents group, document fields without a group. -/
def displayOrder [BEq κ] (groups : List (DisplayGroup κ)) (ungrouped documents : List κ) : List κ :=
  (groups.filter fun g => !g.isDocuments).flatMap (·.fields)
    ++ ungrouped.filter (fun name => !documents.contains name)
    ++ (groups.filter fun g => g.isDocuments).flatMap (·.fields)
    ++ ungrouped.filter fun name => documents.contains name

/-- Names as a JSON list. -/
def namesJson [MemberKey κ] (names : List κ) : Json :=
  .array (names.map fun name => (MemberKey.key name).toJson)

/-- The renderer's hints: the order of all fields, then the group of each field that has one. -/
def displayHints [BEq κ] [MemberKey κ] (properties : List (κ × Json)) (documents : List κ) :
    Except Fault (List (κ × Json)) := do
  let (groups, ungrouped) ← displayGroups properties [] []
  return (groups.flatMap DisplayGroup.hints).foldl (fun hints h => Members.set hints h.1 h.2)
    [(MemberKey.ofText (Text.ofString "ui:order"),
      namesJson (displayOrder groups ungrouped documents))]

/-- A form as it is handed to the renderer. -/
structure FormSchema (κ : Type := Text) where
  /-- The title of the form. -/
  title : Json
  /-- The names of the required properties. -/
  required : List κ
  /-- The properties, in order. -/
  properties : List (κ × Json)
  /-- The hints for the renderer. -/
  hints : List (κ × Json)
  /-- The names of the properties submitted as documents. -/
  documentNames : List κ
  /-- The document fields that no document satisfies. -/
  missing : List κ
  /-- What was found during compilation. -/
  warnings : List CompilationWarning

/-- A part of a form schema before it is joined with others. -/
structure SchemaPart (κ : Type) where
  /-- The properties, in order. -/
  properties : List (κ × Json)
  /-- What was found while the part was built. -/
  warnings : List CompilationWarning

namespace SchemaPart

/-- The part that a JSON object is. -/
def ofJson : Json → Except Fault (SchemaPart Key)
  | .object members =>
    let properties := Json.member members "properties"
    if properties.truthy then properties.toEntries.map (⟨·, []⟩) else .ok ⟨[], []⟩
  | _ => .error .noSuchMember

/-- A part with its names as keys. -/
def keyed (p : SchemaPart Text) : SchemaPart Key := ⟨Entries.ofMembers p.properties, p.warnings⟩

end SchemaPart

/-- What a builder made, as a part of a form schema. -/
def Fragment.part (f : Fragment) : SchemaPart Text :=
  ⟨f.properties.map fun p => (p.name, p.toJson), f.warnings⟩

namespace FormSchema

/-- Properties with those of a second part added, and the names that were taken. -/
def mergeProperties [BEq κ] (properties : List (κ × Json)) :
    List (κ × Json) → List (κ × Json) × List κ
  | [] => (properties, [])
  | (name, property) :: rest =>
    if Members.contains properties name then
      let (merged, taken) := mergeProperties properties rest
      (merged, name :: taken)
    else mergeProperties (properties ++ [(name, property)]) rest

/-- Take the marks of required properties out of the properties and list the names. -/
def hoistRequired : List (κ × Json) → Except Fault (List (κ × Json) × List κ)
  | [] => .ok ([], [])
  | (name, .object members) :: rest => do
    let (properties, required) ← hoistRequired rest
    -- other values than the truth value mark nothing
    let marked := (Json.member members "required").asBool? == some true
    return ((name, .object (Members.erase members (Text.ofString "required"))) :: properties,
      if marked then name :: required else required)
  | (_, .array _) :: _ => .error .wrongKind
  | _ => .error .noSuchMember

/-- The log record about a document field whose name is taken. -/
def takenRecord (name : Key) : LogRecord :=
  .ofField .warning .assembler name.toJson (CompilationWarning.duplicate name).message

/-- Join the application fields and the document fields. -/
def assemble [BEq κ] [MemberKey κ] (app doc : SchemaPart κ) (title : Json) :
    Trace (FormSchema κ) := do
  let (merged, taken) := mergeProperties app.properties doc.properties
  let takenKeys := taken.map MemberKey.key
  Trace.notes (takenKeys.map takenRecord)
  let (properties, required) ← hoistRequired merged
  let documents ← BenefitForm.documentNames properties
  let hints ← displayHints properties documents
  let missing ← missingDocuments properties documents
  return {
    title, required, properties, hints, missing
    documentNames := documents
    warnings := app.warnings ++ doc.warnings ++ takenKeys.map CompilationWarning.duplicate }

/-- The schema as a JSON object. -/
def schema (f : FormSchema) : Json :=
  Json.record [("title", f.title), ("type", Json.text "object"),
    ("required", Json.ofTexts f.required), ("properties", .object f.properties)]

end FormSchema

end BenefitForm
