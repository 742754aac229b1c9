import BenefitForm.Json

/-!
# Properties of a form schema

A `FormProperty` is one property of the generated schema. A document field
carries `DocumentMeta`, which the renderer passes over and a submission reads
back. `FormProperty.toJson` writes the members in a fixed order and leaves out
what is not set.
-/

namespace BenefitForm

/-- What a document field records for its submission. -/
structure DocumentMeta where
  /-- The criteria or the document type that the field satisfies. -/
  submissionReasons : List Text
  /-- The document type of the field. -/
  documentType : Text
  /-- The proof of the field, where no selection tells it. -/
  documentSubtype? : Option Text
  /-- The format of the document. -/
  format : Text
  /-- The issuer of the document, where no selection tells it. -/
  issuer : Text
  /-- Whether the field is a file upload. -/
  isFileUpload : Bool
deriving DecidableEq

/-- One property of a form schema. -/
structure FormProperty where
  /-- The name of the property. -/
  name : Text
  /-- The title that the applicant sees. -/
  title : Text
  /-- The JSON type of its values. -/
  type : Text := Text.ofString "string"
  /-- Whether a value is required. -/
  required : Bool := false
  /-- The allowed values, where they are listed. -/
  values? : Option (List Text) := none
  /-- The labels of the allowed values. -/
  valueNames? : Option (List Text) := none
  /-- The value that the form starts with. -/
  default? : Option Text := none
  /-- The group of the field. -/
  groupName : Json := .null
  /-- The label of that group. -/
  groupLabel : Json := .null
  /-- What a document field records. -/
  documentMeta? : Option DocumentMeta := none
  /-- The pattern of its values. -/
  pattern? : Option Text := none
  /-- The format of its values. -/
  format? : Option Text := none
  /-- The least length of its values. -/
  minLength? : Option Int := none
  /-- The greatest length of its values. -/
  maxLength? : Option Int := none

namespace DocumentMeta

/-- The record as a JSON object. -/
def toJson (d : DocumentMeta) : Json :=
  Json.record [("submissionReasons", Json.ofTexts d.submissionReasons),
    ("documentType", .string d.documentType), ("documentSubtype", Json.ofText? d.documentSubtype?),
    ("format", .string d.format), ("issuer", .string d.issuer),
    ("isFileUpload", .bool d.isFileUpload)]

end DocumentMeta

namespace FormProperty

/-- Whether the property is a document field. -/
def isDocument (p : FormProperty) : Bool := p.documentMeta?.isSome

/-- The members of the property as a JSON object. -/
def members (p : FormProperty) : Members :=
  let member {α : Type} (key : String) (value? : Option α) (toJson : α → Json) : Members :=
    (value?.map fun v => (Text.ofString key, toJson v)).toList
  [(Text.ofString "type", .string p.type), (Text.ofString "title", .string p.title)]
    ++ member "format" p.format? .string
    ++ member "pattern" p.pattern? .string
    ++ member "minLength" p.minLength? .int
    ++ member "maxLength" p.maxLength? .int
    ++ member "enum" p.values? Json.ofTexts
    ++ member "enumNames" p.valueNames? Json.ofTexts
    ++ member "default" p.default? .string
    ++ (if p.required then [(Text.ofString "required", .bool true)] else [])
    ++ (if p.groupName.truthy then [(Text.ofString "fieldGroup",
        Json.record [("groupName", p.groupName), ("groupLabel", p.groupLabel)])] else [])
    ++ member "vcMeta" p.documentMeta? DocumentMeta.toJson

/-- The property as a JSON object. -/
def toJson (p : FormProperty) : Json := .object p.members

end FormProperty

end BenefitForm
