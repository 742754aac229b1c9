import BenefitForm.Json.Display
import BenefitForm.Text.LowerCase
import BenefitForm.Text.Numeral

/-!
# Constants and settings

The names in the first part are agreed with the systems that render forms and
take submissions. The `Settings` are a deployment's own: `Settings.ofEnvironment`
reads them from environment variables, and `Settings.standard` holds where none
is set.
-/

namespace BenefitForm

/-- The group of every document field. -/
def documentsGroup : Text := Text.ofString "documents"

/-- The label of that group. -/
def documentsGroupLabel : Text := Text.ofString "Documents"

/-- The group of catalog fields that declare none. -/
def defaultGroup : Text := Text.ofString "default"

/-- The label of that group. -/
def defaultGroupLabel : Text := Text.ofString "Form Fields"

/-- The type and the proof of a document that cannot be told. -/
def unknownType : Text := Text.ofString "unknown"

/-- The format of a submitted document. -/
def documentFormat : Text := Text.ofString "json"

/-- What every encoded content begins with. -/
def contentMark : Text := Text.ofString "base64,"

/-- The keys of a form that are never personal data, in order. -/
def systemFields : List Text := ["benefitId", "docs", "orderId"].map Text.ofString

/-- The most bytes a catalog answer may have. -/
def maxCatalogBytes : Nat := 2097152

/-- The most redirects a catalog look-up follows. -/
def maxRedirects : Nat := 3

/-- What a deployment may choose. -/
structure Settings where
  /-- The issuer of a document whose own issuer is not known. -/
  issuer : Text
  /-- The parts of a field's name that mark a file upload, in small letters. -/
  uploadPatterns : List Text
  /-- The most validation errors that are reported. -/
  maxErrors : Int
  /-- The address of a catalog entry, with a place for the benefit. -/
  catalogUrl : Text
  /-- How many seconds the catalog has to answer. -/
  catalogTimeout : Int

namespace Settings

/-- The patterns that mark a file upload unless a deployment has its own. -/
def standardPatterns : List Text :=
  ["photo", "image", "picture", "pic", "icard", "passport", "signature", "selfie",
    "upload"].map Text.ofString

/-- The settings where no environment variable is set. -/
def standard : Settings where
  issuer := Text.ofString "https://provider.example.org"
  uploadPatterns := standardPatterns
  maxErrors := 20
  catalogUrl := Text.ofString "http://localhost:3000/content/\x7bbenefit_id\x7d"
  catalogTimeout := 10

/-- The patterns in a list with commas, or the standard ones where it is empty. -/
def readPatterns (t : Text) : List Text :=
  if t.isEmpty then standardPatterns
  else ((Text.splitOn ',' t).map Text.strip).filterMap fun p =>
    if p.isEmpty then none else some p.lower

/-- The environment variables that are looked at. -/
def variableNames : List String :=
  ["DEFAULT_ISSUER", "FILE_UPLOAD_PATTERNS", "MAX_VALIDATION_ERRORS", "CATALOG_URL",
    "CATALOG_TIMEOUT"].map ("BENEFIT_FORM_" ++ ·)

/-- The settings of a deployment's environment variables. -/
def ofEnvironment (environment : List (Text × Text)) : Except Fault Settings := do
  let setting (name : String) : Option Text :=
    Members.get? environment (Text.ofString ("BENEFIT_FORM_" ++ name))
  let maxErrors ← Text.readInt ((setting "MAX_VALIDATION_ERRORS").getD (Text.ofString "20"))
  let timeout ← Text.readInt ((setting "CATALOG_TIMEOUT").getD (Text.ofString "10"))
  return {
    issuer := (setting "DEFAULT_ISSUER").getD standard.issuer
    uploadPatterns := readPatterns ((setting "FILE_UPLOAD_PATTERNS").getD [])
    maxErrors := maxErrors
    catalogUrl := (setting "CATALOG_URL").getD standard.catalogUrl
    catalogTimeout := timeout }

/-- The settings and the system fields as a JSON object. -/
def summary (s : Settings) : Json :=
  Json.record [("default_document_issuer", .string s.issuer),
    ("document_format", .string documentFormat),
    ("file_upload_name_patterns", Json.ofTexts s.uploadPatterns),
    ("system_fields", Json.ofTexts systemFields),
    ("catalog_url_template", .string s.catalogUrl),
    ("catalog_fetch_timeout_seconds", .int s.catalogTimeout),
    ("max_validation_errors", .int s.maxErrors)]

end Settings

end BenefitForm
