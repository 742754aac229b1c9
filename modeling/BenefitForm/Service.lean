import BenefitForm.Catalog.Lookup
import BenefitForm.Compile
import BenefitForm.Json.Writer
import BenefitForm.Service.Shape
import BenefitForm.Submission
import BenefitForm.Validation

/-!
# The service

The service compiles forms, submits and validates filled values on request.
`Service.reply` answers one request: it finds the route, checks the content
against the shapes of the route's fields and runs the operation. A failure of the
domain has a status of its own and is described in the reply; any other is an
internal error, and so is a reply that cannot be written as JSON.

Compiling by benefit asks the catalog, whose `Server` is given.
-/

namespace BenefitForm

/-- A request to the service. -/
structure ServiceRequest where
  /-- The method. -/
  method : Text
  /-- The path, without escapes. -/
  path : Text
  /-- The content, empty where there is none. -/
  content : List UInt8

/-- What the service replies. -/
inductive ServiceReply where
  | json (status : Nat) (body : Json)
  | text (status : Nat) (body : String)
  /-- The request is not as it should be. -/
  | invalid (problems : List InputProblem)

/-- What the service does. -/
inductive ServiceRoute where
  | health
  | compile
  | compileCatalog
  | benefitForm (benefit : Text)
  | reclassify
  | validate
deriving DecidableEq

namespace ServiceRoute

/-- The route of a path. -/
def ofPath? (path : Text) : Option ServiceRoute :=
  let path : Text := if path.getLast? = some (.ofChar '\n') then path.dropLast else path
  let segments : List Text := path.splitOn '/'
  let is (names : List String) : Bool := segments = names.map Text.ofString
  if is ["", "healthz"] then some .health
  else if is ["", "compile"] then some .compile
  else if is ["", "compile", "catalog"] then some .compileCatalog
  else if is ["", "reclassify"] then some .reclassify
  else if is ["", "validate"] then some .validate
  else match segments with
    | [[], first, benefit, last] =>
      if first = Text.ofString "benefits" && last = Text.ofString "form" && !benefit.isEmpty then
        some (.benefitForm benefit)
      else none
    | _ => none

/-- The route of a path; slashes at the end of a path that has none are left out. -/
def find? (path : Text) : Option ServiceRoute :=
  (ofPath? path).or (ofPath? (path.reverse.dropWhile (·.val = 0x2F)).reverse)

/-- The method that a route takes. -/
def method : ServiceRoute → String
  | health => "GET"
  | benefitForm _ => "GET"
  | _ => "POST"

/-- The shape of a list of objects. -/
def objects : Shape := .list (.object .anything)

/-- The fields of a route's content, in the order in which they are checked. -/
def fields : ServiceRoute → List FieldShape
  | compile =>
    [{ name := "application_fields", shape := .either objects (.object (.object .anything)) },
      { name := "rules", shape := .list .anything }, { name := "wallet", shape := objects },
      { name := "title", shape := .text }, { name := "benefit_id", shape := .optional .text }]
  | compileCatalog =>
    [{ name := "catalog", shape := .object .anything, required := true },
      { name := "prefill", shape := .optional (.either (.object .anything) .text) },
      { name := "benefit_id", shape := .optional .text }]
  | reclassify =>
    [{ name := "benefit_id", shape := .text, required := true },
      { name := "form_data", shape := .object .anything, required := true },
      { name := "form_schema", shape := .object .anything, required := true },
      { name := "wallet", shape := objects },
      { name := "document_field_names", shape := .optional (.list .text) }]
  | validate =>
    [{ name := "form_data", shape := .object .anything, required := true },
      { name := "form_schema", shape := .object .anything, required := true }]
  | _ => []

end ServiceRoute

namespace Service

/-- The place of a request's content. -/
def bodyStep : PlaceStep := .key (Text.ofString "body")

/-- The members of a request's content, or the reply to a content that is not as it should be. -/
def readContent (fields : List FieldShape) (content : List UInt8) : Except ServiceReply Members :=
  let value : Except ReadFailure Json :=
    if content.isEmpty then .ok .null else Json.readBytes content
  match value with
  | .error (.malformed e) => .error (.invalid [⟨.unreadable, [bodyStep, .index e.position]⟩])
  | .error _ =>
    .error (.json 400 (Json.record
      [("detail", Json.text "There was an error parsing the body")]))
  | .ok .null => .error (.invalid [⟨.missing, [bodyStep]⟩])
  | .ok (.object members) =>
    let problems := fields.flatMap fun f => f.problems members
    if problems.isEmpty then .ok members
    else .error (.invalid (problems.map (InputProblem.within bodyStep)))
  | .ok _ => .error (.invalid [⟨.notFields, [bodyStep]⟩])

/-- The reply that describes a failure. -/
def failed (status : Nat) (e : Failure) : ServiceReply :=
  .json status (Json.record [("detail", Json.record
    [("code", Json.text (e.code?.getD "")), ("message", .string e.message)])])

/-- The reply to an error of the service itself. -/
def internalError : ServiceReply := .text 500 "Internal Server Error"

/-- The members of the reply with a compiled form. -/
def formMembers (f : FormSchema) : List (String × Json) :=
  [("form_schema", f.schema), ("ui_schema", .object f.hints),
    ("document_field_names", Json.ofTexts f.documentNames),
    ("missing_documents", Json.ofTexts f.missing),
    ("extra_errors", .object (extraErrors (f.missingErrors true))),
    ("warnings", .array (f.warnings.map CompilationWarning.toJson))]

/-- The reply with the form of a catalog answer. -/
def compiledReply (c : CompiledForm) : ServiceReply :=
  .json 200 (Json.record (formMembers c.form ++
    [("form_data", .object (c.formData.map fun m => (m.1, Json.string m.2))),
      ("remark", Json.ofText? c.remark?)]))

/-- The value of a field, or the value that stands for a field that is not there. -/
def fieldOr (members : Members) (name : String) (default : Json) : Json :=
  (Members.get? members (Text.ofString name)).getD default

/-- Run a computation and turn its failure into a reply: one with a status of its own, or an
internal error. -/
def settle (x : Trace ServiceReply) (status : Failure → Option Nat) : Trace ServiceReply :=
  match x.outcome with
  | .ok _ => x
  | .error e =>
    ⟨x.records, .ok (match status e with
      | some code => failed code e
      | none => internalError)⟩

/-- The status of a failure while the form of a catalog answer is compiled. -/
def catalogStatus : Failure → Option Nat
  | .catalogFetch _ => some 502
  | .catalogParse _ => some 400
  | _ => none

/-- The status of a failure while filled values are submitted. -/
def submissionStatus : Failure → Option Nat
  | .encodingFailed => some 422
  | _ => none

/-- What a route does with the members of a content. -/
def run (settings : Settings) (server : Server) (members : Members) :
    ServiceRoute → Trace ServiceReply
  | .health =>
    return .json 200 (Json.record [("ok", .bool true), ("config", settings.summary)])
  | .compile => do
    let form ← compileForm settings (.ofJson (fieldOr members "application_fields" (.array [])))
      (fieldOr members "rules" (.array [])) (.records (fieldOr members "wallet" (.array [])))
      (fieldOr members "title" (.string [])) (Json.member members "benefit_id")
    return .json 200 (Json.record (formMembers form))
  | .compileCatalog => do
    let compiled ← compileCatalog settings (Json.member members "catalog")
      (Json.member members "prefill") (Json.member members "benefit_id")
    return compiledReply compiled
  | .benefitForm benefit => do
    let catalog ← Trace.ofExcept (Catalog.lookup settings server (.string benefit) none).2
    let compiled ← compileCatalog settings (.object catalog) .null (.string benefit)
    return compiledReply compiled
  | .reclassify => do
    let submission ← Submission.classify settings (Json.member members "form_data")
      (.stored (Json.member members "form_schema")) (fieldOr members "wallet" (.array []))
      (Json.member members "document_field_names")
    return .json 200 (Json.record
      [("payload", (submission.payload (Json.member members "benefit_id")).toJson),
        ("file_count", .int submission.files.length),
        ("vc_document_count", .int submission.documents.length)])
  | .validate => do
    let errors ← validate settings (.stored (Json.member members "form_schema"))
      (Json.member members "form_data") .null
    return .json 200 (Json.record
      [("valid", .bool errors.isEmpty), ("errors", Json.ofTexts errors)])

/-- The status of a route's failures. -/
def statusOf : ServiceRoute → Failure → Option Nat
  | .compileCatalog => catalogStatus
  | .benefitForm _ => catalogStatus
  | .reclassify => submissionStatus
  | _ => fun _ => none

mutual

/-- Whether a value can be written as JSON in UTF-8: it holds no surrogate, and no number without
a numeral. -/
def isWritable : Json → Bool
  | .float (.finite _ _ _) => true
  | .float _ => false
  | .string t => !t.any CodePoint.isSurrogate
  | .array items => areWritable items
  | .object members => areWritableMembers members
  | _ => true

/-- Whether all values of a list can be written. -/
def areWritable : List Json → Bool
  | [] => true
  | v :: rest => isWritable v && areWritable rest

/-- Whether all members of an object can be written. -/
def areWritableMembers : List (Text × Json) → Bool
  | [] => true
  | (k, v) :: rest => !k.any CodePoint.isSurrogate && isWritable v && areWritableMembers rest

end

/-- A reply as it can be written. -/
def written : ServiceReply → ServiceReply
  | .json status body => if isWritable body then .json status body else internalError
  | reply => reply

/-- A reply that only says what its status means. -/
def statusOnly (status : Nat) (detail : String) : ServiceReply :=
  .json status (Json.record [("detail", Json.text detail)])

/-- The reply to a request, before it is written. -/
def replyOf (settings : Settings) (server : Server) (r : ServiceRequest) : Trace ServiceReply :=
  match ServiceRoute.find? r.path with
  | none => return statusOnly 404 "Not Found"
  | some route =>
    if r.method ≠ Text.ofString route.method then return statusOnly 405 "Method Not Allowed"
    else if route.fields.isEmpty then settle (run settings server [] route) (statusOf route)
    else match readContent route.fields r.content with
      | .error reply => return reply
      | .ok members => settle (run settings server members route) (statusOf route)

/-- The reply to a request. A request for the head of a reply gets no content. -/
def reply (settings : Settings) (server : Server) (r : ServiceRequest) : Trace ServiceReply := do
  let reply ← replyOf settings server r
  match written reply with
  | .json status body =>
    return if r.method = Text.ofString "HEAD" then .text status "" else .json status body
  | reply => return reply

/-- The path that an address asks the service for. -/
def pathOf (address : Text) : Except UrlProblem Text := do
  let home ← Url.parse (Text.ofString "http://localhost/")
  let url ← Url.parse address
  let url ← home.under url
  let path := if url.path.isEmpty then Text.ofString "/" else url.path
  return Percent.unescape (Percent.unescape path)

end Service

end BenefitForm
