import BenefitForm.Schema.Input
import BenefitForm.Text.Base64
import BenefitForm.Text.Percent
import BenefitForm.Wallet

/-!
# Submissions

A filled form is split by destination (`Submission.classify`): personal fields as
they are, file uploads and document records with encoded contents. The type and
the issuer of a document come from the wallet entry that the applicant selected,
its proof from the labels of the selector.

A value with no encoding ends the submission: no document is left out in silence.

`Submission.payload` is the object that is handed on; the lists of files and of
documents are in it only where they are not empty.
-/

namespace BenefitForm

namespace Content

/-- The encoded content of a text: its URI component in base 64, after a mark. -/
def encodeText (t : Text) : Except EncodeError Text :=
  (Utf8.encode t).map fun bytes =>
    contentMark ++ Base64.encode ((Percent.encode bytes).map fun c => c.val.toUInt8)

/-- The encoded content of a form value: of a text, or of the display form of anything else. -/
def encode (value : Json) : Trace Text := do
  let text ← value.plain
  match encodeText text with
  | .ok content => return content
  | .error e => do
    Trace.note (.plain .error .submission
      (Text.ofString "Failed to encode string to base64: " ++ e.message))
    Trace.ofExcept (.error .encodingFailed)

end Content

/-- What a selected document tells about itself. -/
structure Provenance where
  /-- The type of the document. -/
  documentType : Text
  /-- Where it was imported from. -/
  issuer : Text
  /-- The document, where the wallet holds it. -/
  document? : Option WalletDocument

namespace Provenance

/-- What is said about a document that the wallet does not hold. -/
def unresolved (settings : Settings) : Provenance := ⟨unknownType, settings.issuer, none⟩

/-- A text, or a default where it is empty. -/
def textOr (default t : Text) : Text := if t.isEmpty then default else t

/-- What a wallet document tells. -/
def ofDocument (settings : Settings) (d : WalletDocument) : Provenance :=
  ⟨textOr unknownType d.type, textOr settings.issuer d.importedFrom, some d⟩

/-- The first document whose content or identifier is the selection. -/
def select? (wallet : List WalletDocument) (selected : Text) : Option WalletDocument :=
  wallet.find? fun d => d.content == selected || d.id == selected

/-- What the wallet tells about a selection. -/
def ofSelection (settings : Settings) (selected : Json) (wallet : List WalletDocument) :
    Except Fault Provenance :=
  if !selected.truthy || wallet.isEmpty then .ok (unresolved settings)
  else do
    let text ← selected.plain
    return match select? wallet text with
      | some d => ofDocument settings d
      | none => unresolved settings

end Provenance

/-- A document record of a submission. -/
structure SubmittedDocument where
  /-- The reasons for the document, as a JSON list. -/
  submissionReason : Text
  /-- The type of the document. -/
  type : Text
  /-- The proof that the document is. -/
  subtype : Json
  /-- The format of the content. -/
  format : Json
  /-- The issuer. -/
  importedFrom : Text
  /-- The encoded content. -/
  content : Text

namespace SubmittedDocument

/-- The position of a value among the options of a selector, `none` where it is not there. -/
def position? (options value : Json) : Except Fault (Option Nat) :=
  match options with
  | .array items => .ok (items.findIdx? fun v => v == value)
  | .string t =>
    match value with
    | .string part => .ok (Text.findPart? part t)
    | _ => .error .wrongKind
  | _ => .error .noSuchMember

/-- The label at a position; past the last one there is none. -/
def nameAt (names : Json) (index : Nat) : Except Fault (Option Json) :=
  match names with
  | .array items => .ok items[index]?
  | .string t => .ok (t[index]?.map fun c => .string [c])
  | .object members => if index < members.length then .error .missingKey else .ok none
  | _ => .error .wrongKind

/-- The proof that a selected option is: its label, or what the property records. -/
def subtypeOf (value property : Json) : Except Fault Json := do
  let members ← Upload.membersOrEmpty property
  let recorded ← Upload.membersOrEmpty (Json.member members "vcMeta")
  let recordedSubtype := Json.member recorded "documentSubtype"
  let fallback := if recordedSubtype.truthy then recordedSubtype else .string unknownType
  let options := Json.member members "enum"
  let names := Json.member members "enumNames"
  if !value.truthy || !options.truthy || !names.truthy then return fallback
  else
    match ← position? options value with
    | none => return fallback
    | some index =>
      match ← nameAt names index with
      | some name => return if name.truthy then name else fallback
      | none => return fallback

/-- The log record about a document that the wallet does not hold. -/
def unresolvedRecord (name documentType : Text) : LogRecord :=
  .ofField .warning .submission (.string name) (Text.ofString "document type/issuer for " ++ name
    ++ Text.ofString " not recovered, submitted as " ++ documentType)

/-- The record of a document field with its value and encoded content. -/
def create (settings : Settings) (name : Text) (value : Json) (content : Text) (property : Json)
    (wallet : Wallet.Input) : Trace SubmittedDocument := do
  let members ← Upload.membersOrEmpty property
  let documents ← wallet.load
  let provenance ← Provenance.ofSelection settings value documents
  if provenance.document?.isNone then
    Trace.note (unresolvedRecord name provenance.documentType)
  let recorded ← Upload.membersOrEmpty (Json.member members "vcMeta")
  let reasons := Json.member recorded "submissionReasons"
  let reason ← Json.write .ascii (if reasons.truthy then reasons else .array [.string name])
  let subtype ← subtypeOf value property
  let format := Json.member recorded "format"
  return {
    submissionReason := reason
    type := provenance.documentType
    subtype := subtype
    format := if format.truthy then format else .string documentFormat
    importedFrom := provenance.issuer
    content := content }

/-- The record as a JSON object. -/
def toJson (d : SubmittedDocument) : Json :=
  Json.record [("document_submission_reason", .string d.submissionReason),
    ("document_type", .string d.type), ("document_subtype", d.subtype),
    ("document_format", d.format), ("document_imported_from", .string d.importedFrom),
    ("document_content", .string d.content)]

end SubmittedDocument

/-- Filled values, split by destination. -/
structure Submission where
  /-- The personal fields. -/
  personal : Entries := []
  /-- The file uploads: the name of the field and the encoded content. -/
  files : List (Text × Text) := []
  /-- The documents. -/
  documents : List SubmittedDocument := []

namespace Submission

/-- The log record about a document field that is not filled. -/
def missingRecord (name : Key) : LogRecord :=
  .ofField .debug .submission name.toJson (name.label ++ Text.ofString " is missing from form data")

/-- Whether a field is neither a document field nor a system field. -/
def isPersonal (documents : List Key) (name : Key) : Bool :=
  !documents.contains name && !(systemFields.map Key.text).contains name

/-- The value that a name has in a list, where names are positions. -/
def itemNamed (values : Json) (name : Key) : Except Fault Json :=
  match values with
  | .array items => name.itemIn items
  | _ => .error .wrongKind

/-- The personal fields among filled values: those that have a value. A list has its own items for
names. -/
def personalFields (documents : List Key) : Json → Except Fault Entries
  | .object members =>
    .ok ((Entries.ofMembers members).filter fun m => isPersonal documents m.1 && !m.2.isNull)
  | values => do
    let items ← values.iterate
    let names ← items.mapM Key.ofJson
    (names.filter (isPersonal documents)).foldlM (fun fields name => do
      let v ← itemNamed values name
      return if v.isNull then fields else Members.set fields name v) []

/-- The value of a name among filled values; absent and null are one. -/
def valueOf (values : Json) (name : Key) : Except Fault Json :=
  match values with
  | .object members => .ok ((name.asText?.bind (Members.get? members)).getD .null)
  | _ => .error .noSuchMember

/-- Add the document fields of the given names. -/
def addDocuments (settings : Settings) (values : Json) (properties : Entries)
    (wallet : List WalletDocument) : List Key → Submission → Trace Submission
  | [], s => pure s
  | name :: rest, s => do
    let value ← valueOf values name
    match value.truthy, name with
    | true, .text field => do
      let property := (Members.get? properties (.text field)).getD .null
      let content ← Content.encode value
      let upload ← Upload.isUpload settings field property
      if upload then
        addDocuments settings values properties wallet rest
          { s with files := s.files ++ [(field, content)] }
      else do
        let d ← SubmittedDocument.create settings field value content property (.documents wallet)
        addDocuments settings values properties wallet rest
          { s with documents := s.documents ++ [d] }
    -- under a key that is no text there is no value, so such a field is not filled
    | _, _ => do
      Trace.note (missingRecord name)
      addDocuments settings values properties wallet rest s

/-- The names of the document fields: those given, or those that a schema lists, or those that its
properties show. -/
def documentFields (given : Json) (listed : Option (List Key)) (properties : Entries) :
    Except Fault Json :=
  if !given.isNull then .ok given
  else match listed with
    | some names => .ok (namesJson names)
    | none => (documentNames properties).map namesJson

/-- Split filled values. Null for `names` leaves the document fields to the schema. -/
def classify (settings : Settings) (values : Json) (schema : SchemaInput)
    (wallet : Wallet.Input) (names : Json) : Trace Submission := do
  let (properties, listed) ← schema.resolve
  let names ← documentFields names listed properties
  -- a wallet that cannot be read is told before anything about the names
  let documents ← wallet.load
  let names ← names.iterate
  let names ← (names.mapM Key.ofJson : Except Fault (List Key))
  let personal ← personalFields names values
  addDocuments settings values properties documents names { personal := personal }

/-- The files as JSON objects of one member each. -/
def filesJson (s : Submission) : Json :=
  .array (s.files.map fun f => .object [(f.1, .string f.2)])

/-- The documents as JSON objects. -/
def documentsJson (s : Submission) : Json := .array (s.documents.map SubmittedDocument.toJson)

/-- The object that is handed on. -/
def payload (s : Submission) (benefitId : Json) : Entries :=
  let key (name : String) : Key := .text (Text.ofString name)
  let withPersonal := s.personal.foldl (fun p m => Members.set p m.1 m.2)
    [(key "benefitId", benefitId)]
  -- an empty list is not written, so a personal field of its name stays
  let withFiles := if s.files.isEmpty then withPersonal
    else Members.set withPersonal (key "files") s.filesJson
  if s.documents.isEmpty then withFiles
  else Members.set withFiles (key "vc_documents") s.documentsJson

end Submission

end BenefitForm
