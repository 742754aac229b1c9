import BenefitForm.Json.Writer
import BenefitForm.Rule.ProofSet
import BenefitForm.Warning

/-!
# Wallets

An applicant's wallet holds documents that were issued before. A document
satisfies the proof that is its `subtype`; its `content` is also the value that a
selector offers for it. `Wallet.load` reads the records of a wallet, whose keys
may be written in either of two ways, and passes over entries that are no
records. `Wallet.matching` selects the documents for a set of proofs.
-/

namespace BenefitForm

/-- A document that the applicant holds. -/
structure WalletDocument where
  /-- The identifier in the wallet. -/
  id : Text
  /-- The category of the document. -/
  type : Text
  /-- The proof that the document is. -/
  subtype : ProofType
  /-- The content, and the value of the document in a selector. -/
  content : Text
  /-- Where the document was imported from. -/
  importedFrom : Text := []
  /-- The name of the document. -/
  name : Text := []
  /-- The format of the content. -/
  datatype : Text := []
  /-- Where the document is kept. -/
  path : Text := []
  /-- Whether the document was verified. -/
  verified : Bool := false
  /-- Whether the applicant uploaded the document. -/
  uploaded : Bool := false
  /-- When the applicant uploaded it. -/
  uploadedAt : Text := []
  /-- Whose document it is. -/
  userId : Text := []
deriving DecidableEq

namespace WalletDocument

/-- The text of the first key that has a value, and the empty text where none has. -/
def textOf (members : Members) (keys : List String) : Except Fault Text :=
  match Json.firstOf members keys with
  | .null => .ok []
  | v => v.plain

/-- The content of a record: a text as it is, anything else as compact JSON. -/
def contentOf (members : Members) : Except Fault Text :=
  match Json.firstOf members ["doc_data", "docData"] with
  | .null => .ok []
  | .string t => .ok t
  | v => v.write .compact

/-- Read a record. -/
def ofMembers (members : Members) : Except Fault WalletDocument := do
  let content ← contentOf members
  let id ← textOf members ["doc_id", "docId"]
  let type ← textOf members ["doc_type", "docType"]
  let subtype ← textOf members ["doc_subtype", "docSubtype"]
  let importedFrom ← textOf members ["imported_from", "importedFrom"]
  let name ← textOf members ["doc_name", "docName"]
  let datatype ← textOf members ["doc_datatype", "docDatatype"]
  let path ← textOf members ["doc_path", "docPath"]
  let uploadedAt ← textOf members ["uploaded_at", "uploadedAt"]
  let userId ← textOf members ["user_id", "userId"]
  return {
    id, type, subtype, content, importedFrom, name, datatype, path, uploadedAt, userId
    verified := (Json.firstOf members ["doc_verified", "docVerified"]).truthy
    uploaded := (Json.firstOf members ["is_uploaded", "isUploaded"]).truthy }

/-- The document as a JSON object. -/
def toJson (d : WalletDocument) : Json :=
  Json.record [("doc_id", .string d.id), ("doc_type", .string d.type),
    ("doc_subtype", .string d.subtype), ("doc_data", .string d.content),
    ("imported_from", .string d.importedFrom), ("doc_name", .string d.name),
    ("doc_datatype", .string d.datatype), ("doc_path", .string d.path),
    ("doc_verified", .bool d.verified), ("is_uploaded", .bool d.uploaded),
    ("uploaded_at", .string d.uploadedAt), ("user_id", .string d.userId)]

end WalletDocument

namespace Wallet

/-- Read the entries of a wallet; an entry that is no record is passed over. -/
def loadEntries : List Json → Trace (List WalletDocument)
  | [] => pure []
  | .object members :: rest => do
    let d ← WalletDocument.ofMembers members
    let ds ← loadEntries rest
    return d :: ds
  | entry :: rest => do
    Trace.note (.plain .debug .matcher
      (Text.ofString "ignoring wallet entry of type " ++ Text.ofString entry.typeName))
    loadEntries rest

/-- Read a wallet. -/
def load (wallet : Json) : Trace (List WalletDocument) := do
  let entries ← wallet.iterateOrEmpty
  loadEntries entries

/-- A wallet: records still to be read, or documents. -/
inductive Input where
  | records (v : Json)
  | documents (ds : List WalletDocument)

/-- A JSON value in the place of a wallet holds its records. -/
instance : Coe Json Input := ⟨.records⟩

/-- Read a wallet unless it is read already. -/
def Input.load : Input → Trace (List WalletDocument)
  | .records v => Wallet.load v
  | .documents ds => pure ds

/-- The documents that are one of the given proofs, in wallet order. -/
def matching (proofs : List ProofType) (wallet : List WalletDocument) : List WalletDocument :=
  wallet.filter fun d => proofs.contains d.subtype

/-- `matching` for proofs of any shape. Where there is no document the proofs are not looked at. -/
def matchingItems (proofs : Json) (wallet : List WalletDocument) :
    Except Fault (List WalletDocument) :=
  if wallet.isEmpty then .ok []
  else do
    let items ← proofs.iterate
    if items.all Json.canBeKey then return matching (items.filterMap Json.asText?) wallet
    else throw .wrongKind

end Wallet

end BenefitForm
