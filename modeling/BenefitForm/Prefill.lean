import BenefitForm.Json.Reader
import BenefitForm.Key
import BenefitForm.Text.Word
import BenefitForm.Wallet

/-!
# Pre-fill data

A form may start from data that was entered before: an object, or its JSON text,
with the values of fields, the applicant's wallet under `docs` and a reviewer's
`remark`. What cannot be read counts as no data (`Prefill.parse`).

`Prefill.formData` seeds the values of a form's properties, all as texts.
-/

namespace BenefitForm

/-- Data that a form starts from. -/
structure Prefill where
  /-- All keys and values. -/
  values : Members := []
  /-- The applicant's documents. -/
  wallet : List WalletDocument := []
  /-- The reviewer's remark. -/
  remark? : Option Text := none

namespace Prefill

/-- The log record about data that cannot be used. -/
def record (what : Text) : LogRecord :=
  .plain .warning .prefill (Text.ofString "pre-fill payload is not " ++ what)

/-- The remark without the blanks around it; a blank one is none. -/
def remarkOf? : Json → Option Text
  | .string t => if t.strip.isEmpty then none else some t.strip
  | _ => none

/-- The data of an object. -/
def ofValue : Json → Trace Prefill
  | .object members => do
    let wallet ← match Json.member members "docs" with
      | .array docs => Wallet.load (.array docs)
      | _ => pure []
    return ⟨members, wallet, remarkOf? (Json.member members "remark")⟩
  | v => do
    Trace.note (record (Text.ofString "an object: " ++ Text.ofString v.typeName))
    return {}

/-- The data of an object, of its JSON text, or of nothing. -/
def parse : Json → Trace Prefill
  | .null => pure {}
  | .string [] => pure {}
  | .string t =>
    match Json.read t with
    | .ok v => ofValue v
    | .error (.malformed e) => do
      Trace.note (record (Text.ofString "valid JSON: " ++ e.message))
      return {}
    | .error failure => Trace.ofExcept (.error (.fault failure.fault))
  | v => ofValue v

/-- A value as the text of a form field. -/
def fieldText : Json → Except Fault Text
  | .bool b => .ok (Text.ofString (if b then "true" else "false"))
  | .null => .ok (Text.ofString "null")
  | v => v.plain

/-- The value of a key, where the data has the key. A list has the keys that are its items, and
each is also the position of its value. -/
def lookup? (data key : Json) : Except Fault (Option Json) :=
  match data with
  | .object members => do
    let key ← Key.ofJson key
    return key.asText?.bind (Members.get? members)
  | .array items => do
    if items.contains key then
      let key ← Key.ofJson key
      (key.itemIn items).map some
    else return none
  | .string t =>
    match key with
    | .string part => if part.occursIn t then .error .wrongKind else .ok none
    | _ => .error .wrongKind
  | _ => .error .wrongKind

/-- Seed the values of keys that the data has. -/
def seed {κ : Type} [BEq κ] (lookup? : κ → Except Fault (Option Json)) :
    List κ → List (κ × Text) → Except Fault (List (κ × Text))
  | [], seeded => .ok seeded
  | key :: rest, seeded => do
    match ← lookup? key with
    | some v => do
      let text ← fieldText v
      seed lookup? rest (Members.set seeded key text)
    | none => seed lookup? rest seeded

/-- The key of the external application in pre-fill data. -/
def applicationKey : Text := Text.ofString "external_application_id"

/-- The name of the external application among the values of a form. -/
def orderName : Text := Text.ofString "orderId"

/-- The first values of a form: the data's values for the names, and the external application as
`orderId`. -/
def formData (data : Members) (names : List Text) : Except Fault (List (Text × Text)) :=
  if data.isEmpty || names.isEmpty then .ok []
  else do
    let seeded ← seed (fun name => .ok (Members.get? data name)) names []
    match Members.get? data applicationKey with
    | some v => do
      let text ← fieldText v
      return Members.set seeded orderName text
    | none => return seeded

/-- `formData` for data and properties of any shape. -/
def formDataOf (data properties : Json) : Except Fault (List (Json × Text)) :=
  if !data.truthy || !properties.truthy then .ok []
  else do
    let keys ← properties.iterate
    let seeded ← seed (lookup? data) keys []
    match ← lookup? data (.string applicationKey) with
    | some v => do
      let text ← fieldText v
      return Members.set seeded (.string orderName) text
    | none => return seeded

end Prefill

end BenefitForm
