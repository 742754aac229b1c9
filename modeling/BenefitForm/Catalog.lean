import BenefitForm.Json.Reader
import BenefitForm.Rule.ProofSet
import BenefitForm.Warning

/-!
# Catalog answers

A catalog answers a search with nested lists; the benefit is the first item of
the first provider of the first answer (`Catalog.item`). Its tags hold the
fields of the application form, the eligibility rules and the document rules,
each entry of a tag's list as a JSON text in its `value` (`Catalog.tagValues`).
An entry whose value cannot be read is left out with a warning.
-/

namespace BenefitForm

/-- What a catalog says about a benefit. -/
structure CatalogItem where
  /-- The field records of the application form. -/
  fields : List Json
  /-- The eligibility rules. -/
  eligibility : List Json
  /-- The document rules. -/
  documents : List Json
  /-- The item itself. -/
  raw : Members

namespace CatalogItem

/-- The rule feed: eligibility rules, then document rules. -/
def rules (c : CatalogItem) : List Json := c.eligibility ++ c.documents

end CatalogItem

namespace Catalog

/-- The tag of the application form. -/
def formTag : Text := Text.ofString "applicationForm"

/-- The tag of the eligibility rules. -/
def eligibilityTag : Text := Text.ofString "eligibility"

/-- The tag of the document rules. -/
def documentsTag : Text := Text.ofString "required-docs"

/-- The codes of the document rules among the entries of their tag. -/
def documentCodes : Json := .array [Json.text "mandatory-doc", Json.text "optional-doc"]

/-- Refuse an answer, with the reason. -/
def refuse {α : Type} (reason : String) : Except Failure α :=
  .error (.catalogParse (Text.ofString reason))

/-- The first item of a list that is not empty. -/
def first (v : Json) (what : String) : Except Failure Json :=
  match v with
  | .array (x :: _) => .ok x
  | _ => refuse ("Catalog response missing " ++ what)

/-- The catalog in the first answer. -/
def catalogOf (answer : Json) : Except Failure Members :=
  let catalog? := do
    let answer ← answer.asObject?
    let message ← (Json.member answer "message").asObject?
    (Json.member message "catalog").asObject?
  match catalog? with
  | some catalog => .ok catalog
  | none => refuse "Catalog response missing message.catalog"

/-- The benefit that an answer is about. -/
def item : Json → Except Failure Members
  | .object response => do
    let answer ← first (Json.member response "responses") "responses"
    let catalog ← catalogOf answer
    let provider ← first (Json.member catalog "providers") "catalog.providers"
    match provider with
    | .object provider => do
      let item ← first (Json.member provider "items") "provider.items"
      match item with
      | .object item => return item
      | _ => refuse "Catalog item is not an object"
    | _ => refuse "Catalog provider is not an object"
  | _ => refuse "Catalog response is not an object"

/-- The code in the descriptor of a node. -/
def code? : Json → Option Text
  | .object node =>
    match Json.member node "descriptor" with
    | .object descriptor => (Json.member descriptor "code").asText?
    | _ => none
  | _ => none

/-- The first tag of an item with a code; `none` asks for a tag without one. -/
def findTag? (item : Members) (code : Option Text) : Option Json :=
  match Json.member item "tags" with
  | .array tags => tags.find? fun tag => code? tag == code
  | _ => none

/-- Whether a code is one of those asked for; null asks for all. -/
def isWanted (codes : Json) (code : Option Text) : Except Fault Bool :=
  match codes with
  | .null => .ok true
  | .array items => .ok (items.contains (Json.ofText? code))
  | .object members => .ok ((members.map fun m => Json.string m.1).contains (Json.ofText? code))
  | .string t =>
    match code with
    | some c => .ok (c.occursIn t)
    | none => .error .wrongKind
  | _ => .error .wrongKind

/-- The log record about an entry whose value cannot be used. -/
def entryRecord (tag : Option Text) (index : Nat) (what : Text) : LogRecord :=
  .plain .warning .catalog (Text.ofString "tag " ++ tag.getD (Text.ofString "None")
    ++ Text.ofString " item " ++ Text.ofNat index ++ what)

/-- The values of the entries of a tag's list, of which the first has the position `index`. -/
def entryValues (tag : Option Text) (codes : Json) (index : Nat) : List Json → Trace (List Json)
  | [] => pure []
  | .object entry :: rest => do
    let wanted ← isWanted codes (code? (.object entry))
    if wanted then
      match Json.member entry "value" with
      | .string t =>
        match Json.read t with
        | .ok v => do
          let vs ← entryValues tag codes (index + 1) rest
          return v :: vs
        | .error (.malformed e) => do
          Trace.note (entryRecord tag index (Text.ofString " is not valid JSON: " ++ e.message))
          entryValues tag codes (index + 1) rest
        | .error failure => Trace.ofExcept (.error (.fault failure.fault))
      | _ => do
        Trace.note (entryRecord tag index (Text.ofString " has no value"))
        entryValues tag codes (index + 1) rest
    else entryValues tag codes (index + 1) rest
  | _ :: rest => entryValues tag codes (index + 1) rest

/-- The values in a tag's list, where there is a tag. -/
def tagValues (tag : Option Json) (codes : Json) : Trace (List Json) :=
  match tag with
  | none => pure []
  | some tag =>
    if !tag.truthy then pure []
    else match tag with
      | .object members =>
        match Json.member members "list" with
        | .array entries => entryValues (code? tag) codes 0 entries
        | _ => pure []
      | _ => Trace.ofExcept (.error (.fault .noSuchMember))

/-- What an answer says about its benefit. -/
def parse (response : Json) : Trace CatalogItem := do
  let item ← Trace.ofExcept (Catalog.item response)
  let fields ← tagValues (findTag? item (some formTag)) .null
  let eligibility ← tagValues (findTag? item (some eligibilityTag)) .null
  let documents ← tagValues (findTag? item (some documentsTag)) documentCodes
  return {
    fields := fields.filter fun v => v.asObject?.isSome
    eligibility := eligibility
    documents := documents
    raw := item }

end Catalog

end BenefitForm
