import BenefitForm.Compression.Inflate
import BenefitForm.Json.Reader
import BenefitForm.Settings
import BenefitForm.Text.Template
import BenefitForm.Url

/-!
# Looking up a benefit in the catalog

`Catalog.address` puts a benefit into the address of the catalog, and
`Catalog.lookup` asks a server for what is there. A server is what it answers to
the first request, to the second and so on. Coded contents are decoded as the
answers arrive (`Lookup.receive`). Redirects are followed, three of
them at most; the last answer has to be a success, of the content type of JSON,
not too large, and a JSON object, and these are checked in that order.

Every failure to get such an answer is a `LookupFailure`. What is no failure of
the look-up but of the address itself, a `Fault`, is passed on as it is.
-/

namespace BenefitForm

/-- An answer of a server. -/
structure HttpAnswer where
  /-- The status. -/
  status : Nat
  /-- The words beside the status. -/
  reason : Text
  /-- The header fields; the letter case of their names does not matter. -/
  headers : List (Text × Text)
  /-- The content. -/
  body : List UInt8

/-- Why there is no answer. -/
inductive TransportFailure where
  /-- The server takes too long. -/
  | timeout
  /-- The connection fails, for the reason given. -/
  | broken (reason : Text)
  /-- The answer cannot be written in bytes. -/
  | unencodable (e : EncodeError)

/-- What a server does with its requests, by the count of those before. -/
abbrev Server := Nat → Except TransportFailure HttpAnswer

/-- Why a look-up has no result. -/
inductive LookupFailure where
  | timeout
  | unreachable (reason : Text)
  | tooManyRedirects
  | status (status : Nat) (reason : Text)
  | contentType (found : Text)
  | tooLarge (size : Nat)
  | notJson (reason : Text)
  | notObject
  | fault (f : Fault)

/-- A run of requests: the addresses in order and what came of them. -/
structure Lookup (α : Type) where
  /-- The addresses that were asked. -/
  requests : List Url
  /-- The result, or why there is none. -/
  outcome : Except LookupFailure α

namespace HttpAnswer

/-- The value of a header field; a field that is there more than once has all its values. -/
def header? (a : HttpAnswer) (name : String) : Option Text :=
  let values := a.headers.filterMap fun h =>
    if h.1.lower = Text.ofString name then some h.2 else none
  if values.isEmpty then none else some (Text.join (Text.ofString ", ") values)

/-- The coding that a name stands for. A deflated content may lack its envelope. -/
def decodeAs (coding : Text) (content : List UInt8) : Except InflateProblem (List UInt8) :=
  if coding = Text.ofString "gzip" then Deflate.content .gzip content
  else if coding = Text.ofString "deflate" then
    match Deflate.content .zlib content with
    | .ok content => .ok content
    | .error _ => Deflate.content .none content
  else .ok content

/-- The answer with its content as it was before it was coded. The last coding is undone first, and
one that is not known changes nothing. -/
def decoded (a : HttpAnswer) : Except InflateProblem HttpAnswer := do
  let codings := (((a.header? "content-encoding").getD []).splitOn ',').map fun c =>
    (Text.strip c).lower
  let body ← codings.foldrM decodeAs a.body
  return { a with body }

/-- The first code point of the header fields that is not ASCII. -/
def headerError? (a : HttpAnswer) : Option EncodeError :=
  (a.headers.flatMap fun h => [h.1, h.2]).findSome? fun t =>
    (t.findIdx? (·.val ≥ 0x80)).map fun i => ⟨i, 1, t.getD i '?'⟩

/-- Where the answer sends its reader, if anywhere. -/
def redirect? (a : HttpAnswer) : Option Text :=
  if [301, 302, 303, 307, 308].contains a.status then a.header? "location" else none

/-- Whether the answer is a success. -/
def isSuccess (a : HttpAnswer) : Bool := 200 ≤ a.status && a.status < 300

/-- The content type, empty where there is none. -/
def contentType (a : HttpAnswer) : Text := (a.header? "content-type").getD []

/-- Whether the content type, without its parameters, is that of JSON. -/
def isJson (a : HttpAnswer) : Bool :=
  (Text.strip (a.contentType.takeWhile (·.val ≠ 0x3B))).lower = Text.ofString "application/json"

/-- The words beside the status, as far as they are ASCII. -/
def shownReason (a : HttpAnswer) : Text := a.reason.filter (·.val < 0x80)

/-- The object that the answer holds. -/
def object (a : HttpAnswer) : Except LookupFailure Members :=
  if !a.isSuccess then .error (.status a.status a.shownReason)
  else if !a.isJson then .error (.contentType a.contentType)
  else if a.body.length > maxCatalogBytes then .error (.tooLarge a.body.length)
  else match Json.readBytes a.body with
    | .ok (.object members) => .ok members
    | .ok _ => .error .notObject
    | .error (.malformed e) => .error (.notJson e.message)
    | .error (.undecodable e) => .error (.notJson e.message)
    | .error failure => .error (.fault failure.fault)

/-- The address that the answer to an address sends its reader to. -/
def target (asked : Url) (location : Text) : Except LookupFailure Url :=
  match Url.parse location with
  | .error p =>
    match p with
    | .unencodable e => .error (.fault (.unencodable e))
    | p => .error (.unreachable (Text.ofString "Invalid URL in location header: " ++ p.message
        ++ Text.ofString "."))
  | .ok reference =>
    ((asked.resolve reference).bind Url.reachable).mapError fun p => .fault p.fault

end HttpAnswer

namespace Lookup

/-- The answer to a request, ready to be read. -/
def receive (server : Server) (sent : Nat) : Except LookupFailure HttpAnswer :=
  match server sent with
  | .error .timeout => .error .timeout
  | .error (.broken reason) => .error (.unreachable reason)
  | .error (.unencodable e) => .error (.fault (.unencodable e))
  | .ok answer =>
    match answer.headerError? with
    | some e => .error (.fault (.unencodable e))
    | none => answer.decoded.mapError fun p => .unreachable (Text.ofString
        ("Error -3 while decompressing data: " ++ p.message))

/-- Ask for an address after `sent` other requests and follow redirects, as many as are allowed.
An answer from an address that names no scheme cannot be taken. -/
def follow (server : Server) : Nat → Nat → Url → Lookup HttpAnswer
  | allowed, sent, url =>
    match receive server sent with
    | .error e => ⟨[url], .error e⟩
    | .ok answer =>
      if !url.namesScheme then ⟨[url], .error (.fault .invalidValue)⟩
      else match answer.redirect? with
        | none => ⟨[url], .ok answer⟩
        | some location =>
          match HttpAnswer.target url location with
          | .error e => ⟨[url], .error e⟩
          | .ok next =>
            -- a target that cannot be asked is a fault also where no redirect is left
            match allowed with
            | 0 => ⟨[url], .error .tooManyRedirects⟩
            | allowed + 1 =>
              let rest := follow server allowed (sent + 1) next
              ⟨url :: rest.requests, rest.outcome⟩

/-- Ask a server for the object at an address. -/
def run (server : Server) (url : Url) : Lookup Members :=
  let answered := follow server maxRedirects 0 url
  ⟨answered.requests, answered.outcome.bind HttpAnswer.object⟩

end Lookup

namespace Catalog

/-- The address of a benefit in the catalog, from the template given or the usual one. -/
def address (settings : Settings) (benefit : Json) (template? : Option Text) : Except Fault Text :=
  let template := match template? with
    | some t => if t.isEmpty then settings.catalogUrl else t
    | none => settings.catalogUrl
  Template.fill template [(Text.ofString "benefit_id", benefit)]

/-- The message of a failed look-up. -/
def lookupMessage (settings : Settings) (benefit : Text) : LookupFailure → Text
  | .timeout => Text.ofString "Timeout: catalog service did not answer for " ++ benefit
      ++ Text.ofString " within " ++ Text.ofInt settings.catalogTimeout ++ Text.ofString "s"
  | .unreachable reason => Text.ofString "Request failed: catalog service unreachable for "
      ++ benefit ++ Text.ofString ": " ++ reason
  | .tooManyRedirects => Text.ofString "Catalog lookup for " ++ benefit
      ++ Text.ofString " followed more than " ++ Text.ofNat maxRedirects
      ++ Text.ofString " redirects"
  | .status status reason => Text.ofString "Catalog service answered " ++ Text.ofNat status
      ++ Text.ofString " " ++ reason ++ Text.ofString " for " ++ benefit
  | .contentType found => Text.ofString "Catalog for " ++ benefit
      ++ Text.ofString " returned content-type " ++ found.quoted ++ Text.ofString ", not JSON"
  | .tooLarge size => Text.ofString "Catalog for " ++ benefit ++ Text.ofString " is "
      ++ Text.ofNat size ++ Text.ofString " bytes, which exceeds the " ++ Text.ofNat maxCatalogBytes
      ++ Text.ofString " byte limit"
  | .notJson reason => Text.ofString "Catalog for " ++ benefit
      ++ Text.ofString " is not valid JSON: " ++ reason
  | .notObject => Text.ofString "Catalog for " ++ benefit ++ Text.ofString " is not a JSON object"
  | .fault _ => []

/-- A failed look-up as a failure of the catalog, or the fault that it was. -/
def lookupFailure (settings : Settings) (benefit : Json) : LookupFailure → Failure
  | .fault f => .fault f
  | failure =>
    match benefit.plain with
    | .ok shown => .catalogFetch (lookupMessage settings shown failure)
    | .error f => .fault f

/-- What the catalog holds about a benefit: the addresses that were asked, and the answer. -/
def lookup (settings : Settings) (server : Server) (benefit : Json) (template? : Option Text) :
    List Url × Except Failure Members :=
  match address settings benefit template? with
  | .error f => ([], .error (.fault f))
  | .ok t =>
    match ((Url.parse t).bind Url.blank.under).bind Url.reachable with
    | .error p => ([], .error (.fault p.fault))
    | .ok url =>
      let found := Lookup.run server url
      (found.requests, found.outcome.mapError (lookupFailure settings benefit))

end Catalog

end BenefitForm
