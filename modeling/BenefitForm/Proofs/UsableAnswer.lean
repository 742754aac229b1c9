import BenefitForm.Proofs.LookupFault

/-!
# Answers that a look-up accepts

A look-up has an object iff the chain of its requests ends, within the bound on
redirects, in an answer that passes every check (`HttpAnswer.IsUsable`). Its
requests are those for the addresses of the chain, one for each, so the bound on
redirects is also one on requests.

The checks that come before the content are a function of their own
(`HttpAnswer.refusal?`). With it a look-up can be run with any reader of contents
(`Catalog.lookupBy`), and one that is refused does not depend on the reader.

- `requests_follow_eq_some_iff`: which address each request is for.
- `object_eq_ok_iff`: what an answer has to be to have an object.
- `objectBy_congr`: a reader matters for accepted answers alone.
- `lookup_eq_ok_iff_usable`: all of this for every look-up.
-/

namespace BenefitForm

/-! ### The addresses that are asked -/

namespace Lookup

variable {server : Server}

/-- A chain is at its end at once or goes on from the next address. -/
theorem reaches_iff {sent n : Nat} {url last : Url} :
    Reaches server sent url n last ↔ (n = sent ∧ last = url) ∨
      ∃ next, step server sent url = .ok (.inr next) ∧ Reaches server (sent + 1) next n last := by
  constructor
  · intro h
    cases h with
    | refl => exact .inl ⟨rfl, rfl⟩
    | next hstep hrest => exact .inr ⟨_, hstep, hrest⟩
  · rintro (⟨rfl, rfl⟩ | ⟨next, hstep, hrest⟩)
    · exact .refl _ _
    · exact .next hstep hrest

/-- The requests for an address: the one for it, and those for what it leads to while a redirect is
left. -/
theorem requests_follow (allowed sent : Nat) (url : Url) :
    (follow server allowed sent url).requests = url :: match step server sent url, allowed with
      | .ok (.inr next), allowed + 1 => (follow server allowed (sent + 1) next).requests
      | _, _ => [] := by
  rw [follow_eq]
  cases step server sent url with
  | error e => rfl
  | ok led =>
    cases led with
    | inl answer => rfl
    | inr next => cases allowed <;> rfl

/-- The requests of a run are for the addresses of its chain, in order, as far as redirects are
left. -/
theorem requests_follow_eq_some_iff {allowed sent i : Nat} {url asked : Url} :
    (follow server allowed sent url).requests[i]? = some asked ↔
      Reaches server sent url (sent + i) asked ∧ i ≤ allowed := by
  -- the first request is for the address itself, and any other one for an address after it
  induction i generalizing allowed sent url with
  | zero =>
    rw [requests_follow, List.getElem?_cons_zero, Option.some.injEq, reaches_iff]
    constructor
    · rintro rfl
      exact ⟨.inl ⟨rfl, rfl⟩, Nat.zero_le _⟩
    · rintro ⟨⟨-, rfl⟩ | ⟨next, -, hrest⟩, -⟩
      · rfl
      · have hle := hrest.le
        omega
  | succ i ih =>
    have hfirst : ¬ (sent + (i + 1) = sent ∧ asked = url) := by omega
    have hindex : sent + (i + 1) = sent + 1 + i := by omega
    rw [requests_follow, List.getElem?_cons_succ, reaches_iff, or_iff_right hfirst, hindex]
    cases hstep : step server sent url with
    | error e => simp
    | ok led =>
      cases led with
      | inl answer => simp
      | inr next =>
        cases allowed with
        | zero => simp
        | succ allowed => simp [ih]

/-- There is one request more than redirects are followed, at most. -/
theorem length_requests_follow_le (allowed sent : Nat) (url : Url) :
    (follow server allowed sent url).requests.length ≤ allowed + 1 := by
  rw [← List.getElem?_eq_none_iff, ← Option.not_isSome_iff_eq_none, Option.isSome_iff_exists]
  rintro ⟨asked, hasked⟩
  have hle := (requests_follow_eq_some_iff.mp hasked).2
  omega

/-- Redirects come to an answer iff the chain ends in it. -/
theorem outcome_follow_eq_ok_iff_endsAt {bound : Nat} {url : Url} {answer : HttpAnswer} :
    (follow server bound 0 url).outcome = .ok answer ↔
      ∃ n last, EndsAt server bound 0 url n last ∧ step server n last = .ok (.inl answer) := by
  rw [outcome_follow_eq_ok_iff, Nat.zero_add]
  refine exists_congr fun n => exists_congr fun last => ?_
  constructor
  · rintro ⟨hreaches, hle, hstep⟩
    refine ⟨⟨hreaches, hle, fun next hnext => ?_⟩, hstep⟩
    rw [hstep] at hnext
    cases hnext
  · rintro ⟨hend, hstep⟩
    exact ⟨hend.reaches, hend.le, hstep⟩

end Lookup

/-! ### What is read of an answer -/

namespace HttpAnswer

/-- Whether an answer has the object `members`: it is a success, its content type without what
follows a semicolon, without blanks around it and in small letters is that of JSON, and its content
is not too large and is the object. -/
structure IsUsable (a : HttpAnswer) (members : Members) : Prop where
  success : 200 ≤ a.status ∧ a.status < 300
  json : (Text.strip (a.contentType.takeWhile (·.val ≠ 0x3B))).lower
    = Text.ofString "application/json"
  size : a.body.length ≤ maxCatalogBytes
  content : Json.readBytes a.body = .ok (.object members)

/-- Why the content of an answer is not read, if it is not. -/
def refusal? (a : HttpAnswer) : Option LookupFailure :=
  if !a.isSuccess then some (.status a.status a.shownReason)
  else if !a.isJson then some (.contentType a.contentType)
  else if a.body.length > maxCatalogBytes then some (.tooLarge a.body.length)
  else none

/-- The object that was read. -/
def objectOf : Except ReadFailure Json → Except LookupFailure Members
  | .ok (.object members) => .ok members
  | .ok _ => .error .notObject
  | .error (.malformed e) => .error (.notJson e.message)
  | .error (.undecodable e) => .error (.notJson e.message)
  | .error failure => .error (.fault failure.fault)

/-- The object that an answer holds for a reader of contents. -/
def objectBy (read : List UInt8 → Except ReadFailure Json) (a : HttpAnswer) :
    Except LookupFailure Members :=
  match a.refusal? with
  | some e => .error e
  | none => objectOf (read a.body)

/-- An answer is accepted iff there is no reason not to read it. -/
theorem isAccepted_iff {a : HttpAnswer} : a.IsAccepted ↔ a.refusal? = none := by
  rw [refusal?]
  constructor
  · rintro ⟨hsuccess, hjson, hsize⟩
    simp [hsuccess, hjson, Nat.not_lt.mpr hsize]
  · intro h
    split at h
    case isTrue => cases h
    case isFalse hsuccess =>
      split at h
      case isTrue => cases h
      case isFalse hjson =>
        split at h
        case isTrue => cases h
        case isFalse hsize =>
          exact ⟨by simpa using hsuccess, by simpa using hjson, Nat.le_of_not_lt hsize⟩

/-- The object of an answer is that for the reader of JSON documents. -/
theorem objectBy_readBytes (a : HttpAnswer) : a.objectBy Json.readBytes = a.object := by
  rw [objectBy, refusal?, object]
  cases !a.isSuccess with
  | true => rfl
  | false =>
    cases !a.isJson with
    | true => rfl
    | false =>
      by_cases hsize : a.body.length > maxCatalogBytes
      · simp [hsize]
      · simp only [Bool.false_eq_true, if_false, hsize]
        rfl

/-- The content of an answer is read only where the answer is accepted. -/
theorem objectBy_congr {read read' : List UInt8 → Except ReadFailure Json} {a : HttpAnswer}
    (h : a.IsAccepted → read a.body = read' a.body) : a.objectBy read = a.objectBy read' := by
  rw [objectBy, objectBy]
  cases hrefusal : a.refusal? with
  | some e => rfl
  | none =>
    dsimp only
    rw [h (isAccepted_iff.mpr hrefusal)]

theorem objectOf_eq_ok_iff {read : Except ReadFailure Json} {members : Members} :
    objectOf read = .ok members ↔ read = .ok (.object members) := by
  constructor
  · intro h
    unfold objectOf at h
    split at h <;> cases h
    rfl
  · rintro rfl
    rfl

/-- An answer has an object iff it passes every check and its content is the object. -/
theorem object_eq_ok_iff {a : HttpAnswer} {members : Members} :
    a.object = .ok members ↔ a.IsUsable members := by
  have hsuccess : a.isSuccess = true ↔ 200 ≤ a.status ∧ a.status < 300 := by
    rw [isSuccess, Bool.and_eq_true, decide_eq_true_iff, decide_eq_true_iff]
  have hjson : a.isJson = true ↔ (Text.strip (a.contentType.takeWhile (·.val ≠ 0x3B))).lower
      = Text.ofString "application/json" := by
    rw [isJson, decide_eq_true_iff]
  rw [← objectBy_readBytes, objectBy]
  constructor
  · intro h
    cases hrefusal : a.refusal? with
    | some e =>
      rw [hrefusal] at h
      cases h
    | none =>
      rw [hrefusal] at h
      have haccepted := isAccepted_iff.mpr hrefusal
      exact ⟨hsuccess.mp haccepted.success, hjson.mp haccepted.json, haccepted.size,
        objectOf_eq_ok_iff.mp h⟩
  · intro h
    have haccepted : a.IsAccepted := ⟨hsuccess.mpr h.success, hjson.mpr h.json, h.size⟩
    rw [isAccepted_iff.mp haccepted]
    exact objectOf_eq_ok_iff.mpr h.content

end HttpAnswer

/-! ### Look-ups -/

/-- Ask a server for the object at an address, with a reader of contents. -/
def Lookup.runBy (read : List UInt8 → Except ReadFailure Json) (server : Server) (url : Url) :
    Lookup Members :=
  let answered := follow server maxRedirects 0 url
  ⟨answered.requests, answered.outcome.bind (HttpAnswer.objectBy read)⟩

namespace Lookup

variable {server : Server} {url : Url}

/-- A run has an object iff the chain of its requests ends in a usable answer with that object. -/
theorem outcome_run_eq_ok_iff {members : Members} :
    (run server url).outcome = .ok members ↔
      ∃ n last answer, EndsAt server maxRedirects 0 url n last ∧
        step server n last = .ok (.inl answer) ∧ answer.IsUsable members := by
  have hbind : (run server url).outcome = .ok members ↔
      ∃ answer, (follow server maxRedirects 0 url).outcome = .ok answer ∧
        answer.object = .ok members := bind_eq_ok_iff
  rw [hbind]
  simp only [outcome_follow_eq_ok_iff_endsAt, HttpAnswer.object_eq_ok_iff]
  constructor
  · rintro ⟨answer, ⟨n, last, hend, hstep⟩, husable⟩
    exact ⟨n, last, answer, hend, hstep, husable⟩
  · rintro ⟨n, last, answer, hend, hstep, husable⟩
    exact ⟨answer, ⟨n, last, hend, hstep⟩, husable⟩

/-- A run reads the content of the answer at the end of the chain, if it is accepted, and no other
content. -/
theorem runBy_congr {read read' : List UInt8 → Except ReadFailure Json}
    (h : ∀ n last answer, EndsAt server maxRedirects 0 url n last →
      step server n last = .ok (.inl answer) → answer.IsAccepted →
        read answer.body = read' answer.body) :
    runBy read server url = runBy read' server url := by
  have houtcome : (follow server maxRedirects 0 url).outcome.bind (HttpAnswer.objectBy read)
      = (follow server maxRedirects 0 url).outcome.bind (HttpAnswer.objectBy read') := by
    cases hanswer : (follow server maxRedirects 0 url).outcome with
    | error e => rfl
    | ok answer =>
      obtain ⟨n, last, hend, hstep⟩ := outcome_follow_eq_ok_iff_endsAt.mp hanswer
      exact HttpAnswer.objectBy_congr (h n last answer hend hstep)
  rw [runBy, runBy, houtcome]

end Lookup

namespace Catalog

open Lookup

/-- What the catalog holds about a benefit for a reader of contents: the addresses that were asked,
and the answer. -/
def lookupBy (read : List UInt8 → Except ReadFailure Json) (settings : Settings)
    (server : Server) (benefit : Json) (template? : Option Text) :
    List Url × Except Failure Members :=
  match address settings benefit template? with
  | .error f => ([], .error (.fault f))
  | .ok t =>
    match asked t with
    | .error p => ([], .error (.fault p.fault))
    | .ok url =>
      let found := runBy read server url
      (found.requests, found.outcome.mapError (lookupFailure settings benefit))

/-- A look-up reads contents as JSON documents. -/
theorem lookupBy_readBytes (settings : Settings) (server : Server) (benefit : Json)
    (template? : Option Text) :
    lookupBy Json.readBytes settings server benefit template?
      = lookup settings server benefit template? := by
  have hobject : HttpAnswer.objectBy Json.readBytes = HttpAnswer.object :=
    funext HttpAnswer.objectBy_readBytes
  simp only [lookupBy, lookup, runBy, run, hobject]
  rfl

section

variable {settings : Settings} {server : Server} {benefit : Json} {template? : Option Text}
  {t : Text} {start : Url} (haddress : address settings benefit template? = .ok t)
  (hasked : asked t = .ok start)

include haddress hasked

theorem lookup_eq_run :
    lookup settings server benefit template? = ((run server start).requests,
      (run server start).outcome.mapError (lookupFailure settings benefit)) := by
  have hparse : ((Url.parse t).bind Url.blank.under).bind Url.reachable = .ok start := hasked
  rw [lookup, haddress]
  dsimp only
  rw [hparse]

theorem lookupBy_eq_runBy (read : List UInt8 → Except ReadFailure Json) :
    lookupBy read settings server benefit template? = ((runBy read server start).requests,
      (runBy read server start).outcome.mapError (lookupFailure settings benefit)) := by
  rw [lookupBy, haddress]
  dsimp only
  rw [hasked]

/-- A look-up at an address that can be asked has an object iff the chain of requests from there
ends in a usable answer with that object. Whatever comes of it, the requests are those for the
addresses of the chain, no more than one above the bound on redirects, and no content is read but
that of an accepted answer at the end of the chain. -/
theorem lookup_eq_ok_iff_usable :
    (∀ members, (lookup settings server benefit template?).2 = .ok members ↔
      ∃ n last answer, EndsAt server maxRedirects 0 start n last ∧
        step server n last = .ok (.inl answer) ∧ answer.IsUsable members) ∧
    (∀ n url, (lookup settings server benefit template?).1[n]? = some url ↔
      Reaches server 0 start n url ∧ n ≤ maxRedirects) ∧
    (lookup settings server benefit template?).1.length ≤ maxRedirects + 1 ∧
    lookup settings server benefit template?
      = lookupBy Json.readBytes settings server benefit template? ∧
    ∀ read read', (∀ n last answer, EndsAt server maxRedirects 0 start n last →
        step server n last = .ok (.inl answer) → answer.IsAccepted →
          read answer.body = read' answer.body) →
      lookupBy read settings server benefit template?
        = lookupBy read' settings server benefit template? := by
  have hlookup : lookup settings server benefit template? = ((run server start).requests,
      (run server start).outcome.mapError (lookupFailure settings benefit)) :=
    lookup_eq_run haddress hasked
  refine ⟨fun members => ?_, fun n url => ?_, ?_, (lookupBy_readBytes ..).symm,
    fun read read' hsame => ?_⟩
  · rw [hlookup, mapError_eq_ok_iff, outcome_run_eq_ok_iff]
  · rw [hlookup, run, requests_follow_eq_some_iff, Nat.zero_add]
  · rw [hlookup]
    exact length_requests_follow_le maxRedirects 0 start
  · rw [lookupBy_eq_runBy haddress hasked, lookupBy_eq_runBy haddress hasked, runBy_congr hsame]

end

/-- A server that sends its reader on to a new address as often as a number says, and then answers
with a content. -/
def hopping (hops : Nat) (content : List UInt8) : Server := fun n =>
  if n < hops then
    .ok { status := 307
          reason := Text.ofString "Temporary Redirect"
          headers := [(Text.ofString "Location", Text.ofString "/v" ++ Text.ofNat n)]
          body := [] }
  else
    .ok { status := 203
          reason := Text.ofString "OK"
          headers := [(Text.ofString "Content-Type",
            Text.ofString " Application/JSON ; charset=utf-8")]
          body := content }

/-- As many redirects as are followed lead to the object, with four requests. -/
theorem lookup_eq_ok_iff_usable_of_hopping :
    address .standard (.string (Text.ofString "b-1")) none
        = .ok (Text.ofString "http://localhost:3000/content/b-1") ∧
      ∃ start n last answer, asked (Text.ofString "http://localhost:3000/content/b-1") = .ok start ∧
        EndsAt (hopping maxRedirects [0x7B, 0x7D]) maxRedirects 0 start n last ∧
        step (hopping maxRedirects [0x7B, 0x7D]) n last = .ok (.inl answer) ∧
        answer.IsUsable [] ∧
        (lookup .standard (hopping maxRedirects [0x7B, 0x7D]) (.string (Text.ofString "b-1"))
          none).1.length = maxRedirects + 1 := by
  have haddress := address_standard (Text.ofString "b-1")
  obtain ⟨start, hstart, hrun⟩ := exists_ok_of_any
    (x := asked (Text.ofString "http://localhost:3000/content/b-1"))
    (q := fun start => (run (hopping maxRedirects [0x7B, 0x7D]) start).outcome.toOption.any
        (·.isEmpty)
      && (run (hopping maxRedirects [0x7B, 0x7D]) start).requests.length == maxRedirects + 1)
    (by decide +kernel)
  obtain ⟨hfound, hlength⟩ := Bool.and_eq_true_iff.mp hrun
  obtain ⟨members, hok, hempty⟩ := exists_ok_of_any hfound
  rw [List.isEmpty_iff] at hempty
  subst hempty
  have hlookup : lookup .standard (hopping maxRedirects [0x7B, 0x7D])
      (.string (Text.ofString "b-1")) none
        = ((run (hopping maxRedirects [0x7B, 0x7D]) start).requests,
          (run (hopping maxRedirects [0x7B, 0x7D]) start).outcome.mapError
            (lookupFailure .standard (.string (Text.ofString "b-1")))) :=
    lookup_eq_run haddress hstart
  have hresult : (lookup .standard (hopping maxRedirects [0x7B, 0x7D])
      (.string (Text.ofString "b-1")) none).2 = .ok [] := by
    rw [hlookup, hok]
    rfl
  obtain ⟨n, last, answer, hend, hstep, husable⟩ :=
    ((lookup_eq_ok_iff_usable haddress hstart).1 []).mp hresult
  refine ⟨haddress, start, n, last, answer, hstart, hend, hstep, husable, ?_⟩
  rw [hlookup]
  exact beq_iff_eq.mp hlength

end Catalog

end BenefitForm
