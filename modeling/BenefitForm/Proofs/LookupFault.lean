import BenefitForm.Proofs.CatalogAddress
import BenefitForm.Proofs.Outcome
import BenefitForm.Proofs.RedirectChain

/-!
# Faults that look-ups let through

A look-up should have an object or fail as a failure of the catalog. It does unless
a fault comes up on the way that is no failure of the catalog: the address is no URL,
or a request ends in one of the ways that `Lookup.FaultAt` lists. `lookup_settled_iff`
shows that these are all the ways there are.
-/

namespace BenefitForm

open Lookup

/-- Whether the content of an answer is read: the answer is a success with the content type of JSON
and not too large. -/
structure HttpAnswer.IsAccepted (a : HttpAnswer) : Prop where
  success : a.isSuccess = true
  json : a.isJson = true
  size : a.body.length ≤ maxCatalogBytes

/-- How the request for `url`, after `sent` others, ends in a fault. -/
inductive Lookup.FaultAt (server : Server) (sent : Nat) (url : Url) : Fault → Prop where
  /-- The answer cannot be written in bytes. -/
  | content {e : EncodeError} (hserver : server sent = .error (.unencodable e)) :
    FaultAt server sent url (.unencodable e)
  /-- The header fields cannot be written in bytes. -/
  | header {answer : HttpAnswer} {e : EncodeError} (hserver : server sent = .ok answer)
      (hheader : answer.headerError? = some e) : FaultAt server sent url (.unencodable e)
  /-- The address that was asked names no scheme. -/
  | scheme {answer : HttpAnswer} (hreceived : receive server sent = .ok answer)
      (hscheme : url.namesScheme = false) : FaultAt server sent url .invalidValue
  /-- The redirect holds a surrogate. -/
  | location {answer : HttpAnswer} {location : Text} {e : EncodeError}
      (hreceived : receive server sent = .ok answer) (hscheme : url.namesScheme = true)
      (hlocation : answer.redirect? = some location)
      (hparse : Url.parse location = .error (.unencodable e)) :
    FaultAt server sent url (.unencodable e)
  /-- The redirect leads to an address that cannot be asked. -/
  | target {answer : HttpAnswer} {location : Text} {reference : Url} {p : UrlProblem}
      (hreceived : receive server sent = .ok answer) (hscheme : url.namesScheme = true)
      (hlocation : answer.redirect? = some location) (hparse : Url.parse location = .ok reference)
      (htarget : (url.resolve reference).bind Url.reachable = .error p) :
    FaultAt server sent url p.fault
  /-- The content holds a whole number with too many digits. -/
  | digits {answer : HttpAnswer} (hreceived : receive server sent = .ok answer)
      (hscheme : url.namesScheme = true) (hlocation : answer.redirect? = none)
      (haccepted : answer.IsAccepted)
      (hread : Json.readBytes answer.body = .error .tooManyDigits) :
    FaultAt server sent url .invalidValue
  /-- The content is nested too deeply. -/
  | depth {answer : HttpAnswer} (hreceived : receive server sent = .ok answer)
      (hscheme : url.namesScheme = true) (hlocation : answer.redirect? = none)
      (haccepted : answer.IsAccepted) (hread : Json.readBytes answer.body = .error .tooDeep) :
    FaultAt server sent url .tooDeep

namespace Catalog

/-- The address that a client asks for a text. -/
def asked (t : Text) : Except UrlProblem Url :=
  ((Url.parse t).bind Url.blank.under).bind Url.reachable

/-- The faults that come up where a text is asked for. -/
inductive LookupFault (server : Server) (t : Text) : Fault → Prop where
  /-- The text is no address that can be asked. -/
  | address {p : UrlProblem} (h : asked t = .error p) : LookupFault server t p.fault
  /-- A request ends in a fault, after no more redirects than are followed. -/
  | request {start url : Url} {n : Nat} {f : Fault} (hasked : asked t = .ok start)
      (hreaches : Reaches server 0 start n url) (hle : n ≤ maxRedirects)
      (hfault : FaultAt server n url f) : LookupFault server t f

/-- Whether a look-up has an object or fails as a failure of the catalog. -/
def IsSettled (outcome : Except Failure Members) : Prop :=
  (∃ members, outcome = .ok members) ∨ ∃ message, outcome = .error (.catalogFetch message)

end Catalog

instance : DecidablePred Catalog.IsSettled
  | .ok members => .isTrue (.inl ⟨members, rfl⟩)
  | .error (.catalogFetch message) => .isTrue (.inr ⟨message, rfl⟩)
  | .error (.fault _) => .isFalse (by rintro (⟨_, h⟩ | ⟨_, h⟩) <;> cases h)
  | .error (.malformedRule _) => .isFalse (by rintro (⟨_, h⟩ | ⟨_, h⟩) <;> cases h)
  | .error .encodingFailed => .isFalse (by rintro (⟨_, h⟩ | ⟨_, h⟩) <;> cases h)
  | .error (.catalogParse _) => .isFalse (by rintro (⟨_, h⟩ | ⟨_, h⟩) <;> cases h)

/-! ### Causes -/

namespace HttpAnswer

/-- An answer whose content is read has the object that the content is. -/
theorem object_of_isAccepted {a : HttpAnswer} (h : a.IsAccepted) :
    a.object = match Json.readBytes a.body with
      | .ok (.object members) => .ok members
      | .ok _ => .error .notObject
      | .error (.malformed e) => .error (.notJson e.message)
      | .error (.undecodable e) => .error (.notJson e.message)
      | .error failure => .error (.fault failure.fault) := by
  have hsuccess : ¬ (!a.isSuccess) = true := by rw [h.success]; exact Bool.false_ne_true
  have hjson : ¬ (!a.isJson) = true := by rw [h.json]; exact Bool.false_ne_true
  have hsize : ¬ a.body.length > maxCatalogBytes := Nat.not_lt.mpr h.size
  exact (if_neg hsuccess).trans ((if_neg hjson).trans (if_neg hsize))

/-- An answer whose content is not read fails for what it is. -/
theorem isAccepted_of_object_eq_fault {a : HttpAnswer} {f : Fault}
    (h : a.object = .error (.fault f)) : a.IsAccepted := by
  rw [object] at h
  split at h
  case isTrue => cases h
  case isFalse hsuccess =>
    split at h
    case isTrue => cases h
    case isFalse hjson =>
      split at h
      case isTrue => cases h
      case isFalse hsize =>
        exact ⟨by simpa using hsuccess, by simpa using hjson, Nat.le_of_not_lt hsize⟩

/-- The object of an answer is a fault only where its content is read. -/
theorem object_eq_fault_iff {a : HttpAnswer} {f : Fault} :
    a.object = .error (.fault f) ↔ a.IsAccepted ∧
      (Json.readBytes a.body = .error .tooManyDigits ∧ f = .invalidValue ∨
        Json.readBytes a.body = .error .tooDeep ∧ f = .tooDeep) := by
  constructor
  · intro h
    have haccepted := isAccepted_of_object_eq_fault h
    refine ⟨haccepted, ?_⟩
    rw [object_of_isAccepted haccepted] at h
    cases hread : Json.readBytes a.body with
    | ok v =>
      rw [hread] at h
      cases v <;> cases h
    | error failure =>
      rw [hread] at h
      cases failure with
      | malformed e => cases h
      | undecodable e => cases h
      | tooManyDigits =>
        cases h
        exact .inl ⟨rfl, rfl⟩
      | tooDeep =>
        cases h
        exact .inr ⟨rfl, rfl⟩
  · rintro ⟨haccepted, ⟨hread, rfl⟩ | ⟨hread, rfl⟩⟩ <;>
      rw [object_of_isAccepted haccepted, hread] <;> rfl

/-- The reader of an answer is sent on to no address, for a fault. -/
theorem target_eq_fault_iff {url : Url} {location : Text} {f : Fault} :
    target url location = .error (.fault f) ↔
      (∃ e, Url.parse location = .error (.unencodable e) ∧ .unencodable e = f) ∨
        ∃ reference p, Url.parse location = .ok reference ∧
          (url.resolve reference).bind Url.reachable = .error p ∧ p.fault = f := by
  rw [target]
  cases Url.parse location with
  | error p => cases p <;> simp
  | ok reference => simp [mapError_eq_error_iff]

end HttpAnswer

namespace Lookup

/-- An answer cannot be taken, for a fault. -/
theorem receive_eq_fault_iff {server : Server} {sent : Nat} {f : Fault} :
    receive server sent = .error (.fault f) ↔
      ∃ e, f = .unencodable e ∧ (server sent = .error (.unencodable e) ∨
        ∃ answer, server sent = .ok answer ∧ answer.headerError? = some e) := by
  rw [receive]
  cases server sent with
  | error failure => cases failure <;> simp [eq_comm]
  | ok answer =>
    cases hheader : answer.headerError? with
    | some e => simp [hheader, eq_comm]
    | none => simp [hheader, mapError_eq_error_iff]

/-- A request ends in a fault iff it leads to one, or to an answer whose object is one. -/
theorem faultAt_iff {server : Server} {sent : Nat} {url : Url} {f : Fault} :
    FaultAt server sent url f ↔ step server sent url = .error (.fault f) ∨
      ∃ answer, step server sent url = .ok (.inl answer) ∧ answer.object = .error (.fault f) := by
  -- all that a request does, in terms of the server's answer and its content
  simp only [step_eq_error_iff, step_eq_answer_iff, receive_eq_fault_iff,
    HttpAnswer.target_eq_fault_iff, HttpAnswer.object_eq_fault_iff, LookupFailure.fault.injEq]
  constructor
  · intro h
    cases h with
    | content hserver => exact .inl (.inl ⟨_, rfl, .inl hserver⟩)
    | header hserver hheader => exact .inl (.inl ⟨_, rfl, .inr ⟨_, hserver, hheader⟩⟩)
    | scheme hreceived hscheme => exact .inl (.inr ⟨_, hreceived, .inl ⟨hscheme, rfl⟩⟩)
    | location hreceived hscheme hlocation hparse =>
      exact .inl (.inr ⟨_, hreceived, .inr ⟨hscheme, _, hlocation, .inl ⟨_, hparse, rfl⟩⟩⟩)
    | target hreceived hscheme hlocation hparse htarget =>
      exact .inl (.inr ⟨_, hreceived, .inr ⟨hscheme, _, hlocation,
        .inr ⟨_, _, hparse, htarget, rfl⟩⟩⟩)
    | digits hreceived hscheme hlocation haccepted hread =>
      exact .inr ⟨_, ⟨hreceived, hscheme, hlocation⟩, haccepted, .inl ⟨hread, rfl⟩⟩
    | depth hreceived hscheme hlocation haccepted hread =>
      exact .inr ⟨_, ⟨hreceived, hscheme, hlocation⟩, haccepted, .inr ⟨hread, rfl⟩⟩
  · rintro ((⟨e, rfl, hserver | ⟨answer, hserver, hheader⟩⟩ | ⟨answer, hreceived,
      ⟨hscheme, rfl⟩ | ⟨hscheme, location, hlocation, ⟨e, hparse, rfl⟩ |
        ⟨reference, p, hparse, htarget, rfl⟩⟩⟩) |
      ⟨answer, ⟨hreceived, hscheme, hlocation⟩, haccepted, ⟨hread, rfl⟩ | ⟨hread, rfl⟩⟩)
    · exact .content hserver
    · exact .header hserver hheader
    · exact .scheme hreceived hscheme
    · exact .location hreceived hscheme hlocation hparse
    · exact .target hreceived hscheme hlocation hparse htarget
    · exact .digits hreceived hscheme hlocation haccepted hread
    · exact .depth hreceived hscheme hlocation haccepted hread

/-- A run of requests ends in a fault iff one of them does. -/
theorem outcome_run_eq_fault_iff {server : Server} {url : Url} {f : Fault} :
    (run server url).outcome = .error (.fault f) ↔
      ∃ n last, Reaches server 0 url n last ∧ n ≤ maxRedirects ∧ FaultAt server n last f := by
  have hbind : ∀ x : Except LookupFailure HttpAnswer, x.bind HttpAnswer.object = .error (.fault f) ↔
      x = .error (.fault f) ∨ ∃ answer, x = .ok answer ∧ answer.object = .error (.fault f) := by
    rintro (e | answer) <;> simp [Except.bind]
  -- a fault is never the count of redirects, so some request has to be its cause
  rw [run, hbind, outcome_follow_eq_error_iff (by simp)]
  simp only [outcome_follow_eq_ok_iff, faultAt_iff, Nat.zero_add]
  constructor
  · rintro (⟨n, last, hreaches, hle, hstep⟩ | ⟨answer, ⟨n, last, hreaches, hle, hstep⟩, hobject⟩)
    · exact ⟨n, last, hreaches, hle, .inl hstep⟩
    · exact ⟨n, last, hreaches, hle, .inr ⟨answer, hstep, hobject⟩⟩
  · rintro ⟨n, last, hreaches, hle, hstep | ⟨answer, hstep, hobject⟩⟩
    · exact .inl ⟨n, last, hreaches, hle, hstep⟩
    · exact .inr ⟨answer, ⟨n, last, hreaches, hle, hstep⟩, hobject⟩

end Lookup

/-! ### Look-ups -/

namespace Catalog

theorem lookup_eq {settings : Settings} {server : Server} {benefit : Json}
    {template? : Option Text} {t : Text} (h : address settings benefit template? = .ok t) :
    (lookup settings server benefit template?).2 = match asked t with
      | .error p => .error (.fault p.fault)
      | .ok url => (run server url).outcome.mapError (lookupFailure settings benefit) := by
  rw [lookup, h, asked]
  dsimp only
  cases ((Url.parse t).bind Url.blank.under).bind Url.reachable <;> rfl

/-- A failure that is no fault is reported as one of the catalog. -/
theorem lookupFailure_of_ne_fault {settings : Settings} {benefit : Text} {e : LookupFailure}
    (h : ∀ f, e ≠ .fault f) : lookupFailure settings (.string benefit) e
      = .catalogFetch (lookupMessage settings benefit e) := by
  cases e with
  | fault f => exact absurd rfl (h f)
  | _ => rfl

theorem lookupFailure_eq_fault_iff {settings : Settings} {benefit : Text} {e : LookupFailure}
    {f : Fault} : lookupFailure settings (.string benefit) e = .fault f ↔ e = .fault f := by
  by_cases h : ∃ f', e = .fault f'
  · obtain ⟨f', rfl⟩ := h
    simp [lookupFailure]
  · have hne : ∀ f', e ≠ .fault f' := fun f' he => h ⟨f', he⟩
    simp [lookupFailure_of_ne_fault hne, hne f]

section

variable {settings : Settings} {server : Server} {benefit : Text} {template? : Option Text}
  {t : Text} (h : address settings (.string benefit) template? = .ok t)

include h

theorem lookup_eq_fault_iff {f : Fault} :
    (lookup settings server (.string benefit) template?).2 = .error (.fault f) ↔
      LookupFault server t f := by
  rw [lookup_eq h]
  cases hasked : asked t with
  | error p =>
    constructor
    · intro hfault
      cases hfault
      exact .address hasked
    · intro hfault
      cases hfault with
      | address haddress =>
        rw [hasked] at haddress
        cases haddress
        rfl
      | request hstart =>
        rw [hasked] at hstart
        cases hstart
  | ok url =>
    simp only [mapError_eq_error_iff, lookupFailure_eq_fault_iff, exists_eq_right,
      outcome_run_eq_fault_iff]
    constructor
    · rintro ⟨n, last, hreaches, hle, hfault⟩
      exact .request hasked hreaches hle hfault
    · intro hfault
      cases hfault with
      | address haddress =>
        rw [hasked] at haddress
        cases haddress
      | request hstart hreaches hle hfault =>
        rw [hasked] at hstart
        cases hstart
        exact ⟨_, _, hreaches, hle, hfault⟩

/-- A look-up that lets no fault through has an object or fails as a failure of the catalog. -/
theorem isSettled_lookup_iff :
    IsSettled (lookup settings server (.string benefit) template?).2 ↔
      ∀ f, (lookup settings server (.string benefit) template?).2 ≠ .error (.fault f) := by
  constructor
  · rintro (⟨members, hok⟩ | ⟨message, herror⟩) f hfault
    · rw [hok] at hfault
      cases hfault
    · rw [herror] at hfault
      cases hfault
  · intro hfault
    rw [lookup_eq h] at hfault ⊢
    cases hasked : asked t with
    | error p => exact absurd (by rw [hasked]) (hfault p.fault)
    | ok url =>
      simp only [hasked] at hfault ⊢
      cases houtcome : (run server url).outcome with
      | ok members => exact .inl ⟨members, rfl⟩
      | error e =>
        have he : ∀ f, e ≠ .fault f := by
          rintro f rfl
          exact hfault f (by rw [houtcome]; rfl)
        exact .inr ⟨_, congrArg Except.error (lookupFailure_of_ne_fault he)⟩

/-- What becomes of a look-up: it has an object or fails as a failure of the catalog unless a fault
comes up on the way, and then it ends in that fault. -/
theorem lookup_settled_iff :
    (IsSettled (lookup settings server (.string benefit) template?).2 ↔
      ∀ f, ¬ LookupFault server t f) ∧
    ∀ f, (lookup settings server (.string benefit) template?).2 = .error (.fault f) ↔
      LookupFault server t f := by
  refine ⟨?_, fun f => lookup_eq_fault_iff h⟩
  rw [isSettled_lookup_iff h]
  exact forall_congr' fun f => not_congr (lookup_eq_fault_iff h)

end

/-- A server that answers every request with a content. -/
def answering (content : List UInt8) : Server := fun _ =>
  .ok { status := 200
        reason := Text.ofString "OK"
        headers := [(Text.ofString "content-type", Text.ofString "application/json")]
        body := content }

/-- A server that sends its first reader on to another address and then answers with a content. -/
def redirecting (location : String) (content : List UInt8) : Server
  | 0 => .ok { status := 302
               reason := Text.ofString "Found"
               headers := [(Text.ofString "location", Text.ofString location)]
               body := [] }
  | n + 1 => answering content n

/-- No fault comes up where a redirect leads to an object. -/
theorem lookup_settled_iff_of_redirect :
    address .standard (.string (Text.ofString "b-1")) none
        = .ok (Text.ofString "http://localhost:3000/content/b-1") ∧
      ∀ f, ¬ LookupFault (redirecting "/v2/b-1" [0x7B, 0x7D])
        (Text.ofString "http://localhost:3000/content/b-1") f := by
  have haddress := address_standard (Text.ofString "b-1")
  refine ⟨haddress, (lookup_settled_iff haddress).1.mp ?_⟩
  rw [lookup_eq haddress]
  decide +kernel

/-- A benefit with a control character has no address that can be asked, whatever the server
answers; and lists that are nested too deeply and numbers that are too long are no contents. -/
theorem lookup_not_settled :
    (address .standard (.string (Text.ofString "a\nb")) none
        = .ok (Text.ofString "http://localhost:3000/content/a\nb") ∧
      ¬ IsSettled (lookup .standard (answering [0x7B, 0x7D])
        (.string (Text.ofString "a\nb")) none).2) ∧
    address .standard (.string (Text.ofString "b")) none
        = .ok (Text.ofString "http://localhost:3000/content/b") ∧
      ¬ IsSettled (lookup .standard (answering (List.replicate 2000 0x5B))
        (.string (Text.ofString "b")) none).2 ∧
      ¬ IsSettled (lookup .standard (answering (List.replicate 5000 0x39))
        (.string (Text.ofString "b")) none).2 :=
  ⟨⟨address_standard _, by rw [lookup_eq (address_standard _)]; decide +kernel⟩, address_standard _,
    by rw [lookup_eq (address_standard _)]; decide +kernel,
    by rw [lookup_eq (address_standard _)]; decide +kernel⟩

end Catalog

end BenefitForm
