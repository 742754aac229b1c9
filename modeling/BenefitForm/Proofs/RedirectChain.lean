import BenefitForm.Catalog.Lookup

/-!
# Chains of redirects

`Lookup.step` is what one request leads to: a failure, the last answer or the next
address. `Lookup.Reaches` says that requests lead from one address to another,
however many of them there are, and `Lookup.EndsAt` that with a bound on the
redirects no further request is sent.

- `exists_endsAt`: every chain has an end.
- `outcome_follow_of_endsAt`: what the request at its end leads to is what redirects
  come to.
- `outcome_follow_eq_ok_iff`, `outcome_follow_eq_error_iff`: so a chain of bounded
  length decides whether there is an answer, and which, or why there is none.
-/

namespace BenefitForm.Lookup

variable {server : Server}

/-! ### One request -/

/-- What a request after `sent` others leads to: the last answer, or the next address. -/
def step (server : Server) (sent : Nat) (url : Url) : Except LookupFailure (HttpAnswer ⊕ Url) :=
  match receive server sent with
  | .error e => .error e
  | .ok answer =>
    if !url.namesScheme then .error (.fault .invalidValue)
    else match answer.redirect? with
      | none => .ok (.inl answer)
      | some location => (HttpAnswer.target url location).map .inr

theorem step_eq_error_iff {sent : Nat} {url : Url} {e : LookupFailure} :
    step server sent url = .error e ↔
      receive server sent = .error e ∨ ∃ answer, receive server sent = .ok answer ∧
        (url.namesScheme = false ∧ e = .fault .invalidValue ∨ url.namesScheme = true ∧
          ∃ location, answer.redirect? = some location ∧
            HttpAnswer.target url location = .error e) := by
  rw [step]
  cases receive server sent with
  | error e => simp
  | ok answer =>
    cases url.namesScheme with
    | false => simp [eq_comm]
    | true =>
      cases hlocation : answer.redirect? with
      | none => simp [hlocation]
      | some location => cases htarget : HttpAnswer.target url location <;>
          simp [hlocation, htarget, Except.map]

theorem step_eq_answer_iff {sent : Nat} {url : Url} {answer : HttpAnswer} :
    step server sent url = .ok (.inl answer) ↔
      receive server sent = .ok answer ∧ url.namesScheme = true ∧ answer.redirect? = none := by
  constructor
  · intro h
    rw [step] at h
    split at h
    case h_1 => cases h
    case h_2 received hreceived =>
      split at h
      case isTrue => cases h
      case isFalse hscheme =>
        split at h
        case h_1 hlocation =>
          cases h
          exact ⟨hreceived, by simpa using hscheme, hlocation⟩
        case h_2 location hlocation =>
          cases htarget : HttpAnswer.target url location <;> rw [htarget] at h <;> cases h
  · rintro ⟨hreceived, hscheme, hlocation⟩
    simp only [step, hreceived, hscheme, hlocation]
    rfl

/-- What a request comes to that no other may follow. -/
def settled : Except LookupFailure (HttpAnswer ⊕ Url) → Except LookupFailure HttpAnswer
  | .error e => .error e
  | .ok (.inl answer) => .ok answer
  | .ok (.inr _) => .error .tooManyRedirects

theorem settled_eq_ok_iff {led : Except LookupFailure (HttpAnswer ⊕ Url)} {answer : HttpAnswer} :
    settled led = .ok answer ↔ led = .ok (.inl answer) := by
  constructor
  · intro h
    match led, h with
    | .ok (.inl answer), rfl => rfl
  · rintro rfl
    rfl

theorem settled_eq_error_iff {led : Except LookupFailure (HttpAnswer ⊕ Url)} {e : LookupFailure}
    (he : e ≠ .tooManyRedirects) : settled led = .error e ↔ led = .error e := by
  constructor
  · intro h
    match led, h with
    | .error e, rfl => rfl
    | .ok (.inr next), rfl => exact absurd rfl he
  · rintro rfl
    rfl

/-- The following of redirects request by request. -/
theorem follow_eq (allowed sent : Nat) (url : Url) :
    follow server allowed sent url = match step server sent url with
      | .error e => ⟨[url], .error e⟩
      | .ok (.inl answer) => ⟨[url], .ok answer⟩
      | .ok (.inr next) =>
        match allowed with
        | 0 => ⟨[url], .error .tooManyRedirects⟩
        | allowed + 1 =>
          let rest := follow server allowed (sent + 1) next
          ⟨url :: rest.requests, rest.outcome⟩ := by
  rw [follow.eq_def, step]
  dsimp only
  cases receive server sent with
  | error e => rfl
  | ok answer =>
    dsimp only
    cases hscheme : !url.namesScheme with
    | true => rfl
    | false =>
      cases answer.redirect? with
      | none => rfl
      | some location =>
        dsimp only
        cases HttpAnswer.target url location with
        | error e => rfl
        | ok next => cases allowed <;> rfl

/-! ### Chains -/

/-- Whether the request for `url` after `sent` others leads to that for `last` after `n` others. -/
inductive Reaches (server : Server) : Nat → Url → Nat → Url → Prop where
  | refl (sent : Nat) (url : Url) : Reaches server sent url sent url
  | next {sent n : Nat} {url next last : Url} (hstep : step server sent url = .ok (.inr next))
      (hrest : Reaches server (sent + 1) next n last) : Reaches server sent url n last

/-- Whether the request for `last` after `n` others is the last one that `url` leads to, if at most
`bound` may precede it. -/
structure EndsAt (server : Server) (bound sent : Nat) (url : Url) (n : Nat) (last : Url) :
    Prop where
  reaches : Reaches server sent url n last
  le : n ≤ bound
  /-- It leads on only where the bound is met. -/
  stops : ∀ next, step server n last = .ok (.inr next) → n = bound

theorem Reaches.le {sent n : Nat} {url last : Url} (h : Reaches server sent url n last) :
    sent ≤ n := by
  induction h with
  | refl => exact Nat.le_refl _
  | next hstep hrest ih => exact Nat.le_of_succ_le ih

/-- Every chain has an end. -/
theorem exists_endsAt (server : Server) (allowed sent : Nat) (url : Url) :
    ∃ n last, EndsAt server (sent + allowed) sent url n last := by
  -- a request that leads on leaves one redirect less for the rest of the chain
  induction allowed generalizing sent url with
  | zero => exact ⟨sent, url, .refl _ _, Nat.le_refl _, fun _ _ => rfl⟩
  | succ allowed ih =>
    by_cases hnext : ∃ next, step server sent url = .ok (.inr next)
    · obtain ⟨next, hstep⟩ := hnext
      obtain ⟨n, last, hreaches, hle, hstops⟩ := ih (sent + 1) next
      have hbound : sent + 1 + allowed = sent + (allowed + 1) := by omega
      exact ⟨n, last, .next hstep hreaches, hbound ▸ hle, hbound ▸ hstops⟩
    · exact ⟨sent, url, .refl _ _, Nat.le_add_right _ _, fun next h => absurd ⟨next, h⟩ hnext⟩

/-- What the request at the end of a chain leads to is what redirects come to. -/
theorem outcome_follow_of_endsAt {allowed sent n : Nat} {url last : Url}
    (h : EndsAt server (sent + allowed) sent url n last) :
    (follow server allowed sent url).outcome = settled (step server n last) := by
  obtain ⟨hreaches, hle, hstops⟩ := h
  induction hreaches generalizing allowed with
  | refl sent url =>
    rw [follow_eq]
    match hstep : step server sent url with
    | .error e => rfl
    | .ok (.inl answer) => rfl
    | .ok (.inr next) =>
      -- the chain ends here all the same, so the bound is met and no redirect is left
      have hallowed : allowed = 0 := by
        have := hstops next hstep
        omega
      subst hallowed
      rfl
  | @next sent n url next last hstep hrest ih =>
    have hlt := hrest.le
    obtain ⟨rest, rfl⟩ : ∃ rest, allowed = rest + 1 := ⟨allowed - 1, by omega⟩
    have hbound : sent + 1 + rest = sent + (rest + 1) := by omega
    rw [follow_eq, hstep]
    exact ih (hbound ▸ hle) (hbound ▸ hstops)

section

variable {allowed sent : Nat} {url : Url}

/-- Where no other request has the result of one that does not lead on, redirects have it iff a
request of the chain within the bound does. -/
theorem outcome_follow_eq_iff {led : Except LookupFailure (HttpAnswer ⊕ Url)}
    {result : Except LookupFailure HttpAnswer} (hsettled : ∀ x, settled x = result ↔ x = led)
    (hled : ∀ next, led ≠ .ok (.inr next)) :
    (follow server allowed sent url).outcome = result ↔
      ∃ n last, Reaches server sent url n last ∧ n ≤ sent + allowed ∧ step server n last = led := by
  constructor
  · intro h
    obtain ⟨n, last, hend⟩ := exists_endsAt server allowed sent url
    rw [outcome_follow_of_endsAt hend, hsettled] at h
    exact ⟨n, last, hend.reaches, hend.le, h⟩
  · rintro ⟨n, last, hreaches, hle, hstep⟩
    have hend : EndsAt server (sent + allowed) sent url n last :=
      ⟨hreaches, hle, fun next hnext => absurd (hstep ▸ hnext) (hled next)⟩
    rw [outcome_follow_of_endsAt hend, hsettled]
    exact hstep

/-- Redirects come to an answer iff a chain within the bound ends in it. -/
theorem outcome_follow_eq_ok_iff {answer : HttpAnswer} :
    (follow server allowed sent url).outcome = .ok answer ↔
      ∃ n last, Reaches server sent url n last ∧ n ≤ sent + allowed ∧
        step server n last = .ok (.inl answer) :=
  outcome_follow_eq_iff (fun _ => settled_eq_ok_iff) (fun _ h => by cases h)

/-- Redirects fail, otherwise than by their number, iff a request of the chain within the bound
does. -/
theorem outcome_follow_eq_error_iff {e : LookupFailure} (he : e ≠ .tooManyRedirects) :
    (follow server allowed sent url).outcome = .error e ↔
      ∃ n last, Reaches server sent url n last ∧ n ≤ sent + allowed ∧
        step server n last = .error e :=
  outcome_follow_eq_iff (fun _ => settled_eq_error_iff he) (fun _ h => by cases h)

end

end BenefitForm.Lookup
