import BenefitForm.Json
import BenefitForm.Proofs.Members

/-!
# Places in a JSON value

A path goes from a value to a member of an object or to an item of a list, step by step.
`Json.at?` is the value at the end of a path; `Json.alterAt` changes it and nothing
else.

- `Json.at?_append`: a path may be followed in two parts.
- `Json.at?_alterAt`: what is found where a value was changed.
- `Json.at?_alterAt_of_ne`: what is found elsewhere.
-/

namespace BenefitForm

namespace Members

variable {κ α : Type} [BEq κ]

/-- Change the value of a key. -/
def alter (members : List (κ × α)) (k : κ) (f : α → α) : List (κ × α) :=
  members.map fun m => if m.1 == k then (m.1, f m.2) else m

variable [LawfulBEq κ]

theorem get?_alter_self (members : List (κ × α)) (k : κ) (f : α → α) :
    get? (alter members k f) k = (get? members k).map f := by
  induction members with
  | nil => rfl
  | cons m ms ih =>
    rw [alter, List.map_cons, ← alter, get?_cons, get?_cons, ih]
    by_cases hk : m.1 = k
    · simp [hk]
    · have hm : (if m.1 == k then (m.1, f m.2) else m) = m := if_neg (by simpa using hk)
      rw [hm, if_neg (by simpa using Ne.symm hk), if_neg (by simpa using Ne.symm hk)]

theorem get?_alter_of_ne (members : List (κ × α)) {k l : κ} (h : k ≠ l) (f : α → α) :
    get? (alter members k f) l = get? members l := by
  induction members with
  | nil => rfl
  | cons m ms ih =>
    rw [alter, List.map_cons, ← alter, get?_cons, get?_cons, ih]
    by_cases hk : m.1 = k
    · simp [hk, Ne.symm h]
    · have hm : (if m.1 == k then (m.1, f m.2) else m) = m := if_neg (by simpa using hk)
      rw [hm]

end Members

/-- A step of a path: to a member of an object, or to an item of a list. -/
inductive PathStep where
  | member (key : Text)
  | item (index : Nat)
deriving DecidableEq

namespace Json

/-- The value that a step leads to. -/
def step? : PathStep → Json → Option Json
  | .member key, .object members => Members.get? members key
  | .item index, .array items => items[index]?
  | _, _ => none

/-- The value at the end of a path. -/
def at? : List PathStep → Json → Option Json
  | [], v => some v
  | s :: path, v => (step? s v).bind (at? path)

theorem at?_cons (s : PathStep) (path : List PathStep) (v : Json) :
    at? (s :: path) v = (step? s v).bind (at? path) := rfl

/-- Change the value that a step leads to. -/
def alterStep (f : Json → Json) : PathStep → Json → Json
  | .member key, .object members => .object (Members.alter members key f)
  | .item index, .array items => .array (items.modify index f)
  | _, v => v

/-- Change the value at the end of a path. -/
def alterAt (f : Json → Json) : List PathStep → Json → Json
  | [], v => f v
  | s :: path, v => alterStep (alterAt f path) s v

theorem alterAt_cons (f : Json → Json) (s : PathStep) (path : List PathStep) (v : Json) :
    alterAt f (s :: path) v = alterStep (alterAt f path) s v := rfl

theorem step?_alterStep_self (f : Json → Json) (s : PathStep) (v : Json) :
    step? s (alterStep f s v) = (step? s v).map f := by
  cases s with
  | member key =>
    cases v with
    | object members => exact Members.get?_alter_self members key f
    | _ => rfl
  | item index =>
    cases v with
    | array items => simp [alterStep, step?]
    | _ => rfl

/-- A change at one step is not seen by another. -/
theorem step?_alterStep_of_ne (f : Json → Json) {s s' : PathStep} (h : s ≠ s') (v : Json) :
    step? s' (alterStep f s v) = step? s' v := by
  cases s with
  | member key =>
    cases v with
    | object members =>
      cases s' with
      | member key' => exact Members.get?_alter_of_ne members (fun e => h (congrArg _ e)) f
      | item index' => rfl
    | _ => rfl
  | item index =>
    cases v with
    | array items =>
      cases s' with
      | member key' => rfl
      | item index' =>
        have hne : index ≠ index' := fun e => h (congrArg _ e)
        simp [alterStep, step?, hne]
    | _ => rfl

theorem at?_append (path path' : List PathStep) (v : Json) :
    at? (path ++ path') v = (at? path v).bind (at? path') := by
  induction path generalizing v with
  | nil => rfl
  | cons s path ih =>
    rw [List.cons_append, at?_cons, at?_cons, Option.bind_assoc]
    exact congrArg _ (funext ih)

/-- Where a value was changed the changed one is found. -/
theorem at?_alterAt (f : Json → Json) (path : List PathStep) (v : Json) :
    at? path (alterAt f path v) = (at? path v).map f := by
  induction path generalizing v with
  | nil => rfl
  | cons s path ih =>
    rw [alterAt_cons, at?_cons, at?_cons, step?_alterStep_self, Option.bind_map, Option.map_bind]
    exact congrArg _ (funext ih)

theorem alterAt_append (f : Json → Json) (path path' : List PathStep) (v : Json) :
    alterAt f (path ++ path') v = alterAt (alterAt f path') path v := by
  induction path generalizing v with
  | nil => rfl
  | cons s path ih =>
    rw [List.cons_append, alterAt_cons, alterAt_cons]
    exact congrArg (alterStep · s v) (funext ih)

/-- A change at the end of one path is not seen at the end of another that parts from it. -/
theorem at?_alterAt_of_ne (f : Json → Json) {s s' : PathStep} (h : s ≠ s')
    (path rest rest' : List PathStep) (v : Json) :
    at? (path ++ s' :: rest') (alterAt f (path ++ s :: rest) v) = at? (path ++ s' :: rest') v := by
  -- both paths lead to one value first, and part there
  rw [alterAt_append, at?_append, at?_alterAt, at?_append, Option.bind_map]
  refine congrArg _ (funext fun w => ?_)
  show (step? s' (alterStep (alterAt f rest) s w)).bind (at? rest') = (step? s' w).bind (at? rest')
  rw [step?_alterStep_of_ne _ h]

end Json

end BenefitForm
