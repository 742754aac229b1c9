import BenefitForm.Catalog
import BenefitForm.Proofs.JsonPath
import BenefitForm.Proofs.Outcome

/-!
# The item of a catalog answer

An answer is about the benefit at the end of one path (`Catalog.itemPath`). The path is
followed level by level, and each level may be of any kind.

- `Catalog.item_eq_ok_iff`: the item is found iff the path leads to an object.
- `Catalog.item_refuses`: nothing but a refusal comes of any other answer.
-/

namespace BenefitForm

/-- The step to the member of a literal key. -/
def PathStep.key (s : String) : PathStep := .member (Text.ofString s)

namespace Catalog

/-- The path of the item in an answer. -/
def itemPath : List PathStep :=
  [.key "responses", .item 0, .key "message", .key "catalog", .key "providers", .item 0,
    .key "items", .item 0]

/-- The path level by level. -/
theorem at?_itemPath (response : Json) :
    Json.at? itemPath response = (Json.at? [.key "responses", .item 0] response).bind fun answer =>
      (Json.at? [.key "message", .key "catalog"] answer).bind fun catalog =>
        (Json.at? [.key "providers", .item 0] catalog).bind
          (Json.at? [.key "items", .item 0]) := by
  refine (Json.at?_append [.key "responses", .item 0] _ response).trans
    (congrArg _ (funext fun answer => ?_))
  refine (Json.at?_append [.key "message", .key "catalog"] _ answer).trans
    (congrArg _ (funext fun catalog => ?_))
  exact Json.at?_append [.key "providers", .item 0] [.key "items", .item 0] catalog

/-! ### Single levels -/

theorem first_eq_ok_iff {v x : Json} {what : String} :
    first v what = .ok x ↔ Json.step? (.item 0) v = some x := by
  cases v with
  | array items => cases items <;> simp [first, refuse, Json.step?]
  | _ => simp [first, refuse, Json.step?]

theorem first_member_eq_ok_iff {members : Members} {key what : String} {x : Json} :
    first (Json.member members key) what = .ok x
      ↔ Json.at? [.key key, .item 0] (.object members) = some x := by
  rw [first_eq_ok_iff, Json.member]
  show _ ↔ (Members.get? members (Text.ofString key)).bind (Json.at? [.item 0]) = some x
  cases Members.get? members (Text.ofString key) with
  | none => simp [Json.step?]
  | some v => simp [Json.at?]

theorem asObject?_eq_some_iff {v : Json} {members : Members} :
    v.asObject? = some members ↔ v = .object members := by
  cases v <;> simp [Json.asObject?]

/-- A member that is missing is no object, as one of another kind. -/
theorem asObject?_member (members : Members) (key : String) :
    (Json.member members key).asObject?
      = (Members.get? members (Text.ofString key)).bind Json.asObject? := by
  rw [Json.member]
  cases Members.get? members (Text.ofString key) <;> rfl

theorem catalogOf_eq_ok_iff {answer : Json} {catalog : Members} :
    catalogOf answer = .ok catalog
      ↔ Json.at? [.key "message", .key "catalog"] answer = some (.object catalog) := by
  have hlevels : (answer.asObject?.bind fun a => (Json.member a "message").asObject?.bind fun m =>
      (Json.member m "catalog").asObject?)
        = (Json.at? [.key "message", .key "catalog"] answer).bind Json.asObject? := by
    cases answer with
    | object a =>
      rw [Json.asObject?, Option.bind_some, asObject?_member]
      show _ = ((Members.get? a (Text.ofString "message")).bind (Json.at? [.key "catalog"])).bind _
      rcases Members.get? a (Text.ofString "message") with _ | v
      · rfl
      · cases v with
        | object m =>
          show (Json.member m "catalog").asObject?
            = ((Members.get? m (Text.ofString "catalog")).bind some).bind Json.asObject?
          rw [asObject?_member, Option.bind_fun_some]
        | _ => rfl
    | _ => rfl
  rw [catalogOf]
  simp only [Option.bind_eq_bind, hlevels]
  cases hat : Json.at? [.key "message", .key "catalog"] answer with
  | none => simp [refuse]
  | some v => cases v <;> simp [refuse, Json.asObject?]

/-! ### The whole path -/

/-- The item is found iff the path leads to an object. -/
theorem item_eq_ok_iff {response : Json} {i : Members} :
    item response = .ok i ↔ Json.at? itemPath response = some (.object i) := by
  cases response with
  | object members =>
    rw [item, at?_itemPath, bind_eq_ok_iff, Option.bind_eq_some_iff]
    refine exists_congr fun answer => and_congr first_member_eq_ok_iff ?_
    rw [bind_eq_ok_iff, Option.bind_eq_some_iff]
    constructor
    · rintro ⟨catalog, hcatalog, h⟩
      refine ⟨.object catalog, catalogOf_eq_ok_iff.mp hcatalog, ?_⟩
      obtain ⟨provider, hprovider, h⟩ := bind_eq_ok_iff.mp h
      rw [first_member_eq_ok_iff.mp hprovider, Option.bind_some]
      cases provider with
      | object p =>
        obtain ⟨v, hv, h⟩ := bind_eq_ok_iff.mp h
        rw [first_member_eq_ok_iff.mp hv]
        cases v <;> cases h
        rfl
      | _ => cases h
    · rintro ⟨c, hcatalog, h⟩
      rw [Option.bind_eq_some_iff] at h
      obtain ⟨provider, hprovider, h⟩ := h
      -- the rest of the path leads through objects
      cases c with
      | object catalog =>
        refine ⟨catalog, catalogOf_eq_ok_iff.mpr hcatalog, ?_⟩
        rw [first_member_eq_ok_iff.mpr hprovider, ok_bind]
        cases provider with
        | object p => exact bind_eq_ok_iff.mpr ⟨_, first_member_eq_ok_iff.mpr h, rfl⟩
        | _ => cases h
      | _ => cases hprovider
  | _ => exact iff_of_false (by rintro ⟨⟩) (by rintro ⟨⟩)

/-- The step fails, if it does, because the answer is refused. -/
def Refuses {α : Type} (x : Except Failure α) : Prop := ∀ e, x = .error e → ∃ m, e = .catalogParse m

theorem Refuses.bind {α β : Type} {x : Except Failure α} {f : α → Except Failure β}
    (hx : Refuses x) (hf : ∀ a, Refuses (f a)) : Refuses (x >>= f) := by
  intro e h
  rcases bind_eq_error_iff.mp h with h | ⟨a, -, h⟩
  · exact hx e h
  · exact hf a e h

theorem refuses_refuse {α : Type} (reason : String) :
    Refuses (refuse reason : Except Failure α) := by
  rintro _ ⟨⟩
  exact ⟨_, rfl⟩

theorem refuses_pure {α : Type} (a : α) : Refuses (pure a : Except Failure α) := by
  rintro _ ⟨⟩

theorem refuses_first (v : Json) (what : String) : Refuses (first v what) := by
  unfold first
  split
  · exact refuses_pure _
  · exact refuses_refuse _

theorem refuses_catalogOf (answer : Json) : Refuses (catalogOf answer) := by
  simp only [catalogOf]
  split
  · exact refuses_pure _
  · exact refuses_refuse _

/-- Nothing but a refusal comes of an answer without the item. -/
theorem item_refuses (response : Json) : Refuses (item response) := by
  cases response with
  | object members =>
    rw [item]
    refine (refuses_first _ _).bind fun answer => (refuses_catalogOf answer).bind fun catalog =>
      (refuses_first _ _).bind fun provider => ?_
    cases provider with
    | object p =>
      refine (refuses_first _ _).bind fun v => ?_
      cases v with
      | object i => exact refuses_pure i
      | _ => exact refuses_refuse _
    | _ => exact refuses_refuse _
  | _ => exact refuses_refuse _

end Catalog

end BenefitForm
