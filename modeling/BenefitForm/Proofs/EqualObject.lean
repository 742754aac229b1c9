import BenefitForm.Proofs.Members

/-!
# Equal objects

Objects are equal where they have equally many members and each member of the one has
an equal one of the same key in the other. Where no key comes twice this is as good as
the same from the other side: the keys are the same up to their order, and under each
key both have equal values or none.

- `Json.rel_get?_of_equal`: what equal objects have under a key.
- `Json.perm_keys_of_equal`: the keys of equal objects.
- `Json.eq_of_rel_map`: values of one kind that are equal are the same.
-/

namespace BenefitForm

namespace Json

variable {strict : Bool}

/-- Each member of the one object has an equal one in the other. -/
theorem equalMembers_iff {ms ns : Members} :
    equalMembers strict ms ns = true ↔
      ∀ m ∈ ms, ∃ w, Members.get? ns m.1 = some w ∧ equalBy strict m.2 w = true := by
  induction ms with
  | nil => exact iff_of_true rfl (List.forall_mem_nil _)
  | cons m ms ih =>
    obtain ⟨k, v⟩ := m
    rw [List.forall_mem_cons, ← ih]
    refine Bool.and_eq_true_iff.trans (and_congr_left fun _ => ?_)
    cases Members.get? ns k <;> simp

/-- Equal objects have equally many members, and each of the one has an equal one in the other. -/
theorem equalBy_object_iff {ms ns : Members} :
    equalBy strict (.object ms) (.object ns) = true ↔ ms.length = ns.length ∧
      ∀ m ∈ ms, ∃ w, Members.get? ns m.1 = some w ∧ equalBy strict m.2 w = true := by
  rw [← equalMembers_iff, ← beq_iff_eq (a := ms.length)]
  exact Bool.and_eq_true_iff

section Objects

variable {ms ns : Members} (hms : (Members.keys ms).Nodup)
  (h : equalBy strict (.object ms) (.object ns) = true)

include hms h

/-- Equal objects have the same keys. -/
theorem perm_keys_of_equal : (Members.keys ms).Perm (Members.keys ns) := by
  obtain ⟨hlength, hmembers⟩ := equalBy_object_iff.mp h
  have hsubset : Members.keys ms ⊆ Members.keys ns := by
    intro k hk
    obtain ⟨m, hm, rfl⟩ := List.mem_map.mp hk
    obtain ⟨w, hw, -⟩ := hmembers m hm
    exact List.mem_map.mpr ⟨(m.1, w), Members.mem_of_get? hw, rfl⟩
  -- different keys among no more keys are all of them
  refine (List.subperm_of_subset hms hsubset).perm_of_length_le ?_
  rw [Members.keys, Members.keys, List.length_map, List.length_map, hlength]

/-- Under each key equal objects have equal values, or none. -/
theorem rel_get?_of_equal (k : Text) :
    Option.Rel (fun v w => equalBy strict v w = true) (Members.get? ms k)
      (Members.get? ns k) := by
  have hkeys := perm_keys_of_equal hms h
  obtain ⟨-, hmembers⟩ := equalBy_object_iff.mp h
  cases hv : Members.get? ms k with
  | some v =>
    obtain ⟨w, hw, hequal⟩ := hmembers _ (Members.mem_of_get? hv)
    rw [hw]
    exact .some hequal
  | none =>
    -- the other object has the same keys, so it does not have this one either
    have habsent : Members.get? ns k = none :=
      Members.get?_eq_none_iff.mpr fun hk =>
        Members.get?_eq_none_iff.mp hv (hkeys.mem_iff.mpr hk)
    rw [habsent]
    exact .none

end Objects

/-! ### Values of one kind -/

theorem eq_of_equal_string {s t : Text} (h : equalBy strict (.string s) (.string t) = true) :
    s = t :=
  beq_iff_eq.mp h

theorem eq_of_equal_int {m n : Int} (h : equalBy strict (.int m) (.int n) = true) : m = n := by
  have hcompare : (some (compare m n) == some Ordering.eq) = true := h
  exact compare_eq_iff_eq.mp (Option.some.inj (beq_iff_eq.mp hcompare))

theorem eq_of_equalItems_strings {ss ts : List Text}
    (h : equalItems strict (ss.map .string) (ts.map .string) = true) : ss = ts := by
  induction ss generalizing ts with
  | nil =>
    cases ts with
    | nil => rfl
    | cons t ts => cases h
  | cons s ss ih =>
    cases ts with
    | nil => cases h
    | cons t ts =>
      obtain ⟨hst, hrest⟩ := Bool.and_eq_true_iff.mp h
      rw [eq_of_equal_string hst, ih hrest]

theorem eq_of_equal_ofTexts {ss ts : List Text}
    (h : equalBy strict (ofTexts ss) (ofTexts ts) = true) : ss = ts :=
  eq_of_equalItems_strings h

/-- What is written as equal values, where equal values are written for the same alone, is the
same. -/
theorem eq_of_rel_map {α : Type} {f : α → Json}
    (hf : ∀ {a b : α}, equalBy strict (f a) (f b) = true → a = b) {x y : Option α}
    (h : Option.Rel (fun v w => equalBy strict v w = true) (x.map f) (y.map f)) :
    x = y := by
  cases x with
  | none =>
    cases y with
    | none => rfl
    | some b => cases h
  | some a =>
    cases y with
    | none => cases h
    | some b =>
      cases h with
      | some hequal => rw [hf hequal]

end Json

end BenefitForm
