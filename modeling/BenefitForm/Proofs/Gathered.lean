import BenefitForm.Proofs.Firsts

/-!
# Elements gathered by their keys

`gathered key xs` has the elements of a list key by key: the keys in order of first
appearance, and the elements of each key in the order of the list. A search in it and a
search in the list itself may end at different elements.

- `pairwise_startOf_firstsBy`: the firsts of the keys are in the order of their positions.
- `firstGathered_of_find?`: what a search in the gathered elements ends at
  (`FirstGathered`), and `FirstGathered.unique`: there is one such element at most.
- `FirstGathered.eq_iff`: when it is the element that a search in the list ends at.
-/

namespace BenefitForm

variable {α κ : Type} [BEq κ]

/-- The elements of a list, key by key. -/
def gathered (key : α → κ) (xs : List α) : List α :=
  (firstsBy key xs).flatMap fun x => xs.filter fun y => key y == key x

/-- The position of the first element with a key. -/
def startOf (key : α → κ) (xs : List α) (k : κ) : Nat := xs.findIdx fun x => key x == k

/-- The element is the first of its key that passes a test, and no key that starts earlier has an
element that passes it. -/
structure FirstGathered (key : α → κ) (test : α → Bool) (xs : List α) (r : α) : Prop where
  first : (xs.filter fun x => key x == key r).find? test = some r
  earliest : ∀ x ∈ xs, test x = true → startOf key xs (key r) ≤ startOf key xs (key x)

variable {key : α → κ} {test : α → Bool} {xs : List α} {r x : α}

theorem FirstGathered.mem (h : FirstGathered key test xs r) : r ∈ xs :=
  (List.mem_filter.mp (List.mem_of_find?_eq_some h.first)).1

theorem FirstGathered.test_eq (h : FirstGathered key test xs r) : test r = true :=
  List.find?_some h.first

variable [LawfulBEq κ]

/-! ### Where the keys start -/

theorem startOf_cons_self (key : α → κ) (x : α) (xs : List α) :
    startOf key (x :: xs) (key x) = 0 := by
  rw [startOf, List.findIdx_cons, beq_self_eq_true, cond_true]

theorem startOf_cons_of_ne {k : κ} (h : key x ≠ k) (xs : List α) :
    startOf key (x :: xs) k = startOf key xs k + 1 := by
  rw [startOf, List.findIdx_cons, beq_eq_false_iff_ne.mpr h, cond_false, startOf]

/-- Keys that start at one place are one key. -/
theorem key_eq_of_startOf_eq {y : α} (hx : x ∈ xs) (hy : y ∈ xs)
    (h : startOf key xs (key x) = startOf key xs (key y)) : key x = key y := by
  have hlt : ∀ z ∈ xs, startOf key xs (key z) < xs.length := fun z hz =>
    List.findIdx_lt_length_of_exists ⟨z, hz, beq_self_eq_true (key z)⟩
  have hat : ∀ z, (hz : z ∈ xs) → key (xs.get ⟨startOf key xs (key z), hlt z hz⟩) = key z :=
    fun z hz => beq_iff_eq.mp (List.findIdx_getElem (p := fun x => key x == key z))
  rw [← hat x hx, ← hat y hy]
  simp only [h]

/-- The firsts of the keys are in order. -/
theorem pairwise_startOf_firstsBy (key : α → κ) (xs : List α) :
    (firstsBy key xs).Pairwise fun x y => startOf key xs (key x) < startOf key xs (key y) := by
  induction xs with
  | nil => exact .nil
  | cons x xs ih =>
    rw [firstsBy_cons, List.pairwise_cons]
    have hne : ∀ y ∈ (firstsBy key xs).filter fun y => key y != key x, key x ≠ key y :=
      fun y hy => (bne_iff_ne.mp (List.mem_filter.mp hy).2).symm
    constructor
    · intro y hy
      rw [startOf_cons_self, startOf_cons_of_ne (hne y hy)]
      exact Nat.zero_lt_succ _
    · refine (ih.sublist List.filter_sublist).imp_of_mem fun {y z} hy hz hlt => ?_
      rw [startOf_cons_of_ne (hne y hy), startOf_cons_of_ne (hne z hz)]
      exact Nat.succ_lt_succ hlt

/-! ### Searches -/

theorem mem_gathered : x ∈ gathered key xs ↔ x ∈ xs :=
  (flatMap_firstsBy_perm key xs).mem_iff

/-- What a search in the gathered elements ends at. -/
theorem firstGathered_of_find? (h : (gathered key xs).find? test = some r) :
    FirstGathered key test xs r := by
  rw [gathered, List.find?_flatMap] at h
  obtain ⟨before, x, after, hsplit, hfound, hbefore⟩ := List.findSome?_eq_some_iff.mp h
  have hkey : key r = key x := by
    simpa using (List.mem_filter.mp (List.mem_of_find?_eq_some hfound)).2
  rw [← hkey] at hfound
  refine ⟨hfound, fun y hy htest => ?_⟩
  -- the first with the key of `y` is `x` or stands after it
  obtain ⟨z, hz, hzy⟩ := List.mem_map.mp ((mem_map_firstsBy key).mpr (List.mem_map_of_mem hy))
  have hordered := pairwise_startOf_firstsBy key xs
  rw [hsplit] at hz hordered
  rw [← hzy, hkey]
  rcases List.mem_append.mp hz with hz | hz
  · have hnone := List.find?_eq_none.mp (hbefore z hz) y
      (List.mem_filter.mpr ⟨hy, beq_iff_eq.mpr hzy.symm⟩)
    exact absurd htest hnone
  · rcases List.mem_cons.mp hz with rfl | hz
    · exact Nat.le_refl _
    · exact Nat.le_of_lt (List.rel_of_pairwise_cons (List.pairwise_append.mp hordered).2.1 hz)

/-- There is one such element at most. -/
theorem FirstGathered.unique (h : FirstGathered key test xs r) (hx : FirstGathered key test xs x) :
    r = x := by
  have hstart : startOf key xs (key r) = startOf key xs (key x) :=
    Nat.le_antisymm (h.earliest x hx.mem hx.test_eq) (hx.earliest r h.mem h.test_eq)
  have hfound := h.first
  rw [key_eq_of_startOf_eq h.mem hx.mem hstart, hx.first] at hfound
  exact (Option.some.inj hfound).symm

/-- A search in the list ends at the same element iff no key that starts earlier has an element
that passes the test. -/
theorem FirstGathered.eq_iff (h : FirstGathered key test xs r) (hx : xs.find? test = some x) :
    r = x ↔ ∀ y ∈ xs, test y = true → startOf key xs (key x) ≤ startOf key xs (key y) := by
  constructor
  · rintro rfl
    exact h.earliest
  · intro hearliest
    refine h.unique ⟨?_, hearliest⟩
    obtain ⟨htest, before, after, rfl, hbefore⟩ := List.find?_eq_some_iff_append.mp hx
    refine List.find?_eq_some_iff_append.mpr ⟨htest, before.filter fun y => key y == key x,
      after.filter fun y => key y == key x, ?_, fun y hy => hbefore y (List.mem_filter.mp hy).1⟩
    have hself : (key x == key x) = true := beq_self_eq_true (key x)
    rw [List.filter_append, List.filter_cons, if_pos hself]

end BenefitForm
