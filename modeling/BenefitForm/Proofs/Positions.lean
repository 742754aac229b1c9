import BenefitForm.Proofs.Outcome

/-!
# Positions in a list

Equal elements of a list are told apart by their positions. `ReadAt` says from which
positions of a list certain results come, in the order of the list; what is said of
positions is then said of every occurrence of an element.

- `ReadAt.append`, `ReadAt.concat`: the same with one more element behind.
- `ReadAt.filter`: the positions of the elements that pass a test.
-/

namespace BenefitForm

/-- Whether results come from the entries at certain positions of a list, in the order of the
list. -/
structure ReadAt {α β : Type} (R : Nat → α → β → Prop) (entries : List α) (positions : List Nat)
    (results : List β) : Prop where
  /-- The positions ascend. -/
  ascending : positions.Pairwise (· < ·)
  /-- Each result is that of the entry at its position. -/
  read : List.Forall₂ (fun i b => ∃ entry, entries[i]? = some entry ∧ R i entry b) positions results

namespace ReadAt

variable {α β : Type} {R : Nat → α → β → Prop} {entries : List α} {positions : List Nat}
  {results : List β}

theorem nil : ReadAt R ([] : List α) [] [] := ⟨.nil, .nil⟩

/-- Each position is one of the list. -/
theorem lt_length (h : ReadAt R entries positions results) {i : Nat} (hi : i ∈ positions) :
    i < entries.length := by
  obtain ⟨b, -, entry, hentry, -⟩ := exists_of_mem_left h.read hi
  exact (List.getElem?_eq_some_iff.mp hentry).1

/-- A further entry stands behind all others. -/
theorem append (h : ReadAt R entries positions results) (entry : α) :
    ReadAt R (entries ++ [entry]) positions results := by
  refine ⟨h.ascending, h.read.imp fun i b hb => ?_⟩
  obtain ⟨found, hfound, hR⟩ := hb
  exact ⟨found, (List.getElem?_append_left (List.getElem?_eq_some_iff.mp hfound).1).trans hfound,
    hR⟩

/-- A further entry with a result has the last position. -/
theorem concat (h : ReadAt R entries positions results) {entry : α} {b : β}
    (hb : R entries.length entry b) :
    ReadAt R (entries ++ [entry]) (positions ++ [entries.length]) (results ++ [b]) := by
  constructor
  · rw [List.pairwise_append]
    refine ⟨h.ascending, List.pairwise_singleton _ _, fun i hi j hj => ?_⟩
    rw [List.mem_singleton.mp hj]
    exact h.lt_length hi
  · refine List.rel_append (h.append entry).read (.cons ⟨entry, ?_, hb⟩ .nil)
    rw [List.getElem?_append_right le_rfl, Nat.sub_self]
    rfl

/-- The elements that pass a test are those of the positions where one stands. -/
theorem filter (xs : List α) (p : α → Bool) :
    ReadAt (fun _ x y => x = y) xs ((xs.zipIdx.filter fun e => p e.1).map (·.2))
      (xs.filter p) := by
  constructor
  · have hall : (xs.zipIdx.map (·.2)).Pairwise (· < ·) := by
      rw [List.zipIdx_map_snd]
      exact List.pairwise_lt_range'
    exact hall.sublist (List.filter_sublist.map _)
  · have hkept : xs.filter p = (xs.zipIdx.filter fun e => p e.1).map (·.1) := by
      conv_lhs => rw [← List.zipIdx_map_fst 0 xs, List.filter_map]
      rfl
    rw [hkept, List.forall₂_map_left_iff, List.forall₂_map_right_iff, List.forall₂_same]
    intro e he
    exact ⟨e.1, List.mem_zipIdx_iff_getElem?.mp (List.mem_filter.mp he).1, rfl⟩

end ReadAt

/-- One more number at some place among those below it. -/
theorem perm_range_succ {is js : List Nat} {n : Nat} (h : (is ++ js).Perm (List.range n)) :
    (is ++ n :: js).Perm (List.range (n + 1)) := by
  have hfront : (is ++ n :: js).Perm (n :: List.range n) := List.perm_middle.trans (h.cons n)
  rw [List.range_succ]
  exact hfront.trans (List.perm_append_singleton n _).symm

end BenefitForm
