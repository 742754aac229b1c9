import Mathlib
import BenefitForm.Text

/-!
# The order of texts

Texts are in order where the numbers of their code points are, so their order is a
linear one and sorted lists of the same texts are equal.

- `Text.le_iff`: texts are in order iff the numbers of their code points are.
- `Text.mergeSort_eq_of_perm`: what sorting makes of a list depends on its texts alone.
-/

namespace BenefitForm

theorem CodePoint.val_injective : Function.Injective CodePoint.val := by
  rintro ⟨m, hm⟩ ⟨n, hn⟩ h
  cases h
  rfl

namespace Text

/-- A text comes before another iff the numbers of its code points do. -/
theorem lt_iff_map_val {s t : Text} : s < t ↔ s.map CodePoint.val < t.map CodePoint.val := by
  induction s generalizing t with
  | nil => cases t <;> simp
  | cons c s ih =>
    cases t with
    | nil => simp
    | cons d t =>
      rw [List.map_cons, List.map_cons, List.cons_lt_cons_iff, List.cons_lt_cons_iff, ih,
        CodePoint.val_injective.eq_iff]
      rfl

theorem le_iff {s t : Text} : s.le t = true ↔ s.map CodePoint.val ≤ t.map CodePoint.val := by
  rw [le, decide_eq_true_iff, ← not_lt, ← lt_iff_map_val]
  rfl

theorem le_trans {s t u : Text} (h : s.le t = true) (h' : t.le u = true) : s.le u = true :=
  le_iff.mpr ((le_iff.mp h).trans (le_iff.mp h'))

theorem le_total (s t : Text) : (s.le t || t.le s) = true := by
  rw [Bool.or_eq_true, le_iff, le_iff]
  exact LinearOrder.le_total _ _

theorem le_antisymm {s t : Text} (h : s.le t = true) (h' : t.le s = true) : s = t :=
  CodePoint.val_injective.list_map ((le_iff.mp h).antisymm (le_iff.mp h'))

/-- Lists of the same texts are equal once they are sorted. -/
theorem mergeSort_eq_of_perm {ss ts : List Text} (h : ss.Perm ts) :
    ss.mergeSort le = ts.mergeSort le := by
  have hsorted : ∀ us : List Text, (us.mergeSort le).Pairwise fun s t => s.le t = true :=
    List.pairwise_mergeSort (fun _ _ _ => le_trans) le_total
  have hperm : (ss.mergeSort le).Perm (ts.mergeSort le) :=
    (List.mergeSort_perm ss le).trans (h.trans (List.mergeSort_perm ts le).symm)
  exact hperm.eq_of_pairwise (fun _ _ _ _ => le_antisymm) (hsorted ss) (hsorted ts)

end Text

end BenefitForm
