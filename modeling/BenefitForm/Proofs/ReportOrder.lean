import BenefitForm.Proofs.Outcome
import BenefitForm.Proofs.TextOrder
import BenefitForm.Validation

/-!
# The order of reports

Reports are sorted by their place and reports of one place by their message. Both are
texts, so this is the order of pairs of texts: it is total and transitive, and two
reports that come before each other have the same place and the same message. They
need not be the same report, since different paths may be written alike.

- `Report.le_iff`: when a report comes before another.
- `sortedReports_eq_ok_iff`: the sorted reports of a value are its findings in words,
  in order.
-/

namespace BenefitForm

namespace Report

variable {a b c : Report}

/-- A report comes before another iff its place does, or its message does at the same place. -/
theorem le_iff : a.le b = true ↔
    a.place ≠ b.place ∧ Text.le a.place b.place = true ∨
      a.place = b.place ∧ Text.le a.message b.message = true := by
  rw [le]
  split <;> simp [*]

/-- The place of a report that comes before another is not after that of the other. -/
theorem place_le (h : a.le b = true) : Text.le a.place b.place = true := by
  rcases le_iff.mp h with ⟨-, hplace⟩ | ⟨hplace, -⟩
  · exact hplace
  · rw [hplace]
    exact (Bool.or_self _).symm.trans (Text.le_total _ _)

theorem message_le (h : a.le b = true) (hplace : a.place = b.place) :
    Text.le a.message b.message = true := by
  rcases le_iff.mp h with ⟨hne, -⟩ | ⟨-, hmessage⟩
  · exact absurd hplace hne
  · exact hmessage

theorem le_trans (h : a.le b = true) (h' : b.le c = true) : a.le c = true := by
  have hplaces : Text.le a.place c.place = true := Text.le_trans (place_le h) (place_le h')
  by_cases hplace : a.place = c.place
  · -- what lies between two reports of one place is of that place too
    have hb : a.place = b.place :=
      Text.le_antisymm (place_le h) (hplace ▸ place_le h')
    exact le_iff.mpr (.inr ⟨hplace,
      Text.le_trans (message_le h hb) (message_le h' (hb.symm.trans hplace))⟩)
  · exact le_iff.mpr (.inl ⟨hplace, hplaces⟩)

theorem le_total (a b : Report) : (a.le b || b.le a) = true := by
  rw [Bool.or_eq_true]
  by_cases hplace : a.place = b.place
  · rcases Bool.or_eq_true_iff.mp (Text.le_total a.message b.message) with h | h
    · exact .inl (le_iff.mpr (.inr ⟨hplace, h⟩))
    · exact .inr (le_iff.mpr (.inr ⟨hplace.symm, h⟩))
  · rcases Bool.or_eq_true_iff.mp (Text.le_total a.place b.place) with h | h
    · exact .inl (le_iff.mpr (.inl ⟨hplace, h⟩))
    · exact .inr (le_iff.mpr (.inl ⟨Ne.symm hplace, h⟩))

/-- Reports that come before each other have one place and one message. -/
theorem eq_of_le_of_le (h : a.le b = true) (h' : b.le a = true) :
    a.place = b.place ∧ a.message = b.message := by
  have hplace : a.place = b.place := Text.le_antisymm (place_le h) (place_le h')
  exact ⟨hplace, Text.le_antisymm (message_le h hplace) (message_le h' hplace.symm)⟩

theorem pairwise_mergeSort (reports : List Report) :
    (reports.mergeSort le).Pairwise fun a b => a.le b = true := by
  have htrans : ∀ a b c : Report, a.le b = true → b.le c = true → a.le c = true :=
    fun _ _ _ => le_trans
  exact List.pairwise_mergeSort htrans le_total reports

end Report

/-- Reports are the sorted ones of a value iff they are what sorting makes of its findings in
words. -/
theorem sortedReports_eq_ok_iff {schema : Json} {s : Subject} {sorted : List Report} :
    sortedReports schema s = .ok sorted ↔
      ∃ reports, List.Forall₂ (fun f r => Report.ofFinding f = .ok r) (schema.findings s) reports ∧
        reports.mergeSort Report.le = sorted := by
  simp only [sortedReports, bind_eq_ok_iff, mapM_eq_ok_iff, pure_eq_ok, Except.ok.injEq]

end BenefitForm
