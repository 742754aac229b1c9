import BenefitForm.Proofs.RuleField
import BenefitForm.Proofs.TextOrder

/-!
# Proof sets in order

Two lists with the same proofs differ, once repeats are left out, in their order
only. The key of a proof set sorts them, and the order of texts is a linear one, so
the keys of the two lists are equal. That lists with equal keys have the same proofs
is the harder half, and needs more of the proofs (`ProofSet.mem_iff_of_key_eq`).

- `ProofSet.key_eq_of_toFinset_eq`: equal sets have equal keys.
-/

namespace BenefitForm

namespace ProofSet

/-- Lists of the same proofs have the same proofs once each, in some order. -/
theorem distinct_perm {ps qs : List ProofType} (h : ps.toFinset = qs.toFinset) :
    (distinct ps).Perm (distinct qs) := by
  refine List.perm_of_nodup_nodup_toFinset_eq (nodup_distinct ps) (nodup_distinct qs) ?_
  rw [toFinset_distinct, toFinset_distinct, h]

/-- Equal sets of proofs have equal keys. -/
theorem key_eq_of_toFinset_eq {ps qs : List ProofType} (h : ps.toFinset = qs.toFinset) :
    key ps = key qs := by
  rw [key, key, Text.mergeSort_eq_of_perm (distinct_perm h)]

end ProofSet

end BenefitForm
