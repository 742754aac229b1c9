import BenefitForm.Proofs.Firsts
import BenefitForm.Proofs.ReadBack

/-!
# The key of a proof set

The key of a list of proofs is the JSON list of its proofs in order. A JSON list
of texts without surrogate pairs can be read back (`Json.read_written`), so the key
tells which proofs they are.

- `ProofSet.written_injective`: lists of such texts differ in their written forms.
- `ProofSet.mem_iff_of_key_eq`: lists of such proofs with one key list the same
  proofs.
-/

namespace BenefitForm

theorem Json.ofTexts_injective : Function.Injective ofTexts := by
  intro ss ts h
  exact List.map_injective_iff.mpr (fun _ _ he => Json.string.inj he) (Json.array.inj h)

namespace ProofSet

/-- Lists of texts without pairs differ in their written forms. -/
theorem written_injective {ss ts : List Text} (hs : ∀ r ∈ ss, r.Unpaired)
    (ht : ∀ r ∈ ts, r.Unpaired) (h : written ss = written ts) : ss = ts := by
  have hread : Except.ok (Json.ofTexts ss) = Except.ok (Json.ofTexts ts) :=
    (Json.read_written hs).symm.trans (h ▸ Json.read_written ht)
  exact Json.ofTexts_injective (Except.ok.inj hread)

/-- Lists of proofs with one key list the same proofs. -/
theorem mem_iff_of_key_eq {ps qs : List ProofType} (hp : ∀ p ∈ ps, p.Unpaired)
    (hq : ∀ q ∈ qs, q.Unpaired) (h : key ps = key qs) (proof : ProofType) :
    proof ∈ ps ↔ proof ∈ qs := by
  have hmem : ∀ {rs : List ProofType} {r : ProofType},
      r ∈ (distinct rs).mergeSort Text.le ↔ r ∈ rs := by
    intro rs r
    rw [List.mem_mergeSort, mem_distinct]
  have hsorted : (distinct ps).mergeSort Text.le = (distinct qs).mergeSort Text.le :=
    written_injective (fun r hr => hp r (hmem.mp hr)) (fun r hr => hq r (hmem.mp hr)) h
  calc proof ∈ ps ↔ proof ∈ (distinct ps).mergeSort Text.le := hmem.symm
    _ ↔ proof ∈ (distinct qs).mergeSort Text.le := by rw [hsorted]
    _ ↔ proof ∈ qs := hmem

end ProofSet

end BenefitForm
