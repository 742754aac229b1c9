import BenefitForm.Command
import BenefitForm.Proofs.Reader

/-!
# What the sources of the command hold

The command decodes its sources as strict UTF-8, which has no form for a
surrogate: after the byte `ED` a continuation byte from `A0` on is an error. The
text of a source has none, so the value that is read from it is readable.

- `Utf8.plain_decode`: strictly decoded bytes give a text without surrogates.
- `Command.isReadable_of_decodeSource`: the value of every source is readable.
-/

namespace BenefitForm

/-! ### Strict UTF-8 -/

namespace Utf8

theorem isContinuation_iff {b : UInt8} :
    isContinuation b = true ↔ 0x80 ≤ b.toNat ∧ b.toNat < 0xC0 := by
  simp [isContinuation, UInt8.le_iff_toNat_le, UInt8.lt_iff_toNat_lt]

/-- Bytes decoded strictly after a text without surrogates give such a text. -/
theorem plain_decodeFrom {s : Bool} (hs : s = false) {pos : Nat} {acc : Text} {bytes : List UInt8}
    (hacc : acc.Plain) {t : Text} (h : decodeFrom s pos acc bytes = .ok t) : t.Plain := by
  -- of the cases those that read a code point matter: one for each length of its encoding
  fun_induction decodeFrom s pos acc bytes
  case case1 =>
    cases h
    exact hacc.of_subset (List.reverse_subset.mpr (List.Subset.refl _))
  case case2 a _ ha ih =>
    refine ih (.cons (CodePoint.isSurrogate_ofNat ?_) hacc) h
    simp only [UInt8.lt_iff_toNat_lt, UInt8.reduceToNat] at ha
    omega
  case case5 a _ _ ha b _ hb ih =>
    refine ih (.cons (CodePoint.isSurrogate_ofNat ?_) hacc) h
    simp only [UInt8.lt_iff_toNat_lt, UInt8.reduceToNat] at ha
    rw [isContinuation_iff] at hb
    simp only [List.foldl_cons, List.foldl_nil]
    omega
  case case11 a _ _ _ ha b surrogate hab c _ hc ih =>
    refine ih (.cons (CodePoint.isSurrogate_ofNat ?_) hacc) h
    subst hs
    simp only [surrogate, Bool.not_false, Bool.and_true, Bool.or_eq_true, not_or,
      Bool.not_eq_true', Bool.and_eq_true, decide_eq_true_iff, UInt8.lt_iff_toNat_lt,
      UInt8.le_iff_toNat_le, UInt8.reduceToNat, ← UInt8.toNat_inj, Bool.not_eq_false] at ha hab
    rw [isContinuation_iff] at hab hc
    simp only [List.foldl_cons, List.foldl_nil]
    omega
  case case19 a _ _ _ ha _ b hab c hc d _ hd ih =>
    refine ih (.cons (CodePoint.isSurrogate_ofNat ?_) hacc) h
    simp only [Bool.or_eq_true, not_or, Bool.not_eq_true', Bool.and_eq_true, decide_eq_true_iff,
      UInt8.lt_iff_toNat_lt, UInt8.le_iff_toNat_le, UInt8.reduceToNat, ← UInt8.toNat_inj,
      Bool.not_eq_false] at ha hab hc
    rw [isContinuation_iff] at hab hc hd
    simp only [List.foldl_cons, List.foldl_nil]
    omega
  all_goals cases h

theorem plain_decode {bytes : List UInt8} {t : Text} (h : decode false bytes = .ok t) : t.Plain :=
  plain_decodeFrom rfl (fun _ hc => by cases hc) h

end Utf8

/-! ### Sources -/

/-- Line ends of one kind bring no surrogates. -/
theorem Text.Plain.unifyLines {t : Text} (ht : t.Plain) : t.unifyLines.Plain := by
  fun_induction Text.unifyLines t
  case case1 => exact ht
  case case2 c =>
    refine List.forall_mem_singleton.mpr ?_
    split
    · rfl
    · exact ht c List.mem_cons_self
  case case3 ih => exact ih (ht.of_subset (List.subset_cons_self ..))
  case case4 ih => exact .cons rfl (ih (ht.of_subset (List.subset_cons_self ..)))
  case case5 c _ _ _ ih =>
    exact .cons (ht c List.mem_cons_self) (ih (ht.of_subset (List.subset_cons_self ..)))

namespace Command

/-- The value of a source is readable. -/
theorem isReadable_of_decodeSource {source : Text} {content : List UInt8} {v : Json}
    (h : decodeSource source content = .ok v) : v.isReadable = true := by
  unfold decodeSource at h
  split at h
  · cases h
  · rename_i t hdecoded
    split at h
    · rename_i hread
      cases h
      exact Json.isReadable_read (Utf8.plain_decode hdecoded).unifyLines hread
    · cases h
    · cases h

end Command

end BenefitForm
