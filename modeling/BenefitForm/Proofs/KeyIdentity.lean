import BenefitForm.Proofs.Members

/-!
# What a key is told by

Values that can be keys are equal when they are the same text, the same number,
whatever its kind, or both null. The program compares numbers by cases, and exactly:
two quotients by cross-multiplication. That this is an equivalence is seen from what
it compares, the `KeyIdentity` of a value.

- `Ratio.compare_eq_iff`: quotients are compared by their values.
- `Json.Number.equal_iff`: numbers of any kind are equal iff they have one identity.
- `Json.beq_iff_identity`: so are keys.
-/

namespace BenefitForm

/-- What tells one key from another. -/
inductive KeyIdentity where
  | null
  | text (t : Text)
  | number (q : ℚ)
  | infinite (negative : Bool)
  | nan
deriving DecidableEq

/-! ### Quotients -/

namespace Ratio

/-- The value of a quotient. -/
def value (r : Ratio) : ℚ := r.num / r.den

@[simp] theorem value_ofInt (n : Int) : (ofInt n).value = n := by
  simp [value, ofInt]

/-- Two quotients are compared by their values. -/
theorem compare_eq_iff {a b : Ratio} (ha : a.den ≠ 0) (hb : b.den ≠ 0) :
    a.compare b = .eq ↔ a.value = b.value := by
  have ha' : (a.den : ℚ) ≠ 0 := Nat.cast_ne_zero.mpr ha
  have hb' : (b.den : ℚ) ≠ 0 := Nat.cast_ne_zero.mpr hb
  rw [compare, compare_eq_iff_eq, value, value, div_eq_div_iff ha' hb']
  exact_mod_cast Iff.rfl

end Ratio

/-! ### Floating-point numbers -/

namespace Binary64

/-- What tells the number from others: the two zeros are one. -/
def identity : Binary64 → KeyIdentity
  | .infinite negative => .infinite negative
  | x => x.toRatio?.elim .nan fun r => .number r.value

theorem den_ne_zero {x : Binary64} {r : Ratio} (h : x.toRatio? = some r) : r.den ≠ 0 := by
  cases x with
  | finite negative m e =>
    rw [toRatio?, Option.some_inj] at h
    subst h
    split
    · exact one_ne_zero
    · exact (Nat.pow_pos Nat.two_pos).ne'
  | _ => cases h

/-- A finite number equals a quotient of its value. -/
theorem compareRatio?_eq_iff (x : Binary64) {r : Ratio} (hr : r.den ≠ 0) :
    x.compareRatio? r = some .eq ↔ x.identity = .number r.value := by
  cases x with
  | nan => simp [compareRatio?, identity, toRatio?]
  | infinite negative => cases negative <;> simp [compareRatio?, identity]
  | finite negative m e =>
    obtain ⟨q, hq⟩ : ∃ q, (Binary64.finite negative m e).toRatio? = some q := ⟨_, rfl⟩
    rw [compareRatio?, identity, hq, Option.map_some, Option.some_inj,
      Ratio.compare_eq_iff (den_ne_zero hq) hr, Option.elim_some, KeyIdentity.number.injEq]
    · rintro _ ⟨⟩
    · rintro ⟨⟩
    · rintro _ ⟨⟩

/-- Numbers of which the second one is not `nan` are equal iff they have one identity. -/
theorem compare?_eq_iff {x y : Binary64} (hy : y ≠ .nan) :
    x.compare? y = some .eq ↔ x.identity = y.identity := by
  cases y with
  | nan => exact absurd rfl hy
  | infinite negative =>
    cases x with
    | nan => simp [compare?, identity, toRatio?]
    | infinite n => cases n <;> cases negative <;> simp [compare?, identity]
    | finite n m e => cases negative <;> simp [compare?, identity, toRatio?]
  | finite negative m e =>
    obtain ⟨q, hq⟩ : ∃ q, (Binary64.finite negative m e).toRatio? = some q := ⟨_, rfl⟩
    have hidentity : (Binary64.finite negative m e).identity = .number q.value := by
      rw [identity, hq, Option.elim_some]
      rintro _ ⟨⟩
    rw [hidentity, compare?, hq, Option.bind_some, compareRatio?_eq_iff x (den_ne_zero hq)]
    · rintro ⟨⟩
    · rintro _ ⟨⟩

end Binary64

/-! ### Values -/

namespace Json

namespace Number

/-- What tells the number from others. -/
def identity : Number → KeyIdentity
  | .exact n => .number n
  | .binary x => x.identity

/-- Numbers are equal iff they have one identity. -/
theorem equal_iff {m n : Number} : equal m n = true ↔ m.identity = n.identity := by
  have hexact : ∀ (x : Binary64) (a : Int),
      x.compareRatio? (.ofInt a) = some .eq ↔ x.identity = .number a := by
    intro x a
    rw [Binary64.compareRatio?_eq_iff x one_ne_zero, Ratio.value_ofInt]
  rcases m with a | x <;> rcases n with b | y
  case exact.exact => simp [equal, compare?, identity]
  case exact.binary =>
    have hswap : ((y.compareRatio? (.ofInt a)).map Ordering.swap == some .eq) = true ↔
        y.compareRatio? (.ofInt a) = some .eq := by
      rcases y.compareRatio? (.ofInt a) with _ | _ | _ | _ <;> decide
    exact (hswap.trans (hexact y a)).trans eq_comm
  case binary.exact =>
    rw [equal, beq_iff_eq]
    · exact hexact x b
    · rintro - ⟨⟩
  case binary.binary =>
    by_cases hy : y = .nan
    · -- `nan` has no place in the order, and equals itself alone
      subst hy
      cases x with
      | nan => simp [equal, identity]
      | infinite negative => simp [equal, compare?, Binary64.compare?, identity, Binary64.identity,
          Binary64.toRatio?]
      | finite negative m e => simp [equal, compare?, Binary64.compare?, identity,
          Binary64.identity, Binary64.toRatio?]
    · rw [equal, beq_iff_eq]
      · exact Binary64.compare?_eq_iff hy
      · rintro - hnan
        exact hy (binary.inj hnan)

/-- No number is null. -/
theorem identity_ne_null (n : Number) : n.identity ≠ .null := by
  rcases n with a | _ | _ | _ <;> rintro ⟨⟩

/-- No number is a text. -/
theorem identity_ne_text (n : Number) (t : Text) : n.identity ≠ .text t := by
  rcases n with a | _ | _ | _ <;> rintro ⟨⟩

end Number

/-- What tells a key from others. Lists and objects are no keys. -/
def identity? : Json → Option KeyIdentity
  | .null => some .null
  | .string t => some (.text t)
  | v => v.number?.map Number.identity

theorem identity?_of_number? {v : Json} {m : Number} (h : v.number? = some m) :
    v.identity? = some m.identity := by
  cases v <;> cases h <;> rfl

/-- Numbers, truth values included, are compared as numbers. -/
theorem beq_of_number? {v w : Json} {m n : Number} (hv : v.number? = some m)
    (hw : w.number? = some n) : (v == w) = Number.equal m n := by
  have hexact : ∀ a b : Int, (a == b) = Number.equal (.exact a) (.exact b) := by
    intro a b
    rw [Bool.eq_iff_iff, Number.equal_iff]
    simp [Number.identity]
  show equalBy false v w = _
  -- truth values are told from each other, and from integers on their left, without `Number.equal`
  cases v <;> cases hv <;> cases w <;> cases hw
  case bool.refl.bool.refl a b => cases a <;> cases b <;> rfl
  case int.refl.bool.refl a b => exact hexact a _
  all_goals rfl

/-- Nothing but null has the identity of null. -/
theorem identity?_eq_null_iff {v : Json} : v.identity? = some .null ↔ v = .null := by
  cases v with
  | bool b => simp [identity?, number?, Number.identity_ne_null]
  | int n => simp [identity?, number?, Number.identity_ne_null]
  | float x => simp [identity?, number?, Number.identity_ne_null]
  | _ => simp [identity?, number?]

/-- Nothing but a text has its identity. -/
theorem identity?_eq_text_iff {v : Json} {t : Text} :
    v.identity? = some (.text t) ↔ v = .string t := by
  cases v with
  | bool b => simp [identity?, number?, Number.identity_ne_text]
  | int n => simp [identity?, number?, Number.identity_ne_text]
  | float x => simp [identity?, number?, Number.identity_ne_text]
  | _ => simp [identity?, number?]

theorem null_beq_iff {v : Json} : ((.null : Json) == v) = true ↔ v = .null := by
  show equalBy false .null v = true ↔ _
  cases v <;> simp [equalBy]

theorem beq_null_iff {v : Json} : (v == .null) = true ↔ v = .null := by
  show equalBy false v .null = true ↔ _
  cases v <;> simp [equalBy, number?]

/-- A key is null, a text or a number. -/
theorem key_cases {v : Json} (h : v.canBeKey = true) :
    v = .null ∨ (∃ t, v = .string t) ∨ ∃ m, v.number? = some m := by
  cases v with
  | null => exact .inl rfl
  | string t => exact .inr (.inl ⟨t, rfl⟩)
  | array items => cases h
  | object members => cases h
  | _ => exact .inr (.inr ⟨_, rfl⟩)

/-- Keys are equal iff they have one identity. -/
theorem beq_iff_identity {v w : Json} (hv : v.canBeKey = true) (hw : w.canBeKey = true) :
    (v == w) = true ↔ v.identity? = w.identity? := by
  rcases key_cases hv with rfl | ⟨s, rfl⟩ | ⟨m, hm⟩
  · exact (null_beq_iff.trans identity?_eq_null_iff.symm).trans eq_comm
  · exact (string_equalBy_iff.trans identity?_eq_text_iff.symm).trans eq_comm
  · rcases key_cases hw with rfl | ⟨t, rfl⟩ | ⟨n, hn⟩
    · exact beq_null_iff.trans identity?_eq_null_iff.symm
    · exact beq_string_iff.trans identity?_eq_text_iff.symm
    · rw [beq_of_number? hm hn, Number.equal_iff, identity?_of_number? hm, identity?_of_number? hn,
        Option.some_inj]

theorem beq_eq_identity {v w : Json} (hv : v.canBeKey = true) (hw : w.canBeKey = true) :
    (v == w) = (v.identity? == w.identity?) := by
  rw [Bool.eq_iff_iff]
  exact (beq_iff_identity hv hw).trans beq_iff_eq.symm

end Json

end BenefitForm
