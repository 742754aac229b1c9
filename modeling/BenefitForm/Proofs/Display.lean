import BenefitForm.Proofs.Reader

/-!
# Display forms have no surrogates

A text that stands by itself is taken as it is, surrogates included. Every other
value is taken in its display form, which is made of literals, numerals and quoted
texts; a surrogate is not printable, so inside quotes there is its escape.

- `Json.plain_display`: the display form of every value.
- `Json.plain_of_not_string`: what a value that is no text is taken for.
-/

namespace BenefitForm

/-! ### Parts of a display form -/

theorem CodePoint.isSurrogate_ofChar (c : Char) : (ofChar c).isSurrogate = false := by
  have h := c.valid
  simp only [UInt32.isValidChar, Nat.isValidChar] at h
  show (decide (0xD800 ≤ c.val.toNat) && decide (c.val.toNat ≤ 0xDFFF)) = false
  rw [Bool.and_eq_false_iff, decide_eq_false_iff_not, decide_eq_false_iff_not]
  omega

/-- A surrogate is not printable. -/
theorem CodePoint.isSurrogate_of_isPrintable {c : CodePoint} (h : c.isPrintable = true) :
    c.isSurrogate = false := by
  -- one range holds all surrogates
  have hrange : ∃ r ∈ unprintableRanges, r.1 ≤ 0xD800 ∧ 0xDFFF ≤ r.2 := by decide +kernel
  obtain ⟨r, hr, hfrom, hto⟩ := hrange
  rw [isPrintable, inRanges, Bool.not_eq_true', List.any_eq_false] at h
  have hout := h r hr
  rw [Bool.and_eq_true, decide_eq_true_iff, decide_eq_true_iff] at hout
  rw [isSurrogate, Bool.and_eq_false_iff, decide_eq_false_iff_not, decide_eq_false_iff_not]
  omega

namespace Text

theorem plain_nil : Plain [] := fun _ hc => by cases hc

@[simp] theorem plain_append_iff {s t : Text} : Plain (s ++ t) ↔ s.Plain ∧ t.Plain :=
  List.forall_mem_append

/-- Characters have no surrogates among them. -/
theorem plain_map_ofChar (cs : List Char) : Plain (cs.map CodePoint.ofChar) := by
  intro c hc
  obtain ⟨d, -, rfl⟩ := List.mem_map.mp hc
  exact CodePoint.isSurrogate_ofChar d

@[simp] theorem plain_ofString (s : String) : (ofString s).Plain := plain_map_ofChar s.toList

@[simp] theorem plain_ofNat (n : Nat) : (ofNat n).Plain := plain_map_ofChar _

@[simp] theorem plain_padding (n : Nat) (c : Char) : (padding n c).Plain := by
  intro d hd
  rw [List.eq_of_mem_replicate hd]
  exact CodePoint.isSurrogate_ofChar c

theorem Plain.take {t : Text} (h : t.Plain) (n : Nat) : Plain (t.take n) :=
  h.of_subset (List.take_subset n t)

theorem Plain.drop {t : Text} (h : t.Plain) (n : Nat) : Plain (t.drop n) :=
  h.of_subset (List.drop_subset n t)

theorem plain_ofInt (n : Int) : (ofInt n).Plain := by
  cases n with
  | ofNat n => exact plain_ofNat n
  | negSucc n => exact .cons (CodePoint.isSurrogate_ofChar '-') (plain_ofNat (n + 1))

theorem plain_ofBoundedInt {n : Int} {t : Text} (h : ofBoundedInt n = .ok t) : t.Plain := by
  rw [ofBoundedInt] at h
  split at h
  · rw [← Except.ok.inj h]
    exact plain_ofInt n
  · cases h

theorem plain_hex (width n : Nat) : (hex width n).Plain := by
  rw [hex, plain_append_iff]
  exact ⟨plain_padding _ '0', plain_map_ofChar _⟩

theorem plain_join {sep : Text} (hsep : sep.Plain) {ts : List Text} (h : ∀ t ∈ ts, t.Plain) :
    (join sep ts).Plain := by
  fun_induction join sep ts with
  | case1 => exact plain_nil
  | case2 t => exact h t List.mem_cons_self
  | case3 t rest _ ih =>
    obtain ⟨ht, hrest⟩ := List.forall_mem_cons.mp h
    rw [plain_append_iff, plain_append_iff]
    exact ⟨⟨ht, hsep⟩, ih hrest⟩

end Text

open Text

theorem CodePoint.plain_escape (c : CodePoint) : c.escape.Plain := by
  rw [escape]
  split
  · simp [plain_hex]
  split
  · simp [plain_hex]
  · simp [plain_hex]

/-- A quoted text shows a surrogate by its escape. -/
theorem CodePoint.plain_quoted {quote : CodePoint} (hquote : quote.isSurrogate = false)
    (c : CodePoint) : (quoted quote c).Plain := by
  rw [quoted]
  split
  · rename_i h
    have hc : c.isSurrogate = false := by
      rcases Bool.or_eq_true_iff.mp h with h | h
      · rwa [of_decide_eq_true h]
      · rw [isSurrogate, of_decide_eq_true h]
        rfl
    exact .cons (isSurrogate_ofChar _) (.cons hc plain_nil)
  split
  · exact plain_ofString _
  split
  · exact plain_ofString _
  split
  · exact plain_ofString _
  split
  · rename_i h
    exact .cons (isSurrogate_of_isPrintable h) plain_nil
  · exact c.plain_escape

theorem Text.plain_quoted (t : Text) : t.quoted.Plain := by
  have hquote : ∀ quote : CodePoint, quote.isSurrogate = false →
      Plain ([quote] ++ t.flatMap (CodePoint.quoted quote) ++ [quote]) := by
    intro quote h
    rw [plain_append_iff, plain_append_iff]
    refine ⟨⟨.cons h plain_nil, fun d hd => ?_⟩, .cons h plain_nil⟩
    obtain ⟨c, -, hd⟩ := List.mem_flatMap.mp hd
    exact CodePoint.plain_quoted h c d hd
  rw [Text.quoted]
  split
  · exact hquote _ (CodePoint.isSurrogate_ofChar _)
  · exact hquote _ (CodePoint.isSurrogate_ofChar _)

/-- The text of a number is made of digits and marks. -/
theorem Binary64.plain_magnitudeText (m : Nat) (e : Int) : (magnitudeText m e).Plain := by
  rw [magnitudeText]
  split
  · exact plain_ofString _
  split
  split
  rename_i digits _ _
  have hshown : (ofNat digits).Plain := plain_ofNat digits
  dsimp only
  split
  · split
    · simp only [plain_append_iff, plain_ofString, plain_padding, hshown, and_self]
    · simp only [plain_append_iff, plain_ofString, plain_padding, hshown.take, true_and]
      split
      · exact plain_ofString _
      · exact hshown.drop _
  · simp only [plain_append_iff, plain_ofString, plain_padding, plain_ofNat, hshown.take, true_and,
      and_true]
    split
    · exact plain_append_iff.mpr ⟨plain_ofString _, hshown.drop 1⟩
    · exact plain_nil

theorem Binary64.plain_toText (x : Binary64) : x.toText.Plain := by
  cases x with
  | nan => exact plain_ofString _
  | infinite negative => exact plain_ofString _
  | finite negative m e =>
    rw [toText, plain_append_iff]
    refine ⟨?_, plain_magnitudeText m e⟩
    split
    · exact plain_ofString _
    · exact plain_nil

/-! ### Values -/

namespace Json

mutual

/-- The display form of a value has no surrogates. -/
theorem plain_display : ∀ (v : Json) {t : Text}, v.display = .ok t → t.Plain
  | .null => fun h => by
    cases h
    exact plain_ofString _
  | .bool _ => fun h => by
    cases h
    exact plain_ofString _
  | .int _ => fun h => by
    rw [display] at h
    exact plain_ofBoundedInt h
  | .float x => fun h => by
    cases h
    exact x.plain_toText
  | .string t => fun h => by
    cases h
    exact t.plain_quoted
  | .array items => fun h => by
    rw [display] at h
    obtain ⟨shown, hshown, hpure⟩ := bind_eq_ok_iff.mp h
    rw [← Except.ok.inj hpure]
    simp only [plain_append_iff, plain_ofString, true_and, and_true]
    exact plain_join (plain_ofString _) (plain_displayItems items hshown)
  | .object members => fun h => by
    rw [display] at h
    obtain ⟨shown, hshown, hpure⟩ := bind_eq_ok_iff.mp h
    rw [← Except.ok.inj hpure]
    simp only [plain_append_iff, plain_ofString, true_and, and_true]
    exact plain_join (plain_ofString _) (plain_displayMembers members hshown)

theorem plain_displayItems : ∀ (items : List Json) {ts : List Text},
    displayItems items = .ok ts → ∀ t ∈ ts, t.Plain
  | [] => fun h => by
    cases h
    exact List.forall_mem_nil _
  | v :: rest => fun h => by
    rw [displayItems] at h
    obtain ⟨shown, hshown, hrest⟩ := bind_eq_ok_iff.mp h
    obtain ⟨others, hothers, hpure⟩ := bind_eq_ok_iff.mp hrest
    rw [← Except.ok.inj hpure]
    exact List.forall_mem_cons.mpr ⟨plain_display v hshown, plain_displayItems rest hothers⟩

theorem plain_displayMembers : ∀ (members : List (Text × Json)) {ts : List Text},
    displayMembers members = .ok ts → ∀ t ∈ ts, t.Plain
  | [] => fun h => by
    cases h
    exact List.forall_mem_nil _
  | (k, v) :: rest => fun h => by
    rw [displayMembers] at h
    obtain ⟨shown, hshown, hrest⟩ := bind_eq_ok_iff.mp h
    obtain ⟨others, hothers, hpure⟩ := bind_eq_ok_iff.mp hrest
    rw [← Except.ok.inj hpure]
    refine List.forall_mem_cons.mpr ⟨?_, plain_displayMembers rest hothers⟩
    simp only [plain_append_iff, plain_ofString, and_true]
    exact ⟨k.plain_quoted, plain_display v hshown⟩

end

/-- The text that a value is taken for has a surrogate only if the value is that text. -/
theorem plain_of_not_string {v : Json} {t : Text} (h : v.plain = .ok t) (ht : ¬ t.Plain) :
    v = .string t := by
  cases v with
  | string s =>
    cases h
    rfl
  | _ => exact absurd (plain_display _ h) ht

end Json

end BenefitForm
