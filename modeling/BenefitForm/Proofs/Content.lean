import BenefitForm.Proofs.DocumentRecord
import BenefitForm.Proofs.Source

/-!
# Encoded contents

The content of a document is encoded in three layers: the UTF-8 bytes of the text,
their percent encoding, which is ASCII, and the base 64 of that. Each layer is
undone by its decoder, so the text can be read back, and texts with different code
points have different contents.

- `Utf8.decode_encode`, `Percent.decode_encode`, `Base64.decode_encode`: each layer
  for itself.
- `Base64.standard_encode`: digits of the alphabet, padded to groups of four.
- `content_round_trip`: a text has no content iff it holds a surrogate; any other
  text is what its content is decoded to.
-/

namespace BenefitForm

/-- A byte has the number it was made of, where that is one of a byte. -/
theorem toNat_toUInt8 {n : Nat} (h : n < 256) : n.toUInt8.toNat = n := by
  rw [Nat.toUInt8_eq, UInt8.toNat_ofNat', Nat.mod_eq_of_lt h]

/-- A byte is found from a number that is its own. -/
theorem toUInt8_eq {n : Nat} {b : UInt8} (h : n = b.toNat) : n.toUInt8 = b := by
  rw [h]
  simp

/-! ### UTF-8 -/

namespace Utf8

/-- A number of six bits makes a continuation byte. -/
theorem isContinuation_toUInt8 {n : Nat} (h : n < 64) :
    isContinuation (0x80 + n).toUInt8 = true := by
  rw [isContinuation_iff, toNat_toUInt8 (by omega)]
  omega

section

variable {pass : Bool} {pos : Nat} {acc : Text} {a b c d : UInt8} {rest : List UInt8}

/-! One code point is read by the length of its form. -/

theorem decodeFrom_one (ha : a.toNat < 0x80) :
    decodeFrom pass pos acc (a :: rest)
      = decodeFrom pass (pos + 1) (.ofNat a.toNat :: acc) rest := by
  rw [decodeFrom.eq_def]
  simp only [UInt8.lt_iff_toNat_lt, UInt8.reduceToNat]
  rw [if_pos ha]

theorem decodeFrom_two (hmin : 0xC2 ≤ a.toNat) (hmax : a.toNat < 0xE0)
    (hb : isContinuation b = true) :
    decodeFrom pass pos acc (a :: b :: rest)
      = decodeFrom pass (pos + 2) (assemble (a.toNat - 0xC0) [b] :: acc) rest := by
  rw [decodeFrom.eq_def]
  simp only [UInt8.lt_iff_toNat_lt, UInt8.reduceToNat, hb, if_true]
  rw [if_neg (by omega), if_neg (by omega), if_pos hmax]

theorem decodeFrom_three (hmin : 0xE0 ≤ a.toNat) (hmax : a.toNat < 0xF0)
    (hb : isContinuation b = true) (hc : isContinuation c = true)
    (hshort : a.toNat = 0xE0 → 0xA0 ≤ b.toNat) (hsurrogate : a.toNat = 0xED → b.toNat < 0xA0) :
    decodeFrom pass pos acc (a :: b :: c :: rest)
      = decodeFrom pass (pos + 3) (assemble (a.toNat - 0xE0) [b, c] :: acc) rest := by
  rw [decodeFrom.eq_def]
  simp only [UInt8.lt_iff_toNat_lt, UInt8.le_iff_toNat_le, ← UInt8.toNat_inj, UInt8.reduceToNat,
    hb, hc, if_true]
  rw [if_neg (by omega), if_neg (by omega), if_neg (by omega), if_pos hmax, if_neg]
  simp only [Bool.not_true, Bool.false_or, Bool.or_eq_true, Bool.and_eq_true, decide_eq_true_iff]
  omega

theorem decodeFrom_four (hmin : 0xF0 ≤ a.toNat) (hmax : a.toNat < 0xF5)
    (hb : isContinuation b = true) (hc : isContinuation c = true) (hd : isContinuation d = true)
    (hshort : a.toNat = 0xF0 → 0x90 ≤ b.toNat) (hlast : a.toNat = 0xF4 → b.toNat < 0x90) :
    decodeFrom pass pos acc (a :: b :: c :: d :: rest)
      = decodeFrom pass (pos + 4) (assemble (a.toNat - 0xF0) [b, c, d] :: acc) rest := by
  rw [decodeFrom.eq_def]
  simp only [UInt8.lt_iff_toNat_lt, UInt8.le_iff_toNat_le, ← UInt8.toNat_inj, UInt8.reduceToNat,
    hb, hc, hd, if_true]
  rw [if_neg (by omega), if_neg (by omega), if_neg (by omega), if_neg (by omega), if_pos hmax,
    if_neg, if_neg (by decide)]
  simp only [Bool.not_true, Bool.false_or, Bool.or_eq_true, Bool.and_eq_true, decide_eq_true_iff]
  omega

end

/-- The number that leading bits and continuation bytes make. -/
theorem assemble_eq {c : CodePoint} {lead : Nat} {bytes : List UInt8}
    (h : bytes.foldl (fun n b => n * 64 + (b.toNat - 0x80)) lead = c.val) :
    assemble lead bytes = c := by
  rw [assemble, h, CodePoint.ofNat_val]

/-- The bytes of a code point that is no surrogate are read as that code point. -/
theorem decodeFrom_encodePoint {pos : Nat} {acc : Text} {rest : List UInt8} {c : CodePoint}
    (h : c.isSurrogate = false) :
    decodeFrom false pos acc (encodePoint c ++ rest)
      = decodeFrom false (pos + (encodePoint c).length) (c :: acc) rest := by
  have hlt := c.lt
  rw [CodePoint.isSurrogate, Bool.and_eq_false_iff, decide_eq_false_iff_not,
    decide_eq_false_iff_not] at h
  have hcontinuation : ∀ n, isContinuation (0x80 + n % 64).toUInt8 = true :=
    fun n => isContinuation_toUInt8 (Nat.mod_lt n (by decide))
  have hbits : ∀ n, (0x80 + n % 64).toUInt8.toNat = 0x80 + n % 64 :=
    fun n => toNat_toUInt8 (by omega)
  -- the bounds of each length are what its decoder checks of the first two bytes
  rw [encodePoint]
  split
  · have ha : c.val.toUInt8.toNat = c.val := toNat_toUInt8 (by omega)
    rw [List.singleton_append, decodeFrom_one (by omega), ha, CodePoint.ofNat_val]
    rfl
  split
  · have ha : (0xC0 + c.val / 64).toUInt8.toNat = 0xC0 + c.val / 64 := toNat_toUInt8 (by omega)
    rw [List.cons_append, List.singleton_append,
      decodeFrom_two (by omega) (by omega) (hcontinuation _), assemble_eq (c := c)]
    · rfl
    · simp only [List.foldl_cons, List.foldl_nil, ha, hbits]
      omega
  split
  · have ha : (0xE0 + c.val / 4096).toUInt8.toNat = 0xE0 + c.val / 4096 :=
      toNat_toUInt8 (by omega)
    rw [List.cons_append, List.cons_append, List.singleton_append,
      decodeFrom_three (by omega) (by omega) (hcontinuation _) (hcontinuation _)
        (by rw [ha, hbits]; omega) (by rw [ha, hbits]; omega), assemble_eq (c := c)]
    · rfl
    · simp only [List.foldl_cons, List.foldl_nil, ha, hbits]
      omega
  · have ha : (0xF0 + c.val / 262144).toUInt8.toNat = 0xF0 + c.val / 262144 :=
      toNat_toUInt8 (by omega)
    rw [List.cons_append, List.cons_append, List.cons_append, List.singleton_append,
      decodeFrom_four (by omega) (by omega) (hcontinuation _) (hcontinuation _) (hcontinuation _)
        (by rw [ha, hbits]; omega) (by rw [ha, hbits]; omega), assemble_eq (c := c)]
    · rfl
    · simp only [List.foldl_cons, List.foldl_nil, ha, hbits]
      omega

/-- The bytes of a text without surrogates are read as the text. -/
theorem decodeFrom_flatMap {t : Text} (h : t.Plain) {pos : Nat} {acc : Text} :
    decodeFrom false pos acc (t.flatMap encodePoint) = .ok (acc.reverse ++ t) := by
  -- what was read before a code point is in the accumulator, last one first
  induction t generalizing pos acc with
  | nil => simp [decodeFrom]
  | cons c t ih =>
    obtain ⟨hc, ht⟩ := List.forall_mem_cons.mp h
    rw [List.flatMap_cons, decodeFrom_encodePoint hc, ih ht, List.reverse_cons, List.append_assoc,
      List.singleton_append]

/-- The bytes of a text are decoded to the text. -/
theorem decode_encode {t : Text} {bytes : List UInt8} (h : encode t = .ok bytes) :
    decode false bytes = .ok t := by
  rw [encode] at h
  split at h
  · cases h
  · rename_i hnone
    cases h
    exact decodeFrom_flatMap (firstSurrogates_eq_none_iff.mp hnone)

end Utf8

/-! ### Percent encoding -/

namespace Percent

theorem value?_digit {n : Nat} (h : n < 16) : value? (digit n) = some n := by
  revert n
  decide

/-- The code points that stand for themselves are ASCII, and the percent sign is none of them. -/
theorem val_of_isSafe {c : CodePoint} (h : isSafe c = true) : c.val < 0x80 ∧ c.val ≠ 0x25 := by
  simp only [isSafe, Bool.or_eq_true] at h
  rcases h with ((h | h) | h) | h
  · simp only [CodePoint.isAsciiLower, Bool.and_eq_true, decide_eq_true_eq] at h
    omega
  · simp only [CodePoint.isAsciiUpper, Bool.and_eq_true, decide_eq_true_eq] at h
    omega
  · simp only [CodePoint.isAsciiDigit, Bool.and_eq_true, decide_eq_true_eq] at h
    omega
  · have hmarks : ∀ c ∈ safeMarks, c.val < 0x80 ∧ c.val ≠ 0x25 := by decide
    exact hmarks c (List.contains_iff_mem.mp h)

/-- One byte is read as it was written. -/
theorem decode_encodeByte (b : UInt8) (rest : Text) :
    decode (encodeByte b ++ rest) = (decode rest).map (b :: ·) := by
  have hlt := b.toNat_lt
  rw [encodeByte]
  split
  · rename_i hsafe
    have hval : (CodePoint.ofNat b.toNat).val = b.toNat := CodePoint.val_ofNat (by omega)
    have hne : b.toNat ≠ 0x25 := hval ▸ (val_of_isSafe hsafe).2
    rw [List.singleton_append, decode.eq_def]
    simp only [hval]
    rw [if_neg hne]
    cases decode rest <;> simp
  · have hbyte : (b.toNat / 16 * 16 + b.toNat % 16).toUInt8 = b := by
      rw [Nat.div_add_mod']
      simp
    rw [List.cons_append, List.cons_append, List.singleton_append, decode.eq_def]
    simp only [value?_digit (show b.toNat / 16 < 16 by omega),
      value?_digit (show b.toNat % 16 < 16 by omega), Option.bind_eq_bind, Option.bind_some, hbyte]
    rw [if_pos (by rfl)]
    cases decode rest <;> rfl

/-- The bytes that were written are read. -/
theorem decode_encode (bytes : List UInt8) : decode (encode bytes) = some bytes := by
  induction bytes with
  | nil => rfl
  | cons b bytes ih =>
    rw [encode, List.flatMap_cons, decode_encodeByte]
    exact congrArg (Option.map (b :: ·)) ih

theorem digit_lt {n : Nat} (h : n < 16) : (digit n).val < 0x80 := by
  revert n
  decide

/-- A percent encoding is ASCII. -/
theorem val_lt_of_mem_encode {bytes : List UInt8} {c : CodePoint} (h : c ∈ encode bytes) :
    c.val < 0x80 := by
  obtain ⟨b, -, hc⟩ := List.mem_flatMap.mp h
  have hlt := b.toNat_lt
  rw [encodeByte] at hc
  split at hc
  · rename_i hsafe
    rw [List.mem_singleton.mp hc]
    exact (val_of_isSafe hsafe).1
  · simp only [List.mem_cons, List.not_mem_nil, or_false] at hc
    rcases hc with rfl | rfl | rfl
    · decide
    · exact digit_lt (by omega)
    · exact digit_lt (by omega)

end Percent

/-! ### Base 64 -/

namespace Base64

theorem length_alphabet : alphabet.length = 64 := by decide

theorem nodup_alphabet : alphabet.Nodup := by decide

theorem pad_not_mem_alphabet : pad ∉ alphabet := by decide

theorem digit_eq_getElem {n : Nat} (h : n < alphabet.length) : digit n = alphabet[n] :=
  List.getD_eq_getElem _ _ h

theorem digit_mem {n : Nat} (h : n < 64) : digit n ∈ alphabet := by
  rw [← length_alphabet] at h
  rw [digit_eq_getElem h]
  exact List.getElem_mem h

/-- The padding is no digit. -/
theorem digit_ne_pad {n : Nat} (h : n < 64) : digit n ≠ pad := fun hpad =>
  pad_not_mem_alphabet (hpad ▸ digit_mem h)

/-- Each digit has one place in the alphabet, so its value is found. -/
theorem value?_digit {n : Nat} (h : n < 64) : value? (digit n) = some n := by
  rw [← length_alphabet] at h
  rw [digit_eq_getElem h, value?, List.findIdx?_eq_some_iff_getElem]
  refine ⟨h, beq_self_eq_true _, fun j hj => ?_⟩
  rw [beq_iff_eq, nodup_alphabet.getElem_inj_iff]
  omega

section

variable {a b c d : Nat} (ha : a < 64) (hb : b < 64)

include ha hb

theorem decode_padded_two :
    decode [digit a, digit b, pad, pad] = some [((a * 64 + b) / 16).toUInt8] := by
  rw [decode, value?_digit ha, value?_digit hb]
  rfl

theorem decode_padded_one (hc : c < 64) :
    decode [digit a, digit b, digit c, pad]
      = some [(((a * 64 + b) * 64 + c) / 1024).toUInt8,
        (((a * 64 + b) * 64 + c) / 4 % 256).toUInt8] := by
  rw [decode, value?_digit ha, value?_digit hb, value?_digit hc]
  simp only [Option.bind_eq_bind, Option.bind_some]
  rw [if_neg (digit_ne_pad hc)]
  rfl

theorem decode_group (hc : c < 64) (hd : d < 64) (rest : Text) :
    decode (digit a :: digit b :: digit c :: digit d :: rest) = (decode rest).map fun bytes =>
      ((((a * 64 + b) * 64 + c) * 64 + d) / 65536).toUInt8
        :: ((((a * 64 + b) * 64 + c) * 64 + d) / 256 % 256).toUInt8
        :: ((((a * 64 + b) * 64 + c) * 64 + d) % 256).toUInt8 :: bytes := by
  rw [decode, value?_digit ha, value?_digit hb, value?_digit hc, value?_digit hd]
  simp only [Option.bind_eq_bind, Option.bind_some]
  rw [if_neg (digit_ne_pad hc), if_neg (digit_ne_pad hd)]
  cases decode rest <;> rfl

end

/-- The bytes that were written are read. -/
theorem decode_encode (bytes : List UInt8) : decode (encode bytes) = some bytes := by
  fun_induction encode bytes with
  | case1 => rfl
  | case2 a n =>
    have ha := a.toNat_lt
    rw [decode_padded_two (by omega) (by omega), toUInt8_eq (b := a) (by omega)]
  | case3 a b n =>
    have ha := a.toNat_lt
    have hb := b.toNat_lt
    rw [decode_padded_one (by omega) (by omega) (by omega), toUInt8_eq (b := a) (by omega),
      toUInt8_eq (b := b) (by omega)]
  | case4 a b c rest n ih =>
    have ha := a.toNat_lt
    have hb := b.toNat_lt
    have hc := c.toNat_lt
    rw [decode_group (by omega) (by omega) (by omega) (by omega), ih, Option.map_some,
      toUInt8_eq (b := a) (by omega), toUInt8_eq (b := b) (by omega),
      toUInt8_eq (b := c) (by omega)]

/-- A text in the standard form of a byte sequence: digits of the alphabet, padded to groups of
four, that stand for the bytes. -/
structure Standard (t : Text) (bytes : List UInt8) : Prop where
  digits : ∃ ds, (∀ c ∈ ds, c ∈ alphabet) ∧ t = ds ++ List.replicate ((3 - bytes.length % 3) % 3) pad
  length : t.length = 4 * ((bytes.length + 2) / 3)
  decodes : decode t = some bytes

/-- A byte sequence is written in its standard form. -/
theorem standard_encode (bytes : List UInt8) : Standard (encode bytes) bytes := by
  constructor
  case decodes => exact decode_encode bytes
  case length =>
    fun_induction encode bytes with
    | case1 => rfl
    | case2 a n => simp
    | case3 a b n => simp
    | case4 a b c rest n ih =>
      simp only [List.length_cons, ih]
      omega
  -- by groups of three bytes, with one or two bytes at the end that are padded
  case digits =>
    fun_induction encode bytes with
    | case1 => exact ⟨[], by simp, rfl⟩
    | case2 a n =>
      have ha := a.toNat_lt
      refine ⟨[digit (n / 64), digit (n % 64)], ?_, rfl⟩
      simp only [List.forall_mem_cons]
      exact ⟨digit_mem (by omega), digit_mem (by omega), by simp⟩
    | case3 a b n =>
      have ha := a.toNat_lt
      have hb := b.toNat_lt
      refine ⟨[digit (n / 4096), digit (n / 64 % 64), digit (n % 64)], ?_, rfl⟩
      simp only [List.forall_mem_cons]
      exact ⟨digit_mem (by omega), digit_mem (by omega), digit_mem (by omega), by simp⟩
    | case4 a b c rest n ih =>
      have ha := a.toNat_lt
      have hb := b.toNat_lt
      have hc := c.toNat_lt
      obtain ⟨ds, hds, hrest⟩ := ih
      refine ⟨digit (n / 262144) :: digit (n / 4096 % 64) :: digit (n / 64 % 64)
        :: digit (n % 64) :: ds, ?_, ?_⟩
      · simp only [List.forall_mem_cons]
        exact ⟨digit_mem (by omega), digit_mem (by omega), digit_mem (by omega),
          digit_mem (by omega), hds⟩
      · rw [hrest]
        simp only [List.length_cons, List.cons_append]
        congr 7
        omega

end Base64

/-! ### Contents -/

namespace Content

/-- Whether a content can be decoded to a text: after the mark it is the standard base 64 form of an
ASCII text, which is the percent encoding of the UTF-8 bytes of the text. -/
def Carries (content t : Text) : Prop :=
  ∃ encoded escaped bytes, content = Text.ofString "base64," ++ encoded ∧
    Base64.Standard encoded escaped ∧ (∀ b ∈ escaped, b.toNat < 0x80) ∧
    Percent.decode (escaped.map fun b => .ofNat b.toNat) = some bytes ∧
    Utf8.decode false bytes = .ok t

/-- A content can be decoded to one text only. -/
theorem Carries.unique {content s t : Text} (hs : Carries content s) (ht : Carries content t) :
    s = t := by
  obtain ⟨encoded, escaped, bytes, rfl, hstandard, -, hescaped, hbytes⟩ := hs
  obtain ⟨encoded', escaped', bytes', he, hstandard', -, hescaped', hbytes'⟩ := ht
  obtain rfl := List.append_cancel_left he
  obtain rfl := Option.some.inj (hstandard.decodes.symm.trans hstandard'.decodes)
  obtain rfl := Option.some.inj (hescaped.symm.trans hescaped')
  exact Except.ok.inj (hbytes.symm.trans hbytes')

/-- The content of a text can be decoded to the text. -/
theorem carries_of_encodeText {t content : Text} (h : encodeText t = .ok content) :
    Carries content t := by
  rw [encodeText] at h
  cases hbytes : Utf8.encode t with
  | error e =>
    rw [hbytes] at h
    cases h
  | ok bytes =>
    rw [hbytes] at h
    cases h
    -- the percent encoding is ASCII, so its code points are found again from their bytes
    have hascii : ∀ c ∈ Percent.encode bytes, c.val.toUInt8.toNat = c.val := fun c hc =>
      toNat_toUInt8 (by have := Percent.val_lt_of_mem_encode hc; omega)
    have hback : ((Percent.encode bytes).map fun c => c.val.toUInt8).map
        (fun b => CodePoint.ofNat b.toNat) = Percent.encode bytes := by
      rw [List.map_map]
      refine (List.map_congr_left fun c hc => ?_).trans (List.map_id _)
      rw [Function.comp_apply, hascii c hc, CodePoint.ofNat_val, id]
    refine ⟨_, _, bytes, rfl, Base64.standard_encode _, ?_, ?_, Utf8.decode_encode hbytes⟩
    · intro b hb
      obtain ⟨c, hc, rfl⟩ := List.mem_map.mp hb
      rw [hascii c hc]
      exact Percent.val_lt_of_mem_encode hc
    · rw [hback]
      exact Percent.decode_encode bytes

/-- The content of a text is found unless the text holds a surrogate. -/
theorem outcome_encode_string (t : Text) :
    (encode (.string t)).outcome = (encodeText t).mapError fun _ => .encodingFailed := by
  rw [outcome_encode]
  rfl

end Content

/-- A text has no content iff it holds a surrogate; any other text has a content from which it is
decoded; and no two texts have one content. -/
theorem content_round_trip (t : Text) :
    ((Content.encode (.string t)).outcome = .error .encodingFailed ↔
      ∃ c ∈ t, c.isSurrogate = true) ∧
    ((∃ content, (Content.encode (.string t)).outcome = .ok content ∧
      Content.Carries content t) ↔ ∀ c ∈ t, c.isSurrogate = false) ∧
    ∀ s content, (Content.encode (.string s)).outcome = .ok content →
      (Content.encode (.string t)).outcome = .ok content → s = t := by
  have hcarries : ∀ {s content : Text}, (Content.encode (.string s)).outcome = .ok content →
      Content.Carries content s := by
    intro s content h
    rw [Content.outcome_encode_string, mapError_eq_ok_iff] at h
    exact Content.carries_of_encodeText h
  by_cases h : ∀ c ∈ t, c.isSurrogate = false
  case pos =>
    obtain ⟨content, hcontent⟩ := Content.exists_encodeText h
    have hok : (Content.encode (.string t)).outcome = .ok content := by
      rw [Content.outcome_encode_string, hcontent]
      rfl
    refine ⟨⟨fun he => ?_, fun ⟨c, hc, hsurrogate⟩ => ?_⟩,
      ⟨fun _ => h, fun _ => ⟨content, hok, hcarries hok⟩⟩,
      fun s content hs ht => (hcarries hs).unique (hcarries ht)⟩
    · rw [hok] at he
      cases he
    · rw [h c hc] at hsurrogate
      cases hsurrogate
  case neg =>
    obtain ⟨c, hc, hsurrogate⟩ : ∃ c ∈ t, c.isSurrogate = true := by simpa using h
    obtain ⟨e, he⟩ := Content.exists_encodeText_error hc hsurrogate
    have herror : (Content.encode (.string t)).outcome = .error .encodingFailed := by
      rw [Content.outcome_encode_string, he]
      rfl
    refine ⟨⟨fun _ => ⟨c, hc, hsurrogate⟩, fun _ => herror⟩, ⟨fun ⟨content, hok, _⟩ => ?_,
      fun hplain => absurd hplain h⟩, fun s content hs ht => (hcarries hs).unique (hcarries ht)⟩
    rw [herror] at hok
    cases hok

/-- The content of a text with an ASCII letter, a blank and a code point of three bytes. -/
example : (Content.encode (.string [.ofNat 0x61, .ofNat 0x20, .ofNat 0x928])).outcome
    = .ok (Text.ofString "base64,YSUyMCVFMCVBNCVBOA==") := by
  rfl

end BenefitForm
