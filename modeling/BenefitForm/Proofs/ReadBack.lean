import BenefitForm.Json.Reader
import BenefitForm.Rule.ProofSet
import BenefitForm.Proofs.Outcome

/-!
# Reading back a list of texts

A list of texts that is written as a document in ASCII is read as the same list.
What is written for one code point has one of four forms (`WrittenPoint`), and for
each of them the reader takes one step (`readString_point`). A code point above the
first plane is written as two surrogates, so a high surrogate that is followed by a
low one is written like the code point that the two stand for. Decoding a text never
leaves such a pair (`Text.Unpaired`), and without one the text is read back.

- `writtenPoint`: the form that is written for a code point.
- `readString_body`: a text is read back, by induction on its code points.
- `readItems_inside`: so are the items of a list, by induction on the list.
- `read_written`: so is a document that holds a list of texts.
-/

namespace BenefitForm

/-! ### Hexadecimal digits -/

/-- The value of a small hexadecimal digit. -/
def hexValue (c : CodePoint) : Nat := if c.val < 0x3A then c.val - 0x30 else c.val - 0x57

/-- The number that hexadecimal digits stand for. -/
def readHex (t : Text) : Nat := t.foldl (fun n c => n * 16 + hexValue c) 0

theorem hexValue_digitChar : ∀ d < 16, hexValue (CodePoint.ofChar d.digitChar) = d := by decide

theorem readHex_concat (t : Text) (c : CodePoint) :
    readHex (t ++ [c]) = readHex t * 16 + hexValue c := by
  simp [readHex]

theorem readHex_toDigits (n : Nat) : readHex ((Nat.toDigits 16 n).map CodePoint.ofChar) = n := by
  induction n using Nat.strongRecOn with
  | ind n ih =>
    by_cases h : n < 16
    · rw [Nat.toDigits_of_lt_base h, List.map_singleton]
      simpa [readHex] using hexValue_digitChar n h
    · have hlt : n % 16 < 16 := Nat.mod_lt n (by decide)
      rw [Nat.toDigits_of_base_le (by decide) (by omega), List.map_append, List.map_singleton,
        readHex_concat, ih (n / 16) (by omega), hexValue_digitChar _ hlt]
      omega

/-- Zeros in front do not count. -/
theorem readHex_padding_append (k : Nat) (t : Text) :
    readHex (Text.padding k '0' ++ t) = readHex t := by
  induction k with
  | zero => rfl
  | succ k ih => exact ih

theorem readHex_hex (width n : Nat) : readHex (Text.hex width n) = n := by
  rw [Text.hex, readHex_padding_append, readHex_toDigits]

theorem length_hex {n : Nat} (h : n < 0x10000) : (Text.hex 4 n).length = 4 := by
  have hle : (Nat.toDigits 16 n).length ≤ 4 :=
    (Nat.length_toDigits_le_iff (by decide) (by decide)).mpr h
  simp [Text.hex, Text.padding]
  omega

/-! ### Surrogate pairs -/

namespace CodePoint

theorem val_ofNat {n : Nat} (h : n < 0x110000) : (ofNat n).val = n := by
  rw [ofNat, dif_pos h]

theorem ofNat_val (c : CodePoint) : ofNat c.val = c := dif_pos c.lt

/-- The first half of the pair that stands for a code point above the first plane. -/
def highHalf (c : CodePoint) : CodePoint := .ofNat (0xD800 + (c.val - 0x10000) / 1024)

/-- The second half of that pair. -/
def lowHalf (c : CodePoint) : CodePoint := .ofNat (0xDC00 + (c.val - 0x10000) % 1024)

theorem val_highHalf (c : CodePoint) : c.highHalf.val = 0xD800 + (c.val - 0x10000) / 1024 :=
  val_ofNat (by have := c.lt; omega)

theorem val_lowHalf (c : CodePoint) : c.lowHalf.val = 0xDC00 + (c.val - 0x10000) % 1024 :=
  val_ofNat (by omega)

theorem isHighSurrogate_highHalf (c : CodePoint) : c.highHalf.isHighSurrogate = true := by
  have hlt := c.lt
  have hhigh := c.val_highHalf
  simp [isHighSurrogate]
  omega

theorem isLowSurrogate_highHalf (c : CodePoint) : c.highHalf.isLowSurrogate = false := by
  have hlt := c.lt
  have hhigh := c.val_highHalf
  simp only [isLowSurrogate, Bool.and_eq_false_iff, decide_eq_false_iff_not]
  omega

theorem isLowSurrogate_lowHalf (c : CodePoint) : c.lowHalf.isLowSurrogate = true := by
  have hlow := c.val_lowHalf
  simp [isLowSurrogate]
  omega

/-- The number that the two halves stand for together is that of the code point. -/
theorem join_halves {c : CodePoint} (h : ¬ c.val < 0x10000) :
    0x10000 + (c.highHalf.val - 0xD800) * 1024 + (c.lowHalf.val - 0xDC00) = c.val := by
  rw [val_highHalf, val_lowHalf]
  omega

end CodePoint

/-- A text without a high surrogate directly before a low one, such as decoding leaves. -/
def Text.Unpaired (t : Text) : Prop :=
  t.IsChain fun c d => ¬ (c.isHighSurrogate = true ∧ d.isLowSurrogate = true)

instance : DecidablePred Text.Unpaired := fun t => by
  unfold Text.Unpaired
  infer_instance

theorem Text.Unpaired.of_cons {c : CodePoint} {t : Text} (h : Unpaired (c :: t)) : t.Unpaired :=
  h.tail

/-! ### Written lists -/

namespace ProofSet

/-- What is between the brackets of a list, with the closing one. -/
def inside (ts : List Text) : Text :=
  Text.join (Text.ofString ", ") (ts.map (Json.writeString true)) ++ Text.ofString "]"

theorem inside_singleton (t : Text) :
    inside [t] = Json.writeString true t ++ Text.ofString "]" := rfl

theorem inside_cons_cons (s t : Text) (ts : List Text) :
    inside (s :: t :: ts)
      = Json.writeString true s ++ (Text.ofString ", " ++ inside (t :: ts)) := by
  show Json.writeString true s ++ Text.ofString ", " ++ Text.join (Text.ofString ", ")
    ((t :: ts).map (Json.writeString true)) ++ Text.ofString "]" = _
  rw [List.append_assoc, List.append_assoc]
  rfl

end ProofSet

namespace Json

/-! ### Escapes -/

theorem hexValue?_digitChar :
    ∀ d < 16, hexValue? (CodePoint.ofChar d.digitChar) = some (hexValue (.ofChar d.digitChar)) := by
  decide

/-- The digits of a number are digits to the reader too. -/
theorem hexValue?_of_mem_toDigits {n : Nat} {d : Char} (h : d ∈ Nat.toDigits 16 n) :
    hexValue? (.ofChar d) = some (hexValue (.ofChar d)) := by
  induction n using Nat.strongRecOn with
  | ind n ih =>
    by_cases hn : n < 16
    · rw [Nat.toDigits_of_lt_base hn, List.mem_singleton] at h
      exact h ▸ hexValue?_digitChar n hn
    · rw [Nat.toDigits_of_base_le (by decide) (by omega), List.mem_append,
        List.mem_singleton] at h
      rcases h with h | rfl
      · exact ih (n / 16) (by omega) h
      · exact hexValue?_digitChar _ (Nat.mod_lt n (by decide))

theorem hexValue?_of_mem_hex {width n : Nat} {c : CodePoint} (h : c ∈ Text.hex width n) :
    hexValue? c = some (hexValue c) := by
  rcases List.mem_append.mp h with hzero | hdigit
  · rw [List.eq_of_mem_replicate hzero]
    rfl
  · obtain ⟨d, hd, rfl⟩ := List.mem_map.mp hdigit
    exact hexValue?_of_mem_toDigits hd

/-- The escape of a code unit has four digits, which are read as the unit. -/
theorem unitEscape_eq {n : Nat} (h : n < 0x10000) :
    ∃ x1 x2 x3 x4, unitEscape n = [.ofChar '\\', .ofChar 'u', x1, x2, x3, x4] ∧
      hexUnit? x1 x2 x3 x4 = some n := by
  have hlength := length_hex h
  have hread := readHex_hex 4 n
  have hvalue : ∀ c ∈ Text.hex 4 n, hexValue? c = some (hexValue c) :=
    fun c hc => hexValue?_of_mem_hex hc
  rw [unitEscape]
  generalize Text.hex 4 n = digits at hlength hread hvalue
  obtain ⟨x1, x2, x3, x4, rfl⟩ := List.length_eq_four.mp hlength
  simp only [List.forall_mem_cons] at hvalue
  obtain ⟨h1, h2, h3, h4, -⟩ := hvalue
  refine ⟨x1, x2, x3, x4, rfl, ?_⟩
  rw [hexUnit?, h1, h2, h3, h4]
  refine congrArg some (Eq.trans ?_ hread)
  show _ = (((0 * 16 + hexValue x1) * 16 + hexValue x2) * 16 + hexValue x3) * 16 + hexValue x4
  rw [Nat.zero_mul, Nat.zero_add]

/-! ### Code points in strings -/

/-- What is written for a code point: itself, an escape by a letter, the escape of a code unit, or
those of the two halves of a pair. -/
inductive WrittenPoint (c : CodePoint) : Text → Prop where
  | plain (hquote : c.val ≠ 0x22) (hbackslash : c.val ≠ 0x5C) (hcontrol : ¬ c.val < 0x20) :
    WrittenPoint c [c]
  | letter {e : CodePoint} (hletter : simpleEscape? e = some c) (hunit : e.val ≠ 0x75) :
    WrittenPoint c [.ofChar '\\', e]
  | unit {x1 x2 x3 x4 : CodePoint} (hvalue : hexUnit? x1 x2 x3 x4 = some c.val) :
    WrittenPoint c [.ofChar '\\', .ofChar 'u', x1, x2, x3, x4]
  | pair {x1 x2 x3 x4 y1 y2 y3 y4 : CodePoint} (habove : ¬ c.val < 0x10000)
    (hhigh : hexUnit? x1 x2 x3 x4 = some c.highHalf.val)
    (hlow : hexUnit? y1 y2 y3 y4 = some c.lowHalf.val) :
    WrittenPoint c ([.ofChar '\\', .ofChar 'u', x1, x2, x3, x4]
      ++ [.ofChar '\\', .ofChar 'u', y1, y2, y3, y4])

/-- Every code point is written in one of the forms. -/
theorem writtenPoint (c : CodePoint) : WrittenPoint c (writePoint true c) := by
  have hletter : ∀ {e : CodePoint} {n : Nat}, c.val = n → simpleEscape? e = some (.ofNat n) →
      e.val ≠ 0x75 → WrittenPoint c [.ofChar '\\', e] := by
    rintro e _ rfl he hunit
    exact .letter (c.ofNat_val ▸ he) hunit
  unfold writePoint
  -- seven escapes by a letter, then one or two by number, then the code point itself
  split
  · exact hletter ‹_› rfl (by decide)
  split
  · exact hletter ‹_› rfl (by decide)
  split
  · exact hletter ‹_› rfl (by decide)
  split
  · exact hletter ‹_› rfl (by decide)
  split
  · exact hletter ‹_› rfl (by decide)
  split
  · exact hletter ‹_› rfl (by decide)
  split
  · exact hletter ‹_› rfl (by decide)
  split
  · rename_i hunit
    have hlt : c.val < 0x10000 := by
      simp only [Bool.or_eq_true, decide_eq_true_iff, Bool.and_eq_true] at hunit
      omega
    obtain ⟨x1, x2, x3, x4, he, hvalue⟩ := unitEscape_eq hlt
    rw [he]
    exact .unit hvalue
  split
  · rename_i habove
    have hge : 0x10000 ≤ c.val := by simpa using habove
    have hlt := c.lt
    obtain ⟨x1, x2, x3, x4, hx, hhigh⟩ := unitEscape_eq
      (n := 0xD800 + (c.val - 0x10000) / 1024) (by omega)
    obtain ⟨y1, y2, y3, y4, hy, hlow⟩ := unitEscape_eq
      (n := 0xDC00 + (c.val - 0x10000) % 1024) (by omega)
    rw [hx, hy]
    exact .pair (by omega) (c.val_highHalf ▸ hhigh) (c.val_lowHalf ▸ hlow)
  · rename_i hquote hbackslash _ _ _ _ _ hunit _
    refine .plain hquote hbackslash fun hcontrol => hunit ?_
    simp [hcontrol]

/-- Whether a text begins with nothing that completes a high surrogate: an escape by number that it
begins with is that of a code unit which is no low surrogate. -/
def KeepsApart : Text → Prop
  | c :: u :: x1 :: x2 :: x3 :: x4 :: _ :: _ => c.val = 0x5C → u.val = 0x75 →
      ∃ n, hexUnit? x1 x2 x3 x4 = some n ∧ (CodePoint.ofNat n).isLowSurrogate = false
  | _ => True

theorem keepsApart_of_ne {c : CodePoint} (h : c.val ≠ 0x5C) (t : Text) : KeepsApart (c :: t) := by
  unfold KeepsApart
  split
  · rename_i he
    cases he
    exact fun hc => absurd hc h
  · trivial

theorem keepsApart_of_letter {e : CodePoint} (h : e.val ≠ 0x75) (c : CodePoint) (t : Text) :
    KeepsApart (c :: e :: t) := by
  unfold KeepsApart
  split
  · rename_i he
    cases he
    exact fun _ hu => absurd hu h
  · trivial

theorem keepsApart_of_unit {x1 x2 x3 x4 : CodePoint} {n : Nat} (h : hexUnit? x1 x2 x3 x4 = some n)
    (hn : (CodePoint.ofNat n).isLowSurrogate = false) (c u : CodePoint) (t : Text) :
    KeepsApart (c :: u :: x1 :: x2 :: x3 :: x4 :: t) := by
  unfold KeepsApart
  split
  · rename_i he
    cases he
    exact fun _ _ => ⟨n, h, hn⟩
  · trivial

/-- Only a low surrogate is written as something that completes a high one. -/
theorem WrittenPoint.keepsApart {c : CodePoint} {w : Text} (h : WrittenPoint c w)
    (hc : c.isLowSurrogate = false) (t : Text) : KeepsApart (w ++ t) := by
  cases h with
  | plain _ hbackslash _ => exact keepsApart_of_ne hbackslash t
  | letter _ hunit => exact keepsApart_of_letter hunit _ t
  | unit hvalue => exact keepsApart_of_unit hvalue (c.ofNat_val.symm ▸ hc) _ _ t
  | pair _ hhigh _ =>
    exact keepsApart_of_unit hhigh (c.highHalf.ofNat_val.symm ▸ c.isLowSurrogate_highHalf) _ _ _

section

variable {opening : Nat} {acc : Text}

/-- The escape of a code unit is read as the unit, where what follows does not complete it. -/
theorem readString_unit {x1 x2 x3 x4 : CodePoint} {n : Nat} (h : hexUnit? x1 x2 x3 x4 = some n)
    {next : CodePoint} {rest : Text}
    (hapart : (CodePoint.ofNat n).isHighSurrogate = true → KeepsApart (next :: rest)) :
    readString opening acc
        ([.ofChar '\\', .ofChar 'u', x1, x2, x3, x4] ++ next :: rest)
      = readString opening (.ofNat n :: acc) (next :: rest) := by
  rw [List.cons_append, readString.eq_def]
  dsimp only [List.cons_append, List.nil_append]
  rw [if_neg (by decide), if_neg (by decide), if_pos (by decide), if_pos (by decide), h]
  dsimp only
  split
  · rename_i hhigh
    obtain ⟨hhigh, hnext⟩ := Bool.and_eq_true_iff.mp hhigh
    split
    · split
      · rename_i hu
        obtain ⟨low, hlow, hnot⟩ := hapart hhigh (of_decide_eq_true hnext) hu
        rw [hlow]
        dsimp only
        rw [if_neg (by simp [hnot])]
      · rfl
    · rfl
  · rfl

/-- The escapes of the two halves of a pair are read as the code point that they stand for. -/
theorem readString_pair {c : CodePoint} (hc : ¬ c.val < 0x10000)
    {x1 x2 x3 x4 y1 y2 y3 y4 : CodePoint} (hhigh : hexUnit? x1 x2 x3 x4 = some c.highHalf.val)
    (hlow : hexUnit? y1 y2 y3 y4 = some c.lowHalf.val) {next : CodePoint} {rest : Text} :
    readString opening acc ([.ofChar '\\', .ofChar 'u', x1, x2, x3, x4]
        ++ [.ofChar '\\', .ofChar 'u', y1, y2, y3, y4] ++ next :: rest)
      = readString opening (c :: acc) (next :: rest) := by
  rw [List.append_assoc, List.cons_append, readString.eq_def]
  dsimp only [List.cons_append, List.nil_append]
  rw [if_neg (by decide), if_neg (by decide), if_pos (by decide), if_pos (by decide), hhigh]
  dsimp only
  rw [c.highHalf.ofNat_val, if_pos (by rw [c.isHighSurrogate_highHalf]; rfl), if_pos (by decide),
    hlow]
  dsimp only
  rw [c.lowHalf.ofNat_val, if_pos c.isLowSurrogate_lowHalf, CodePoint.join_halves hc, c.ofNat_val]

/-- What is written for a code point is read as the code point. -/
theorem readString_point {c : CodePoint} {w : Text} (h : WrittenPoint c w) {next : CodePoint}
    {rest : Text} (hapart : c.isHighSurrogate = true → KeepsApart (next :: rest)) :
    readString opening acc (w ++ next :: rest) = readString opening (c :: acc) (next :: rest) := by
  cases h with
  | plain hquote hbackslash hcontrol =>
    rw [List.singleton_append, readString.eq_def]
    dsimp only
    rw [if_neg hquote, if_neg hcontrol, if_neg hbackslash]
  | letter hletter hunit =>
    rw [List.cons_append, readString.eq_def]
    dsimp only [List.cons_append, List.nil_append]
    rw [if_neg (by decide), if_neg (by decide), if_pos (by decide), if_neg hunit, hletter]
  | unit hvalue =>
    rw [readString_unit hvalue (c.ofNat_val.symm ▸ hapart), c.ofNat_val]
  | pair habove hhigh hlow => exact readString_pair habove hhigh hlow

/-- What is written for a text without pairs, up to a quote, is read as the text. -/
theorem readString_body {t : Text} (ht : t.Unpaired) (rest : Text) :
    readString opening acc (t.flatMap (writePoint true) ++ .ofChar '"' :: rest)
      = .ok (acc.reverse ++ t, rest) := by
  induction t generalizing acc with
  | nil =>
    rw [List.flatMap_nil, List.nil_append, List.append_nil, readString.eq_def]
    rfl
  | cons c t ih =>
    -- what follows begins with the next code point, or else with the quote
    have hapart : c.isHighSurrogate = true →
        KeepsApart (t.flatMap (writePoint true) ++ .ofChar '"' :: rest) := by
      intro hhigh
      cases t with
      | nil => exact keepsApart_of_ne (by decide) rest
      | cons d t =>
        have hlow : d.isLowSurrogate = false :=
          Bool.eq_false_iff.mpr fun hd => (List.isChain_cons_cons.mp ht).1 ⟨hhigh, hd⟩
        rw [List.flatMap_cons, List.append_assoc]
        exact (writtenPoint d).keepsApart hlow _
    obtain ⟨next, rest', hrest⟩ : ∃ next rest',
        t.flatMap (writePoint true) ++ .ofChar '"' :: rest = next :: rest' :=
      List.exists_cons_of_ne_nil (by simp)
    rw [List.flatMap_cons, List.append_assoc, hrest,
      readString_point (writtenPoint c) (hrest ▸ hapart), ← hrest, ih ht.of_cons, List.reverse_cons,
      List.append_assoc, List.singleton_append]

end

/-! ### Lists that are read -/

/-- A string is read as a value. -/
theorem readValue_writeString {t : Text} (ht : t.Unpaired) (fuel depth : Nat) (rest : Text) :
    readValue (fuel + 1) depth (writeString true t ++ rest) = .ok (.string t, rest) := by
  have hwritten : writeString true t ++ rest
      = .ofChar '"' :: (t.flatMap (writePoint true) ++ .ofChar '"' :: rest) := by
    rw [writeString, List.append_assoc, List.append_assoc]
    rfl
  rw [hwritten, readValue.eq_def]
  dsimp only
  rw [if_pos (by decide), readString_body ht, ok_bind]
  rfl

/-- The items of a list of texts are read as the texts. -/
theorem readItems_inside {t : Text} {ts : List Text} (h : ∀ r ∈ t :: ts, r.Unpaired)
    {fuel depth : Nat} (hfuel : ts.length + 2 ≤ fuel) (acc : List Json) :
    readItems fuel depth acc (ProofSet.inside (t :: ts))
      = .ok (.array (acc.reverse ++ (t :: ts).map .string), []) := by
  induction ts generalizing t fuel acc with
  | nil =>
    obtain ⟨fuel, rfl⟩ : ∃ k, fuel = k + 2 := ⟨fuel - 2, by simp at hfuel; omega⟩
    rw [ProofSet.inside_singleton, readItems, readValue_writeString (h t List.mem_cons_self)]
    show Except.ok (array (string t :: acc).reverse, []) = _
    rw [List.reverse_cons]
    rfl
  | cons s ts ih =>
    rw [List.length_cons] at hfuel
    obtain ⟨fuel, rfl⟩ : ∃ k, fuel = k + 2 := ⟨fuel - 2, by omega⟩
    -- a comma and a blank stand before the next item, which begins with its quote
    have hgap : skipGap (.ofChar ' ' :: ProofSet.inside (s :: ts)) = ProofSet.inside (s :: ts) := by
      cases ts <;> rfl
    rw [ProofSet.inside_cons_cons, readItems, readValue_writeString (h t List.mem_cons_self)]
    show readItems (fuel + 1) depth (string t :: acc)
      (skipGap (.ofChar ' ' :: ProofSet.inside (s :: ts))) = _
    rw [hgap, ih (List.forall_mem_cons.mp h).2 (by omega), List.reverse_cons, List.append_assoc]
    rfl

/-- A list of texts is read as a value, where there is fuel for a step for each item. -/
theorem readValue_written {ts : List Text} (h : ∀ t ∈ ts, t.Unpaired) {fuel : Nat}
    (hfuel : ts.length + 1 ≤ fuel) (depth : Nat) :
    readValue (fuel + 1) (depth + 1) (ProofSet.written ts) = .ok (ofTexts ts, []) := by
  cases ts with
  | nil => rfl
  | cons t ts =>
    have hwritten : ProofSet.written (t :: ts) = .ofChar '[' :: ProofSet.inside (t :: ts) := rfl
    have hgap : skipGap (ProofSet.inside (t :: ts)) = ProofSet.inside (t :: ts) := by
      cases ts <;> rfl
    obtain ⟨rest, hquote⟩ : ∃ rest, ProofSet.inside (t :: ts) = .ofChar '"' :: rest := by
      cases ts <;> exact ⟨_, rfl⟩
    rw [hwritten, readValue.eq_def]
    dsimp only
    rw [if_neg (by decide), if_pos (by decide), hgap, hquote]
    dsimp only
    rw [if_neg (by decide), ← hquote]
    exact readItems_inside h hfuel []

/-- An item takes some code points, its quotes at least. -/
theorem length_le_inside (t : Text) (ts : List Text) :
    ts.length ≤ (ProofSet.inside (t :: ts)).length := by
  induction ts generalizing t with
  | nil => exact Nat.zero_le _
  | cons s ts ih =>
    have hcomma : (Text.ofString ", ").length = 2 := rfl
    have hle := ih s
    rw [ProofSet.inside_cons_cons, List.length_append, List.length_append, List.length_cons]
    omega

/-- A list of texts without pairs is read back from what is written for it. -/
theorem read_written {ts : List Text} (h : ∀ t ∈ ts, t.Unpaired) :
    read (ProofSet.written ts) = .ok (ofTexts ts) := by
  obtain ⟨rest, hopening⟩ : ∃ rest, ProofSet.written ts = .ofChar '[' :: rest := by
    rcases ts with _ | ⟨t, ts⟩ <;> exact ⟨_, rfl⟩
  have hfuel : ts.length + 1 ≤ 2 * (ProofSet.written ts).length + 1 := by
    cases ts with
    | nil => exact Nat.le_add_left 1 _
    | cons t ts =>
      have hle := length_le_inside t ts
      show _ ≤ 2 * (CodePoint.ofChar '[' :: ProofSet.inside (t :: ts)).length + 1
      rw [List.length_cons, List.length_cons]
      omega
  have hdocument : readDocument (ProofSet.written ts) = .ok (ofTexts ts) := by
    have hgap : skipGap (ProofSet.written ts) = ProofSet.written ts := by
      rw [hopening]
      rfl
    rw [readDocument, hgap, maxDepth, readValue_written h hfuel]
    rfl
  rw [hopening] at hdocument ⊢
  rw [read.eq_def]
  dsimp only
  rw [if_neg (by decide), hdocument]
  rfl

end Json

end BenefitForm
