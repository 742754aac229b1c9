import BenefitForm.Json.Reader
import BenefitForm.Proofs.Readable

/-!
# What reading a document gives

A document is a text, and a text that was decoded from bytes has no surrogates.
Its strings may still have some, by escapes. The escape of a high surrogate is
read alone only where no escape of a low one follows (`GoesOnLow`), which is what
keeps the string that is read without a pair (`gives_readString`).

- `StringStep.unit`, `stringStep`: what an escape of a unit and any one step of reading a
  string does; `gives_readString` follows by induction on the length of the text.
- `givesReadable`: what the readers of values give, by induction on their fuel.
- `isReadable_read`: every value that is read from such a text is readable.
-/

namespace BenefitForm

/-- Whether a text has no surrogates. -/
def Text.Plain (t : Text) : Prop := ∀ c ∈ t, c.isSurrogate = false

theorem Text.Plain.cons {c : CodePoint} {t : Text} (hc : c.isSurrogate = false) (ht : t.Plain) :
    Plain (c :: t) :=
  List.forall_mem_cons.mpr ⟨hc, ht⟩

theorem Text.Plain.of_subset {s t : Text} (h : t.Plain) (hs : s ⊆ t) : s.Plain :=
  fun c hc => h c (hs hc)

namespace CodePoint

theorem isHighSurrogate_eq_false {c : CodePoint} (h : c.isSurrogate = false) :
    c.isHighSurrogate = false := by
  simp only [isSurrogate, isHighSurrogate, Bool.and_eq_false_iff, decide_eq_false_iff_not] at h ⊢
  omega

theorem isLowSurrogate_eq_false {c : CodePoint} (h : c.isSurrogate = false) :
    c.isLowSurrogate = false := by
  simp only [isSurrogate, isLowSurrogate, Bool.and_eq_false_iff, decide_eq_false_iff_not] at h ⊢
  omega

/-- A number below or above the surrogates is that of none. -/
theorem isSurrogate_ofNat {n : Nat} (h : n < 0xD800 ∨ 0xE000 ≤ n) :
    (ofNat n).isSurrogate = false := by
  rw [ofNat]
  split
  · simp only [isSurrogate, Bool.and_eq_false_iff, decide_eq_false_iff_not]
    omega
  · rfl

end CodePoint

/-- A code point at the end leaves a text without pairs unless it completes one. -/
theorem Text.Unpaired.reverse_cons {acc : Text} (h : Unpaired acc.reverse) {p : CodePoint}
    (hp : ∀ c ∈ acc.head?, ¬ (c.isHighSurrogate = true ∧ p.isLowSurrogate = true)) :
    Unpaired (p :: acc).reverse := by
  rw [List.reverse_cons]
  refine List.IsChain.append h (.singleton p) fun c hc d hd => ?_
  rw [List.getLast?_reverse] at hc
  cases hd
  exact hp c hc

namespace Json

/-- Whether a step of the reader, where it gives a result, gives one with a property and leaves a
part of the text. -/
def Gives {α : Type} (P : α → Prop) (t : Text) (r : Except Stop (α × Text)) : Prop :=
  ∀ a rest, r = .ok (a, rest) → P a ∧ rest ⊆ t

namespace Gives

variable {α : Type} {P : α → Prop} {t t' : Text}

theorem error (e : Stop) : Gives P t (.error e) := fun _ _ h => by cases h

theorem stopAt (p : ReadProblem) (t' : Text) : Gives P t (Json.stopAt p t') := .error _

theorem ok {a : α} {rest : Text} (ha : P a) (hrest : rest ⊆ t) : Gives P t (.ok (a, rest)) := by
  rintro _ _ ⟨⟩
  exact ⟨ha, hrest⟩

theorem mono {r : Except Stop (α × Text)} (h : Gives P t' r) (ht : t' ⊆ t) : Gives P t r :=
  fun a rest hr => ⟨(h a rest hr).1, List.Subset.trans (h a rest hr).2 ht⟩

end Gives

/-! ### Strings -/

/-- Whether a text goes on with the escape of a low surrogate. -/
def GoesOnLow : Text → Prop
  | c :: u :: x1 :: x2 :: x3 :: x4 :: _ :: _ =>
    c.val = 0x5C ∧ u.val = 0x75 ∧
      ∃ n, hexUnit? x1 x2 x3 x4 = some n ∧ (CodePoint.ofNat n).isLowSurrogate = true
  | _ => False

/-- A one-letter escape stands for no surrogate. -/
theorem isSurrogate_of_simpleEscape? {e p : CodePoint} (he : e.isSurrogate = false)
    (h : simpleEscape? e = some p) : p.isSurrogate = false := by
  unfold simpleEscape? at h
  split_ifs at h
  all_goals cases h
  all_goals first | exact he | rfl

theorem val_of_goesOnLow {c : CodePoint} {t : Text} (h : GoesOnLow (c :: t)) : c.val = 0x5C := by
  unfold GoesOnLow at h
  split at h
  · rename_i he
    cases he
    exact h.1
  · cases h

theorem exists_of_goesOnLow {c : CodePoint} {t : Text} (h : GoesOnLow (c :: t)) :
    ∃ u x1 x2 x3 x4 next rest, t = u :: x1 :: x2 :: x3 :: x4 :: next :: rest := by
  unfold GoesOnLow at h
  split at h
  · rename_i he
    cases he
    exact ⟨_, _, _, _, _, _, _, rfl⟩
  · cases h

/-- What a step of reading a string comes to: an end with an error or at a quote, or a code point
that is taken for some of the text. A low surrogate is taken only where the text goes on with one,
and a high one only where what is left does not. -/
inductive StringStep (opening : Nat) (acc t : Text) : Except Stop (Text × Text) → Prop where
  | stop (e : Stop) : StringStep opening acc t (.error e)
  | quote {c : CodePoint} {rest : Text} (he : t = c :: rest) :
    StringStep opening acc t (.ok (acc.reverse, rest))
  | point {c p : CodePoint} (taken : Text) {rest : Text} (he : t = c :: taken ++ rest)
    (hlow : p.isLowSurrogate = true → GoesOnLow t)
    (hhigh : p.isHighSurrogate = true → ¬ GoesOnLow rest) :
    StringStep opening acc t (readString opening (p :: acc) rest)

namespace StringStep

variable {opening : Nat} {acc : Text}

theorem stopAt {t : Text} (p : ReadProblem) (t' : Text) :
    StringStep opening acc t (Json.stopAt p t') := .stop _

/-- A code point that is no surrogate may be taken anywhere. -/
theorem plain {c p : CodePoint} (taken : Text) {rest : Text} (hp : p.isSurrogate = false) :
    StringStep opening acc (c :: taken ++ rest) (readString opening (p :: acc) rest) := by
  refine .point taken rfl (fun hlow => ?_) (fun hhigh => ?_)
  · rw [CodePoint.isLowSurrogate_eq_false hp] at hlow
    cases hlow
  · rw [CodePoint.isHighSurrogate_eq_false hp] at hhigh
    cases hhigh

/-- The unit of an escape may be taken alone, a high surrogate only where no low one follows. -/
theorem alone {c u x1 x2 x3 x4 next : CodePoint} {rest : Text} (hc : c.val = 0x5C)
    (hu : u.val = 0x75) {unit : Nat} (hunit : hexUnit? x1 x2 x3 x4 = some unit)
    (hapart : CodePoint.isHighSurrogate (.ofNat unit) = true → ¬ GoesOnLow (next :: rest)) :
    StringStep opening acc (c :: u :: x1 :: x2 :: x3 :: x4 :: next :: rest)
      (readString opening (.ofNat unit :: acc) (next :: rest)) :=
  .point [u, x1, x2, x3, x4] rfl (fun hlow => ⟨hc, hu, unit, hunit, hlow⟩) hapart

/-- An escape of a unit, with another code point after it: the unit is taken together with a low
surrogate that follows, or alone. -/
theorem unit {c u x1 x2 x3 x4 next : CodePoint} {rest : Text} (hc : c.val = 0x5C)
    (hu : u.val = 0x75) :
    StringStep opening acc (c :: u :: x1 :: x2 :: x3 :: x4 :: next :: rest)
      (readString opening acc (c :: u :: x1 :: x2 :: x3 :: x4 :: next :: rest)) := by
  have hquote : ¬ c.val = 0x22 := by omega
  have hcontrol : ¬ c.val < 0x20 := by omega
  rw [readString.eq_def]
  dsimp only
  rw [if_neg hquote, if_neg hcontrol, if_pos hc, if_pos hu]
  split
  · exact .stopAt _ _
  · rename_i high hunit
    split
    · split
      · rename_i u' y1 y2 y3 y4 after rest
        split
        · split
          · exact .stopAt _ _
          · rename_i low hunit'
            split
            · refine .plain [u, x1, x2, x3, x4, next, u', y1, y2, y3, y4]
                (CodePoint.isSurrogate_ofNat ?_)
              omega
            · rename_i hnot
              refine .alone hc hu hunit fun _ hgoes => ?_
              obtain ⟨-, -, n, hn, hlow⟩ := hgoes
              cases hunit'.symm.trans hn
              exact hnot hlow
        · rename_i hu'
          exact .alone hc hu hunit fun _ hgoes => hu' hgoes.2.1
      · -- too short a text for another escape with a code point after it
        rename_i hshort
        refine .alone hc hu hunit fun _ hgoes => ?_
        obtain ⟨u', y1, y2, y3, y4, after, rest', rfl⟩ := exists_of_goesOnLow hgoes
        exact hshort _ _ _ _ _ _ _ rfl
    · rename_i hnext
      refine .alone hc hu hunit fun hhigh hgoes => hnext ?_
      rw [hhigh, Bool.true_and, decide_eq_true_iff]
      exact val_of_goesOnLow hgoes

end StringStep

/-- Every step in a text without surrogates is of this kind. -/
theorem stringStep {opening : Nat} {acc t : Text} (ht : t.Plain) :
    StringStep opening acc t (readString opening acc t) := by
  by_cases hescape : ∃ c u x1 x2 x3 x4 next rest,
      t = c :: u :: x1 :: x2 :: x3 :: x4 :: next :: rest ∧ c.val = 0x5C ∧ u.val = 0x75
  · obtain ⟨c, u, x1, x2, x3, x4, next, rest, rfl, hc, hu⟩ := hescape
    exact .unit hc hu
  · cases t with
    | nil => exact .stop _
    | cons c rest =>
      rw [readString.eq_def]
      dsimp only
      split
      · exact .quote rfl
      · split
        · exact .stopAt _ _
        · split
          · rename_i hc
            split
            · exact .stop _
            · rename_i e rest
              split
              · rename_i he
                split
                · exact absurd ⟨_, _, _, _, _, _, _, _, rfl, hc, he⟩ hescape
                · exact .stopAt _ _
              · split
                · rename_i p hp
                  have he : e.isSurrogate = false :=
                    ht e (List.mem_cons_of_mem c List.mem_cons_self)
                  exact .plain [e] (isSurrogate_of_simpleEscape? he hp)
                · exact .stopAt _ _
          · exact .plain [] (ht c List.mem_cons_self)

/-- What has been read of a string, backwards, before a text: no pair in it, and none across. -/
structure ReadBefore (acc t : Text) : Prop where
  unpaired : Text.Unpaired acc.reverse
  apart : ∀ c ∈ acc.head?, c.isHighSurrogate = true → ¬ GoesOnLow t

theorem ReadBefore.nil {t : Text} : ReadBefore [] t := ⟨.nil, nofun⟩

/-- One more code point, which is a low surrogate only if the text went on with one. -/
theorem ReadBefore.cons {acc t t' : Text} (h : ReadBefore acc t) {p : CodePoint}
    (hlow : p.isLowSurrogate = true → GoesOnLow t)
    (hhigh : p.isHighSurrogate = true → ¬ GoesOnLow t') : ReadBefore (p :: acc) t' := by
  constructor
  case unpaired =>
    exact h.unpaired.reverse_cons fun c hc hpair => h.apart c hc hpair.1 (hlow hpair.2)
  case apart =>
    intro c hc
    cases hc
    exact hhigh

/-- The string that is read from a text without surrogates has no pair. -/
theorem gives_readString {opening : Nat} {acc t : Text} (ht : t.Plain) (hacc : ReadBefore acc t) :
    Gives Text.Unpaired t (readString opening acc t) := by
  -- a step may take several code points, so the induction is on the length of what is left
  induction hlength : t.length using Nat.strong_induction_on generalizing acc t with
  | _ n ih =>
    have hstep : StringStep opening acc t _ := stringStep ht
    generalize readString opening acc t = r at hstep
    cases hstep with
    | stop e => exact .error e
    | quote he => exact .ok hacc.unpaired (he ▸ List.subset_cons_self ..)
    | @point c p taken rest he hlow hhigh =>
      subst he
      have hsub : rest ⊆ c :: taken ++ rest := List.subset_append_right ..
      refine (ih _ ?_ (ht.of_subset hsub) (hacc.cons hlow hhigh) rfl).mono hsub
      rw [← hlength, List.length_append, List.length_cons]
      omega

/-! ### Numerals -/

theorem powerOfTen_eq (exponent : Nat) : powerOfTen exponent = 10 ^ exponent := rfl

theorem digitsValue_lt {digits : Text} (h : ∀ c ∈ digits, c.isAsciiDigit = true) :
    digitsValue digits < 10 ^ digits.length := by
  -- each digit comes after those whose value is there already
  induction digits using List.reverseRecOn with
  | nil => decide
  | append_singleton digits d ih =>
    have hvalue : digitsValue (digits ++ [d]) = digitsValue digits * 10 + (d.val - 0x30) := by
      simp [digitsValue]
    have hd : d.val ≤ 0x39 := by
      have hdigit := h d (List.mem_append_right _ List.mem_cons_self)
      simp only [CodePoint.isAsciiDigit, Bool.and_eq_true, decide_eq_true_iff] at hdigit
      exact hdigit.2
    have hlt := ih fun c hc => h c (List.mem_append_left _ hc)
    rw [hvalue, List.length_append, List.length_singleton, pow_succ]
    omega

theorem splitWhole_digits (t : Text) : ∀ c ∈ (splitWhole t).1, c.isAsciiDigit = true := by
  unfold splitWhole
  split
  · nofun
  · rename_i d rest
    split
    · rename_i hzero
      intro c hc
      rw [List.mem_singleton.mp hc, CodePoint.isAsciiDigit, hzero]
      decide
    · exact fun c hc => List.mem_takeWhile_imp hc

theorem splitWhole_subset (t : Text) : (splitWhole t).2 ⊆ t := by
  unfold splitWhole
  split
  · exact List.Subset.refl _
  · split
    · exact List.subset_cons_self ..
    · exact (List.dropWhile_suffix _).subset

theorem splitFraction_subset (t : Text) : (splitFraction t).2 ⊆ t := by
  unfold splitFraction
  split
  · rename_i dot rest
    dsimp only
    split
    · exact List.subset_cons_of_subset _ (List.drop_subset _ _)
    · exact List.Subset.refl _
  · exact List.Subset.refl _

theorem splitExponent_subset (t : Text) : (splitExponent t).2 ⊆ t := by
  unfold splitExponent
  split
  · rename_i mark rest
    split
    · split
      rename_i negative rest' hsign
      have hrest : rest' ⊆ rest := by
        split at hsign
        · split_ifs at hsign
          all_goals cases hsign
          · exact List.subset_cons_self ..
          · exact List.subset_cons_self ..
          · exact List.Subset.refl _
        · cases hsign
          exact List.Subset.refl _
      dsimp only
      split
      · exact List.Subset.refl _
      · exact List.subset_cons_of_subset _ (List.Subset.trans (List.drop_subset _ _) hrest)
    · exact List.Subset.refl _
  · exact List.Subset.refl _

/-- A whole number with not too many digits can be written. -/
theorem isReadable_digitsValue {digits : Text} (h : ∀ c ∈ digits, c.isAsciiDigit = true)
    (hlength : digits.length ≤ maxDigits) (negative : Bool) :
    (int (if negative then -(digitsValue digits : Int) else digitsValue digits)).isReadable
      = true := by
  have hlt : digitsValue digits < 10 ^ maxDigits :=
    Nat.lt_of_lt_of_le (digitsValue_lt h) (Nat.pow_le_pow_right (by decide) hlength)
  have habs : (if negative then -(digitsValue digits : Int) else digitsValue digits).natAbs
      = digitsValue digits := by
    cases negative <;> simp
  rw [isReadable, habs, powerOfTen_eq, decide_eq_true_iff]
  exact hlt

/-- A numeral gives a number that has not too many digits. -/
theorem gives_readNumber (t : Text) : Gives (fun v => v.isReadable = true) t (readNumber t) := by
  unfold readNumber
  split
  rename_i negative unsigned hsign
  have hunsigned : unsigned ⊆ t := by
    split at hsign
    · split_ifs at hsign
      all_goals cases hsign
      · exact List.subset_cons_self ..
      · exact List.Subset.refl _
    · cases hsign
      exact List.Subset.refl _
  have hwhole := splitWhole_digits unsigned
  have hsub : (splitExponent (splitFraction (splitWhole unsigned).2).2).2 ⊆ t :=
    List.Subset.trans (splitExponent_subset _) (List.Subset.trans (splitFraction_subset _)
      (List.Subset.trans (splitWhole_subset _) hunsigned))
  dsimp only
  split
  · exact .stopAt _ _
  · split
    · split
      · exact .error _
      · rename_i hlength
        exact .ok (isReadable_digitsValue hwhole (by omega) _) hsub
    · exact .ok rfl hsub

/-! ### Values -/

theorem gives_readAtom (t : Text) : Gives (fun v => v.isReadable = true) t (readAtom t) := by
  rw [readAtom]
  split
  · rename_i r hfound
    obtain ⟨n, hn, hword⟩ := List.exists_of_findSome?_eq_some hfound
    obtain ⟨rest, hrest, rfl⟩ := Option.map_eq_some_iff.mp hword
    have hnamed : ∀ n ∈ namedValues, n.2.isReadable = true := by decide
    refine .ok (hnamed n hn) ?_
    rw [afterWord?] at hrest
    split at hrest
    · cases hrest
      exact List.drop_subset _ _
    · cases hrest
  · exact gives_readNumber t

theorem skipGap_subset (t : Text) : skipGap t ⊆ t := (List.dropWhile_suffix _).subset

/-- The text after the blanks, without its first code point. -/
theorem subset_of_skipGap {t rest : Text} {d : CodePoint} (h : skipGap t = d :: rest) :
    rest ⊆ t :=
  List.Subset.trans (List.subset_cons_self d rest) (h ▸ skipGap_subset t)

/-- What the three readers give with some fuel. -/
structure GivesReadable (fuel : Nat) : Prop where
  value : ∀ depth t, t.Plain → Gives (fun v => v.isReadable = true) t (readValue fuel depth t)
  items : ∀ depth acc t, t.Plain → (∀ v ∈ acc, v.isReadable = true) →
    Gives (fun v => v.isReadable = true) t (readItems fuel depth acc t)
  members : ∀ depth acc t, t.Plain → (∀ m ∈ acc, Text.Unpaired m.1 ∧ m.2.isReadable = true) →
    Gives (fun v => v.isReadable = true) t (readMembers fuel depth acc t)

namespace GivesReadable

variable {fuel : Nat}

theorem value_succ (ih : GivesReadable fuel) (depth : Nat) {t : Text} (ht : t.Plain) :
    Gives (fun v => v.isReadable = true) t (readValue (fuel + 1) depth t) := by
  cases t with
  | nil => exact .stopAt _ _
  | cons c rest =>
    have hrest : rest ⊆ c :: rest := List.subset_cons_self c rest
    have hgap : skipGap rest ⊆ c :: rest := List.Subset.trans (skipGap_subset rest) hrest
    rw [readValue.eq_def]
    dsimp only
    split
    · intro v rest' hread
      obtain ⟨⟨s, after⟩, hs, hv⟩ := bind_eq_ok_iff.mp hread
      cases hv
      obtain ⟨hunpaired, hsub⟩ :=
        (gives_readString (ht.of_subset hrest) .nil).mono hrest s after hs
      exact ⟨isReadable_string.mpr hunpaired, hsub⟩
    · split
      · split
        · exact .error _
        · exact .stopAt _ _
        · rename_i hopened
          rw [hopened] at hgap
          split
          · exact .ok rfl (List.Subset.trans (List.subset_cons_self ..) hgap)
          · exact (ih.items _ [] _ (ht.of_subset hgap) nofun).mono hgap
      · split
        · split
          · exact .error _
          · exact .stopAt _ _
          · rename_i hopened
            rw [hopened] at hgap
            split
            · exact .ok rfl (List.Subset.trans (List.subset_cons_self ..) hgap)
            · exact (ih.members _ [] _ (ht.of_subset hgap) nofun).mono hgap
        · exact gives_readAtom _

theorem items_succ (ih : GivesReadable fuel) (depth : Nat) {acc : List Json} {t : Text}
    (ht : t.Plain) (hacc : ∀ v ∈ acc, v.isReadable = true) :
    Gives (fun v => v.isReadable = true) t (readItems (fuel + 1) depth acc t) := by
  rw [readItems]
  split
  · exact .error _
  · rename_i v rest hread
    obtain ⟨hv, hrest⟩ := ih.value depth t ht v rest hread
    have hall : ∀ w ∈ v :: acc, w.isReadable = true := List.forall_mem_cons.mpr ⟨hv, hacc⟩
    split
    · exact .stopAt _ _
    · rename_i d rest' hgap
      have hsub := List.Subset.trans (subset_of_skipGap hgap) hrest
      split
      · exact .ok (isReadable_array.mpr fun w hw => hall w (List.mem_reverse.mp hw)) hsub
      · split
        · have hnext := List.Subset.trans (skipGap_subset rest') hsub
          exact (ih.items depth _ _ (ht.of_subset hnext) hall).mono hnext
        · exact .stopAt _ _

theorem members_succ (ih : GivesReadable fuel) (depth : Nat) {acc : Members} {t : Text}
    (ht : t.Plain) (hacc : ∀ m ∈ acc, m.1.Unpaired ∧ m.2.isReadable = true) :
    Gives (fun v => v.isReadable = true) t (readMembers (fuel + 1) depth acc t) := by
  cases t with
  | nil => exact .stopAt _ _
  | cons q rest =>
    have hrest : rest ⊆ q :: rest := List.subset_cons_self q rest
    rw [readMembers]
    split
    · exact .stopAt _ _
    · split
      · exact .error _
      · rename_i key afterKey hkey
        obtain ⟨hunpaired, hsub⟩ :=
          (gives_readString (ht.of_subset hrest) .nil).mono hrest key afterKey hkey
        split
        · exact .stopAt _ _
        · rename_i d afterColon hcolon
          have hgap := List.Subset.trans (skipGap_subset afterColon)
            (List.Subset.trans (subset_of_skipGap hcolon) hsub)
          split
          · exact .stopAt _ _
          · split
            · exact .error _
            · rename_i v afterValue hread
              obtain ⟨hv, hvalue⟩ :=
                (ih.value depth _ (ht.of_subset hgap)).mono hgap v afterValue hread
              have hall : ∀ m ∈ (key, v) :: acc, m.1.Unpaired ∧ m.2.isReadable = true :=
                List.forall_mem_cons.mpr ⟨⟨hunpaired, hv⟩, hacc⟩
              split
              · exact .stopAt _ _
              · rename_i e afterComma hcomma
                have hafter := List.Subset.trans (subset_of_skipGap hcomma) hvalue
                split
                · refine .ok (isReadable_object.mpr ?_) hafter
                  exact Members.forall_mem_ofList (K := Text.Unpaired)
                    (Q := fun v => v.isReadable = true) fun m hm => hall m (List.mem_reverse.mp hm)
                · split
                  · have hnext := List.Subset.trans (skipGap_subset afterComma) hafter
                    exact (ih.members depth _ _ (ht.of_subset hnext) hall).mono hnext
                  · exact .stopAt _ _

end GivesReadable

/-- Every value that is read from a text without surrogates is readable, by induction on the fuel
that the three readers share. -/
theorem givesReadable (fuel : Nat) : GivesReadable fuel := by
  induction fuel with
  | zero =>
    constructor
    case value => exact fun _ _ _ => .stopAt _ _
    case items => exact fun _ _ _ _ _ => .stopAt _ _
    case members => exact fun _ _ _ _ _ => .stopAt _ _
  | succ fuel ih =>
    constructor
    case value => exact fun depth _ ht => ih.value_succ depth ht
    case items => exact fun depth _ _ ht hacc => ih.items_succ depth ht hacc
    case members => exact fun depth _ _ ht hacc => ih.members_succ depth ht hacc

/-! ### Documents -/

theorem located_eq_ok_iff {t : Text} {r : Except Stop Json} {v : Json} :
    located t r = .ok v ↔ r = .ok v := by
  rcases r with (e | _ | _) | w
  · exact ⟨nofun, nofun⟩
  · exact ⟨nofun, nofun⟩
  · exact ⟨nofun, nofun⟩
  · simp [located]

theorem isReadable_readDocument {t : Text} (ht : t.Plain) {v : Json}
    (h : readDocument t = .ok v) : v.isReadable = true := by
  rw [readDocument] at h
  split at h
  · cases h
  · rename_i v' rest hread
    split at h
    · cases h
      exact ((givesReadable _).value _ _ (ht.of_subset (skipGap_subset t)) v rest hread).1
    · cases h

/-- The value of a document that is a text without surrogates is readable. -/
theorem isReadable_read {t : Text} (ht : t.Plain) {v : Json} (h : read t = .ok v) :
    v.isReadable = true := by
  rw [read.eq_def, located_eq_ok_iff] at h
  split at h
  · split at h
    · cases h
    · exact isReadable_readDocument ht h
  · exact isReadable_readDocument ht h

end Json

end BenefitForm
