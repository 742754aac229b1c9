import BenefitForm.Proofs.Plan
import BenefitForm.Proofs.ReadBack

/-!
# What a readable label keeps

Making a label readable is done part by part, the parts being what stands between the
slashes without the blanks around it. A part is written in two steps, spaces before
capitals and capitals at the beginnings of words. Neither step touches the ends of a
part in a way that `Text.strip` would see, and the second one makes no place for a
further space, since it writes a capital only where no letter precedes. So a part that
was written once stays as it is, and of what stands in it only the spaces and the case
of ASCII letters are new.

- `Label.parts_join`: the parts of labels that are joined are the parts of each.
- `Label.humanizePart_humanizePart`, `Label.letters_humanizePart`: one part.
- `Label.humanize_by_parts`: whole labels, and the titles of document fields.
-/

namespace BenefitForm

/-! ### Cutting and joining -/

namespace Text

theorem splitOn_eq (sep : CodePoint) (t : Text) : splitOn sep t = List.splitOn sep t := by
  induction t with
  | nil => rfl
  | cons c t ih =>
    obtain ⟨part, rest, hparts⟩ := List.exists_cons_of_ne_nil (List.splitOn_ne_nil sep t)
    rw [hparts, splitOn] at ih
    rw [List.splitOn_cons_eq_if_modifyHead, hparts, List.modifyHead_cons, splitOn, List.foldr_cons,
      ih]
    simp only [beq_iff_eq]

theorem join_eq_intercalate (sep : Text) (ts : List Text) : join sep ts = sep.intercalate ts := by
  induction ts with
  | nil => rfl
  | cons t ts ih =>
    cases ts with
    | nil => exact List.intercalate_singleton.symm
    | cons u ts =>
      rw [List.intercalate_cons_cons, ← ih]
      rfl

/-- The parts of a text between one separator make up the text. -/
theorem join_splitOn (sep : CodePoint) (t : Text) : join [sep] (splitOn sep t) = t := by
  rw [join_eq_intercalate, splitOn_eq]
  exact List.intercalate_splitOn sep

theorem splitOn_cons_of_ne {sep c : CodePoint} (h : c ≠ sep) (t : Text) :
    splitOn sep (c :: t) = (splitOn sep t).modifyHead (c :: ·) := by
  rw [splitOn_eq, splitOn_eq, List.splitOn_cons_eq_if_modifyHead, if_neg (by simpa using h)]

theorem splitOn_cons_self (sep : CodePoint) (t : Text) :
    splitOn sep (sep :: t) = [] :: splitOn sep t := by
  rw [splitOn_eq, splitOn_eq, List.splitOn_cons_eq_if_modifyHead, if_pos (beq_self_eq_true sep)]

theorem splitOn_ne_nil (sep : CodePoint) (t : Text) : splitOn sep t ≠ [] := by
  rw [splitOn_eq]
  exact List.splitOn_ne_nil sep t

/-- No part holds the separator. -/
theorem not_mem_of_mem_splitOn {sep : CodePoint} {t part : Text} (h : part ∈ splitOn sep t) :
    sep ∉ part := by
  induction t generalizing part with
  | nil =>
    rw [List.mem_singleton.mp h]
    exact List.not_mem_nil
  | cons c t ih =>
    by_cases hc : c = sep
    · subst hc
      rw [splitOn_cons_self] at h
      rcases List.mem_cons.mp h with rfl | hrest
      · exact List.not_mem_nil
      · exact ih hrest
    · rw [splitOn_cons_of_ne hc] at h
      obtain ⟨first, rest, hparts⟩ := List.exists_cons_of_ne_nil (splitOn_ne_nil sep t)
      rw [hparts, List.modifyHead_cons] at h
      rcases List.mem_cons.mp h with rfl | hrest
      · have hfirst : sep ∉ first := ih (hparts ▸ List.mem_cons_self)
        exact List.not_mem_cons_of_ne_of_not_mem (Ne.symm hc) hfirst
      · exact ih (hparts ▸ List.mem_cons_of_mem first hrest)

/-- One more code point at the end belongs to the last part. -/
theorem exists_splitOn_concat {sep c : CodePoint} (hc : c ≠ sep) (t : Text) :
    ∃ parts last, splitOn sep t = parts ++ [last] ∧
      splitOn sep (t ++ [c]) = parts ++ [last ++ [c]] := by
  induction t with
  | nil => exact ⟨[], [], rfl, splitOn_cons_of_ne hc []⟩
  | cons d t ih =>
    obtain ⟨parts, last, ht, htc⟩ := ih
    rw [List.cons_append]
    by_cases hd : d = sep
    · subst hd
      rw [splitOn_cons_self, splitOn_cons_self, ht, htc]
      exact ⟨[] :: parts, last, rfl, rfl⟩
    · rw [splitOn_cons_of_ne hd, splitOn_cons_of_ne hd, ht, htc]
      cases parts with
      | nil => exact ⟨[], d :: last, rfl, rfl⟩
      | cons part parts => exact ⟨(d :: part) :: parts, last, rfl, rfl⟩

@[simp] theorem join_cons_cons (sep t u : Text) (us : List Text) :
    join sep (t :: u :: us) = t ++ sep ++ join sep (u :: us) := rfl

theorem join_ne_nil (sep : Text) {ts : List Text} {t : Text} (ht : t ∈ ts) (hne : t ≠ []) :
    join sep ts ≠ [] := by
  induction ts with
  | nil => cases ht
  | cons u us ih =>
    cases us with
    | nil =>
      rw [List.mem_singleton.mp ht] at hne
      exact hne
    | cons v vs =>
      rw [join_cons_cons]
      rcases List.mem_cons.mp ht with rfl | hrest
      · simp [hne]
      · exact List.append_ne_nil_of_right_ne_nil _ (ih hrest)

theorem join_append (sep : Text) {ts us : List Text} (hts : ts ≠ []) (hus : us ≠ []) :
    join sep (ts ++ us) = join sep ts ++ sep ++ join sep us := by
  induction ts with
  | nil => exact absurd rfl hts
  | cons t ts ih =>
    cases ts with
    | nil =>
      obtain ⟨u, us, rfl⟩ := List.exists_cons_of_ne_nil hus
      rfl
    | cons t' ts =>
      rw [List.cons_append, List.cons_append, join_cons_cons, ← List.cons_append,
        ih (List.cons_ne_nil t' ts), join_cons_cons]
      simp only [List.append_assoc]

/-- Joining what was joined group by group joins all. -/
theorem join_flatMap {α : Type} (sep : Text) (f : α → List Text) {as : List α}
    (hf : ∀ a ∈ as, f a ≠ []) :
    join sep (as.flatMap f) = join sep (as.map fun a => join sep (f a)) := by
  induction as with
  | nil => rfl
  | cons a as ih =>
    obtain ⟨ha, hrest⟩ := List.forall_mem_cons.mp hf
    cases as with
    | nil => simp [join]
    | cons b as =>
      have hne : (b :: as).flatMap f ≠ [] := by
        rw [List.flatMap_cons]
        exact List.append_ne_nil_of_left_ne_nil (hrest b List.mem_cons_self) _
      rw [List.flatMap_cons, join_append sep ha hne, ih hrest]
      rfl

/-! ### Blanks at the ends -/

theorem strip_cons {c : CodePoint} (hc : c.isBlank = true) (t : Text) :
    strip (c :: t) = strip t := by
  rw [strip, strip, stripLeft, stripLeft, List.dropWhile_cons_of_pos hc]

theorem strip_concat {c : CodePoint} (hc : c.isBlank = true) (t : Text) :
    strip (t ++ [c]) = strip t := by
  induction t with
  | nil => exact strip_cons hc []
  | cons d t ih =>
    by_cases hd : d.isBlank = true
    · rw [List.cons_append, strip_cons hd, strip_cons hd, ih]
    · -- a first code point that stays leaves the end to be looked at
      rw [List.cons_append, strip, strip, stripLeft, stripLeft, List.dropWhile_cons_of_neg hd,
        List.dropWhile_cons_of_neg hd]
      exact List.rdropWhile_concat_pos CodePoint.isBlank (d :: t) c hc

/-- Whether a text has no blank at its ends. -/
def Trimmed (t : Text) : Prop :=
  (t.map CodePoint.isBlank).head? ≠ some true ∧ (t.map CodePoint.isBlank).getLast? ≠ some true

theorem trimmed_strip (t : Text) : t.strip.Trimmed := by
  have hinit : t.strip <+: t.stripLeft := List.rdropWhile_prefix CodePoint.isBlank t.stripLeft
  rw [Trimmed, List.head?_map, List.getLast?_map]
  constructor
  · intro h
    obtain ⟨c, hc, hblank⟩ := Option.map_eq_some_iff.mp h
    have hfirst : (t.dropWhile CodePoint.isBlank).head? = some c := by
      obtain ⟨rest, hrest⟩ := hinit
      rw [← stripLeft, ← hrest, List.head?_append, hc, Option.some_or]
    have hnot := List.head?_dropWhile_not CodePoint.isBlank t
    rw [hfirst] at hnot
    exact Bool.false_ne_true (hnot.symm.trans hblank)
  · intro h
    obtain ⟨c, hc, hblank⟩ := Option.map_eq_some_iff.mp h
    obtain ⟨hne, rfl⟩ := List.mem_getLast?_eq_getLast hc
    exact List.rdropWhile_last_not CodePoint.isBlank t.stripLeft hne hblank

theorem Trimmed.strip_eq {t : Text} (h : t.Trimmed) : t.strip = t := by
  obtain ⟨hfirst, hlast⟩ := h
  have hleft : t.stripLeft = t := by
    cases t with
    | nil => rfl
    | cons c t => exact List.dropWhile_cons_of_neg fun hc => hfirst (congrArg some hc)
  have hright : List.rdropWhile CodePoint.isBlank t = t := by
    rw [List.rdropWhile_eq_self_iff]
    intro hne hblank
    rw [List.getLast?_map, List.getLast?_eq_getLast_of_ne_nil hne] at hlast
    exact hlast (congrArg some hblank)
  rw [strip, hleft]
  exact hright

end Text

/-! ### The two steps of writing a part -/

namespace CodePoint

/-- Small letters for `A` to `Z`; every other code point is its own small letter. -/
def asciiLower (c : CodePoint) : CodePoint := if c.isAsciiUpper then ofNat (c.val + 0x20) else c

theorem isBlank_of_isAsciiWord {c : CodePoint} (h : c.isAsciiWord = true) : c.isBlank = false := by
  simp only [isAsciiWord, isAsciiLower, isAsciiUpper, isAsciiDigit, Bool.or_eq_true,
    Bool.and_eq_true, decide_eq_true_eq, beq_iff_eq] at h
  simp only [isBlank, inRanges, blankRanges, List.any_cons, List.any_nil, Bool.or_eq_false_iff,
    Bool.and_eq_false_iff, decide_eq_false_iff_not, and_true]
  omega

theorem isAsciiWord_of_isAsciiLower {c : CodePoint} (h : c.isAsciiLower = true) :
    c.isAsciiWord = true := by
  rw [isAsciiWord, h]
  rfl

theorem isAsciiWord_of_isAsciiUpper {c : CodePoint} (h : c.isAsciiUpper = true) :
    c.isAsciiWord = true := by
  rw [isAsciiWord, h, Bool.or_true]
  rfl

theorem asciiUpper_of_not {c : CodePoint} (h : c.isAsciiLower = false) : c.asciiUpper = c :=
  if_neg (h ▸ Bool.false_ne_true)

/-- The capital of a small letter is the one that has the letter for its small one. -/
theorem asciiUpper_of_isAsciiLower {c : CodePoint} (h : c.isAsciiLower = true) :
    c.asciiUpper.isAsciiUpper = true ∧ c.asciiUpper.asciiLower = c := by
  have hbounds := h
  simp only [isAsciiLower, Bool.and_eq_true, decide_eq_true_eq] at hbounds
  have hval : c.asciiUpper.val = c.val - 0x20 := by
    rw [asciiUpper, if_pos h, val_ofNat (by omega)]
  have hupper : c.asciiUpper.isAsciiUpper = true := by
    simp only [isAsciiUpper, hval, Bool.and_eq_true, decide_eq_true_eq]
    omega
  refine ⟨hupper, ?_⟩
  rw [asciiLower, if_pos hupper, hval, Nat.sub_add_cancel (by omega), ofNat_val]

theorem not_isAsciiUpper_of_isAsciiLower {c : CodePoint} (h : c.isAsciiLower = true) :
    c.isAsciiUpper = false := by
  simp only [isAsciiLower, Bool.and_eq_true, decide_eq_true_eq] at h
  simp only [isAsciiUpper, Bool.and_eq_false_iff, decide_eq_false_iff_not]
  omega

/-- No code point is its own capital and a small letter. -/
theorem isAsciiLower_asciiUpper (c : CodePoint) : c.asciiUpper.isAsciiLower = false := by
  by_cases h : c.isAsciiLower = true
  · by_contra hlower
    rw [Bool.not_eq_false] at hlower
    exact Bool.false_ne_true
      ((not_isAsciiUpper_of_isAsciiLower hlower).symm.trans (asciiUpper_of_isAsciiLower h).1)
  · rw [Bool.not_eq_true] at h
    rw [asciiUpper_of_not h, h]

theorem asciiUpper_asciiUpper (c : CodePoint) : c.asciiUpper.asciiUpper = c.asciiUpper :=
  asciiUpper_of_not (isAsciiLower_asciiUpper c)

theorem asciiLower_asciiUpper (c : CodePoint) : c.asciiUpper.asciiLower = c.asciiLower := by
  by_cases h : c.isAsciiLower = true
  · rw [(asciiUpper_of_isAsciiLower h).2, asciiLower,
      if_neg (not_isAsciiUpper_of_isAsciiLower h ▸ Bool.false_ne_true)]
  · rw [asciiUpper_of_not (Bool.eq_false_iff.mpr h)]

theorem isAsciiWord_asciiUpper (c : CodePoint) : c.asciiUpper.isAsciiWord = c.isAsciiWord := by
  by_cases h : c.isAsciiLower = true
  · rw [isAsciiWord_of_isAsciiLower h,
      isAsciiWord_of_isAsciiUpper (asciiUpper_of_isAsciiLower h).1]
  · rw [asciiUpper_of_not (Bool.eq_false_iff.mpr h)]

theorem isBlank_asciiUpper (c : CodePoint) : c.asciiUpper.isBlank = c.isBlank := by
  by_cases h : c.isAsciiLower = true
  · rw [isBlank_of_isAsciiWord (isAsciiWord_of_isAsciiLower h), isBlank_of_isAsciiWord
      (isAsciiWord_of_isAsciiUpper (asciiUpper_of_isAsciiLower h).1)]
  · rw [asciiUpper_of_not (Bool.eq_false_iff.mpr h)]

end CodePoint

namespace Label

/-- Whether no space belongs between two code points. -/
def Together (c d : CodePoint) : Prop := (c.isAsciiLower && d.isAsciiUpper) = false

theorem exists_separateWords_cons (c : CodePoint) (t : Text) :
    ∃ rest, separateWords (c :: t) = c :: rest := by
  cases t with
  | nil => exact ⟨[], rfl⟩
  | cons d t =>
    rw [separateWords]
    split
    · exact ⟨_, rfl⟩
    · exact ⟨_, rfl⟩

/-- After the spaces are set none belongs anywhere. -/
theorem isChain_separateWords (t : Text) : (separateWords t).IsChain Together := by
  fun_induction separateWords t
  case case1 => exact .nil
  case case2 c => exact .singleton c
  case case3 c d rest hboundary ih =>
    obtain ⟨tail, htail⟩ := exists_separateWords_cons d rest
    rw [htail] at ih ⊢
    exact .cons_cons (Bool.and_false _) (.cons_cons (Bool.false_and _) ih)
  case case4 c d rest hboundary ih =>
    obtain ⟨tail, htail⟩ := exists_separateWords_cons d rest
    rw [htail] at ih ⊢
    exact .cons_cons (Bool.eq_false_iff.mpr hboundary) ih

theorem separateWords_of_isChain {t : Text} (h : t.IsChain Together) : separateWords t = t := by
  fun_induction separateWords t
  case case1 => rfl
  case case2 => rfl
  case case3 c d rest hboundary ih =>
    cases h with
    | cons_cons hfirst _ => exact absurd hboundary (hfirst ▸ Bool.false_ne_true)
  case case4 c d rest hboundary ih =>
    cases h with
    | cons_cons _ hrest => rw [ih hrest]

/-- Capitals at the beginnings of words make no place for a space. -/
theorem isChain_capitalizeFrom {t : Text} (h : t.IsChain Together) (inWord : Bool) :
    (capitalizeFrom inWord t).IsChain Together := by
  -- along the chain, whatever stands before it
  induction h generalizing inWord with
  | nil => exact .nil
  | singleton c => exact .singleton _
  | @cons_cons c d rest hfirst _ ih =>
    refine .cons_cons ?_ (ih c.isAsciiWord)
    cases inWord with
    | false =>
      rw [if_neg Bool.false_ne_true, Together, CodePoint.isAsciiLower_asciiUpper, Bool.false_and]
    | true =>
      rw [if_pos rfl, Together]
      by_cases hc : c.isAsciiLower = true
      · -- what follows a letter stays as it is
        rwa [CodePoint.isAsciiWord_of_isAsciiLower hc, if_pos rfl]
      · rw [Bool.eq_false_iff.mpr hc, Bool.false_and]

theorem capitalizeFrom_capitalizeFrom (inWord : Bool) (t : Text) :
    capitalizeFrom inWord (capitalizeFrom inWord t) = capitalizeFrom inWord t := by
  induction t generalizing inWord with
  | nil => rfl
  | cons c t ih =>
    cases inWord with
    | false =>
      simp only [capitalizeFrom, Bool.false_eq_true, if_false, CodePoint.asciiUpper_asciiUpper,
        CodePoint.isAsciiWord_asciiUpper, ih]
    | true => simp only [capitalizeFrom, if_true, ih]

/-- Separating words leaves the ends of a part as they are. -/
theorem ends_separateWords (t : Text) :
    (separateWords t).head? = t.head? ∧ (separateWords t).getLast? = t.getLast? := by
  fun_induction separateWords t
  case case1 => exact ⟨rfl, rfl⟩
  case case2 => exact ⟨rfl, rfl⟩
  case case3 c d rest _ ih =>
    obtain ⟨tail, htail⟩ := exists_separateWords_cons d rest
    rw [htail] at ih ⊢
    exact ⟨rfl, by simpa only [List.getLast?_cons_cons] using ih.2⟩
  case case4 c d rest _ ih =>
    obtain ⟨tail, htail⟩ := exists_separateWords_cons d rest
    rw [htail] at ih ⊢
    exact ⟨rfl, by simpa only [List.getLast?_cons_cons] using ih.2⟩

theorem trimmed_separateWords {t : Text} (h : t.Trimmed) : (separateWords t).Trimmed := by
  obtain ⟨hhead, hlast⟩ := ends_separateWords t
  rw [Text.Trimmed, List.head?_map, List.getLast?_map] at h ⊢
  rwa [hhead, hlast]

theorem map_isBlank_capitalizeFrom (inWord : Bool) (t : Text) :
    (capitalizeFrom inWord t).map CodePoint.isBlank = t.map CodePoint.isBlank := by
  induction t generalizing inWord with
  | nil => rfl
  | cons c t ih =>
    rw [capitalizeFrom, List.map_cons, List.map_cons, ih]
    cases inWord with
    | false => rw [if_neg Bool.false_ne_true, CodePoint.isBlank_asciiUpper]
    | true => rw [if_pos rfl]

theorem trimmed_capitalizeFrom {t : Text} (h : t.Trimmed) (inWord : Bool) :
    (capitalizeFrom inWord t).Trimmed := by
  rwa [Text.Trimmed, map_isBlank_capitalizeFrom]

/-- A part that was written is written as it is. -/
theorem humanizePart_humanizePart (t : Text) : humanizePart (humanizePart t) = humanizePart t := by
  have htrimmed : (humanizePart t).Trimmed :=
    trimmed_capitalizeFrom (trimmed_separateWords t.trimmed_strip) false
  have hchain : (humanizePart t).IsChain Together :=
    isChain_capitalizeFrom (isChain_separateWords t.strip) false
  rw [humanizePart, htrimmed.strip_eq, separateWords_of_isChain hchain]
  exact capitalizeFrom_capitalizeFrom false (separateWords t.strip)

/-! ### What a label says -/

/-- What a label says apart from blanks and the case of ASCII letters. -/
def letters (t : Text) : Text := (t.filter fun c => !c.isBlank).map CodePoint.asciiLower

theorem letters_append (t u : Text) : letters (t ++ u) = letters t ++ letters u := by
  rw [letters, List.filter_append, List.map_append]
  rfl

theorem letters_cons (c : CodePoint) (t : Text) :
    letters (c :: t) = (if c.isBlank then [] else [c.asciiLower]) ++ letters t := by
  rw [letters, List.filter_cons]
  cases c.isBlank <;> rfl

theorem filter_dropWhile_isBlank (t : Text) :
    (t.dropWhile CodePoint.isBlank).filter (fun c => !c.isBlank)
      = t.filter fun c => !c.isBlank := by
  induction t with
  | nil => rfl
  | cons c t ih =>
    by_cases hc : c.isBlank = true
    · rw [List.dropWhile_cons_of_pos hc, ih, List.filter_cons_of_neg (by simp [hc])]
    · rw [List.dropWhile_cons_of_neg hc]

theorem letters_strip (t : Text) : letters t.strip = letters t := by
  rw [letters, Text.strip, Text.stripRight, Text.stripLeft, List.filter_reverse,
    filter_dropWhile_isBlank, List.filter_reverse, List.reverse_reverse, filter_dropWhile_isBlank]
  rfl

theorem letters_separateWords (t : Text) : letters (separateWords t) = letters t := by
  fun_induction separateWords t
  case case1 => rfl
  case case2 => rfl
  case case3 c d rest _ ih =>
    rw [letters_cons, letters_cons, ih, letters_cons c]
    rfl
  case case4 c d rest _ ih => rw [letters_cons, ih, letters_cons c]

theorem letters_capitalizeFrom (inWord : Bool) (t : Text) :
    letters (capitalizeFrom inWord t) = letters t := by
  induction t generalizing inWord with
  | nil => rfl
  | cons c t ih =>
    rw [capitalizeFrom, letters_cons, letters_cons, ih]
    cases inWord with
    | false =>
      rw [if_neg Bool.false_ne_true, CodePoint.isBlank_asciiUpper, CodePoint.asciiLower_asciiUpper]
    | true => rw [if_pos rfl]

theorem letters_humanizePart (t : Text) : letters (humanizePart t) = letters t := by
  rw [humanizePart, letters_capitalizeFrom, letters_separateWords, letters_strip]

/-- A slash is neither a blank nor a letter. -/
theorem slash_mem_letters_iff {t : Text} :
    CodePoint.ofChar '/' ∈ letters t ↔ CodePoint.ofChar '/' ∈ t := by
  have hlower : ∀ c : CodePoint,
      c.asciiLower = CodePoint.ofChar '/' ↔ c = CodePoint.ofChar '/' := by
    intro c
    rw [CodePoint.asciiLower]
    split
    · rename_i hupper
      simp only [CodePoint.isAsciiUpper, Bool.and_eq_true, decide_eq_true_eq] at hupper
      constructor
      · intro h
        have hval : c.val + 0x20 = 0x2F := by
          have := congrArg CodePoint.val h
          rwa [CodePoint.val_ofNat (by omega)] at this
        omega
      · rintro rfl
        exact absurd hupper (by decide)
    · exact Iff.rfl
  simp only [letters, List.mem_map, List.mem_filter, hlower]
  constructor
  · rintro ⟨c, ⟨hc, -⟩, rfl⟩
    exact hc
  · intro h
    exact ⟨_, ⟨h, by decide⟩, rfl⟩

theorem letters_join (sep : Text) (ts : List Text) :
    letters (Text.join sep ts) = Text.join (letters sep) (ts.map letters) := by
  induction ts with
  | nil => rfl
  | cons t ts ih =>
    cases ts with
    | nil => rfl
    | cons u ts =>
      rw [Text.join_cons_cons, letters_append, letters_append, ih]
      rfl

/-! ### Whole labels -/

/-- The parts of a label: what stands between the slashes, without the blanks around it. -/
def parts (label : Text) : List Text := (Text.splitOn '/' label).map Text.strip

/-- What stands between the parts of a readable label. -/
def partSeparator : Text := Text.ofString " / "

theorem parts_ne_nil (label : Text) : parts label ≠ [] :=
  mt List.map_eq_nil_iff.mp (Text.splitOn_ne_nil '/' label)

theorem parts_append (t u : Text) : parts (t ++ partSeparator ++ u) = parts t ++ parts u := by
  have hspace : (CodePoint.ofChar ' ') ≠ CodePoint.ofChar '/' := by decide
  obtain ⟨before, last, ht, hconcat⟩ := Text.exists_splitOn_concat hspace t
  obtain ⟨first, rest, hu⟩ := List.exists_cons_of_ne_nil (Text.splitOn_ne_nil '/' u)
  -- the spaces of the separator go to the last part of `t` and to the first of `u`
  have hsplit : Text.splitOn '/' (t ++ partSeparator ++ u)
      = before ++ [last ++ [CodePoint.ofChar ' ']] ++ (CodePoint.ofChar ' ' :: first) :: rest := by
    have happend : t ++ partSeparator ++ u
        = (t ++ [CodePoint.ofChar ' ']) ++ CodePoint.ofChar '/' :: CodePoint.ofChar ' ' :: u := by
      simp [partSeparator, Text.ofString]
    rw [happend, Text.splitOn_eq, List.splitOn_append_cons_self, ← Text.splitOn_eq,
      ← Text.splitOn_eq, hconcat, Text.splitOn_cons_of_ne hspace, hu, List.modifyHead_cons]
  have hblank : (CodePoint.ofChar ' ').isBlank = true := by decide
  simp only [parts, hsplit, ht, hu, List.map_append, List.map_cons, List.map_nil,
    Text.strip_concat hblank, Text.strip_cons hblank]

/-- The parts of labels that are joined are the parts of each. -/
theorem parts_join {labels : List Text} (h : labels ≠ []) :
    parts (Text.join partSeparator labels) = labels.flatMap parts := by
  induction labels with
  | nil => exact absurd rfl h
  | cons t ts ih =>
    cases ts with
    | nil => simp [Text.join]
    | cons u ts =>
      rw [Text.join_cons_cons, parts_append, ih (List.cons_ne_nil u ts)]
      rfl

theorem humanizePart_strip (t : Text) : humanizePart t.strip = humanizePart t := by
  rw [humanizePart, t.trimmed_strip.strip_eq]
  rfl

theorem humanize_eq (label : Text) :
    humanize label = Text.join partSeparator ((parts label).map humanizePart) := by
  rw [parts, List.map_map]
  exact congrArg _ (List.map_congr_left fun t _ => (humanizePart_strip t).symm)

/-- Labels that are joined are made readable one by one. -/
theorem humanize_join (labels : List Text) :
    humanize (Text.join partSeparator labels) = Text.join partSeparator (labels.map humanize) := by
  by_cases h : labels = []
  · subst h
    rfl
  · rw [humanize_eq, parts_join h, List.map_flatMap, Text.join_flatMap partSeparator _
      fun label _ => mt List.map_eq_nil_iff.mp (parts_ne_nil label)]
    exact congrArg _ (List.map_congr_left fun label _ => (humanize_eq label).symm)

theorem slash_not_mem_of_mem_parts {label part : Text} (h : part ∈ parts label) :
    CodePoint.ofChar '/' ∉ part := by
  obtain ⟨cut, hcut, rfl⟩ := List.mem_map.mp h
  rw [← slash_mem_letters_iff, letters_strip, slash_mem_letters_iff]
  exact Text.not_mem_of_mem_splitOn hcut

/-- A label of one part is made readable as the part. -/
theorem humanize_of_not_mem {label : Text} (h : CodePoint.ofChar '/' ∉ label) :
    humanize label = humanizePart label := by
  have hsplit : Text.splitOn '/' label = [label] := by
    rw [Text.splitOn_eq]
    exact List.splitOn_eq_singleton h
  rw [humanize, hsplit]
  rfl

theorem humanize_humanize (label : Text) : humanize (humanize label) = humanize label := by
  rw [humanize_eq label, humanize_join, List.map_map]
  refine congrArg _ (List.map_congr_left fun part hpart => ?_)
  -- a part holds no slash and writing it brings none, so what is written is one part again
  have hslash : CodePoint.ofChar '/' ∉ humanizePart part := by
    rw [← slash_mem_letters_iff, letters_humanizePart, slash_mem_letters_iff]
    exact slash_not_mem_of_mem_parts hpart
  rw [Function.comp_apply, humanize_of_not_mem hslash, humanizePart_humanizePart]

theorem letters_humanize (label : Text) : letters (humanize label) = letters label := by
  have hpart : letters ∘ humanizePart = letters := funext letters_humanizePart
  have hseparator : letters partSeparator = letters [CodePoint.ofChar '/'] := by decide
  rw [humanize, letters_join, List.map_map, hpart, ← partSeparator, hseparator, ← letters_join,
    Text.join_splitOn]

end Label

/-! ### Titles of document fields -/

namespace DocumentFields

/-- The label of a field that is planned for usable rules lists its proofs, of which there are
some. -/
theorem proofLabel_of_mem_plans {rules : NormalizedRules} (h : rules.Sound)
    {ps : List DocumentPlan} (hps : plans rules = .ok ps) {plan : DocumentPlan}
    (hplan : plan ∈ ps) :
    plan.proofs ≠ [] ∧ plan.proofLabel = Text.join Label.partSeparator plan.proofs := by
  refine forall_mem_plans (Q := fun plan => plan.proofs ≠ [] ∧
    plan.proofLabel = Text.join Label.partSeparator plan.proofs) h ?_ ?_ ?_ hps plan hplan
  · intro c _ plan hplan
    have hof := Criterion.isOwn_of_mem hplan
    rw [hof.proofs]
    exact ⟨hof.nonempty, hof.proofLabel⟩
  · intro g _ types plan hmerged
    have hof := ProofGroup.isMerged_of_mergedPlan hmerged
    rw [hof.proofs]
    exact ⟨hof.nonempty, hof.proofLabel⟩
  · intro d _ proof _
    exact ⟨List.cons_ne_nil _ _, rfl⟩

end DocumentFields

/-- Making a label readable a second time changes nothing. What a label says, apart from blanks and
the case of ASCII letters, stays as it is. Labels that are joined are made readable one by one, and
so the title of a planned document field lists the readable proofs of the field. -/
theorem Label.humanize_by_parts :
    (∀ label, humanize (humanize label) = humanize label) ∧
    (∀ label, letters (humanize label) = letters label) ∧
    (∀ labels, humanize (Text.join (Text.ofString " / ") labels)
      = Text.join (Text.ofString " / ") (labels.map humanize)) ∧
    ∀ settings feed wallet rules plans, (RuleFeed.normalize feed).outcome = .ok rules →
      DocumentFields.plans rules = .ok plans → ∀ plan ∈ plans,
        (plan.property settings wallet).title = plan.title ++ Text.ofString " ("
          ++ Text.join (Text.ofString " / ") (plan.proofs.map humanize) ++ Text.ofString ")" := by
  refine ⟨humanize_humanize, letters_humanize, humanize_join, ?_⟩
  intro settings feed wallet rules plans hrules hplans plan hplan
  have hsound := RuleFeed.sound_of_normalize hrules
  obtain ⟨hproofs, hlabel⟩ := DocumentFields.proofLabel_of_mem_plans hsound hplans hplan
  obtain ⟨proof, hproof⟩ := List.exists_mem_of_ne_nil _ hproofs
  have hsome : plan.proofLabel ≠ [] := by
    rw [hlabel]
    exact Text.join_ne_nil _ hproof (DocumentFields.proof_ne_nil hsound hplans hplan hproof)
  show plan.fullTitle = _
  rw [DocumentPlan.fullTitle, if_neg (by simpa using hsome), hlabel, humanize_join]
  rfl

/-- A feed of one criterion that two proofs satisfy. -/
def twoProofs : Json :=
  .array [Json.record [("criterionName", Json.text "income"), ("allowedProofs",
    Json.ofTexts [Text.ofString "incomeCertificate", Text.ofString "salarySlip/bankStatement"])]]

/-- The title of the field of `twoProofs` lists both proofs, and the parts of the second one. -/
theorem Label.humanize_by_parts_twoProofs :
    ∃ rules plans, (RuleFeed.normalize twoProofs).outcome = .ok rules ∧
      DocumentFields.plans rules = .ok plans ∧ plans.length = 1 ∧
      ∀ plan ∈ plans, (plan.property .standard []).title = plan.title
        ++ Text.ofString " (Income Certificate / Salary Slip / Bank Statement)" := by
  have hany : ((RuleFeed.normalize twoProofs).outcome.toOption.any fun rules =>
      (DocumentFields.plans rules).toOption.any fun plans => plans.length = 1 ∧
        ∀ plan ∈ plans, Text.join (Text.ofString " / ") (plan.proofs.map humanize)
          = Text.ofString "Income Certificate / Salary Slip / Bank Statement") = true := by
    decide +kernel
  obtain ⟨rules, hrules, hany⟩ := exists_ok_of_any hany
  obtain ⟨plans, hplans, hany⟩ := exists_ok_of_any hany
  obtain ⟨hone, hproofs⟩ := of_decide_eq_true hany
  refine ⟨rules, plans, hrules, hplans, hone, fun plan hplan => ?_⟩
  obtain ⟨-, -, -, htitle⟩ := Label.humanize_by_parts
  rw [htitle .standard twoProofs [] rules plans hrules hplans plan hplan, hproofs plan hplan,
    List.append_assoc, List.append_assoc]
  rfl

end BenefitForm
