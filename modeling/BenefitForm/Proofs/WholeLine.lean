import BenefitForm.Proofs.PatternEnds

/-!
# Patterns of whole lines

A pattern of code points and runs of code points, between the anchors of the start of
a text and of its last line end, describes rows: texts made of stretches of one kind
of code points each. The last line end of a text is its end, or the place before a
line feed that ends it. So the pattern is found in each such row and, besides, in each
such row with a line feed after it.

- `Stretch.Row`: the texts that are made of stretches.
- `LinePart.leads_iff`, `Pattern.mem_ends_wholeLine_iff`: where parts lead, and where they end
  between the anchors.
- `Pattern.search_wholeLine_iff`: the texts in which such a pattern is found.
-/

namespace BenefitForm

/-! ### Rows of code points -/

/-- So many code points of one kind, one after another. -/
structure Stretch where
  /-- Which code points may stand there. -/
  kind : CodePoint → Bool
  /-- The least length. -/
  least : Nat
  /-- The greatest length, where there is one. -/
  most? : Option Nat

namespace Stretch

/-- Whether a text is such a stretch. -/
def Fits (s : Stretch) (w : Text) : Prop :=
  (∀ x ∈ w, s.kind x = true) ∧ s.least ≤ w.length ∧ ∀ most ∈ s.most?, w.length ≤ most

/-- Whether a text is made of stretches, one after another. -/
def Row : List Stretch → Text → Prop
  | [], t => t = []
  | s :: row, t => ∃ u v, t = u ++ v ∧ s.Fits u ∧ Row row v

/-- So many code points of one kind. -/
def times (n : Nat) (kind : CodePoint → Bool) : Stretch := ⟨kind, n, some n⟩

/-- One code point. -/
def only (c : Char) : Stretch := times 1 fun x => x == CodePoint.ofChar c

end Stretch

/-! ### Patterns of whole lines -/

/-- A part of a pattern for whole lines: a code point, or a run of code points. -/
inductive LinePart where
  | point (s : PointSet)
  | run (s : PointSet) (least : Nat) (most? : Option Nat)

namespace LinePart

/-- The part as a pattern. -/
def pattern : LinePart → Pattern
  | point s => .one s .exact
  | run s least most? => .repeated (.one s .exact) least most? .longest

/-- What the part describes. -/
def stretch : LinePart → Stretch
  | point s => .times 1 fun x => s.holds .exact x
  | run s least most? => ⟨fun x => s.holds .exact x, least, most?⟩

theorem forward_pattern (part : LinePart) : part.pattern.Forward := by
  cases part with
  | point s => exact Pattern.forward_one s .exact
  | run s least most? => exact Pattern.forward_run s .exact least most?

/-- A part ends after each text that it describes. -/
theorem mem_ends_iff {part : LinePart} {c d : Cursor} :
    d ∈ part.pattern.ends c ↔ ∃ w, c.Over w d ∧ part.stretch.Fits w := by
  cases part with
  | run s least most? => exact Pattern.mem_ends_run_iff
  | point s =>
    refine Pattern.mem_ends_one_iff.trans ?_
    constructor
    · rintro ⟨x, hover, hx⟩
      refine ⟨[x], hover, ?_, le_refl 1, ?_⟩
      · exact List.forall_mem_singleton.mpr hx
      · rintro _ ⟨⟩
        exact le_refl 1
    · rintro ⟨w, hover, hall, hleast, hmost⟩
      obtain ⟨x, rfl⟩ := List.length_eq_one_iff.mp (le_antisymm (hmost 1 rfl) hleast)
      exact ⟨x, hover, hall x List.mem_cons_self⟩

/-- Parts lead over the rows that they describe. -/
theorem leads_iff {parts : List LinePart} {c d : Cursor} :
    Pattern.Leads (parts.map pattern) c d ↔
      ∃ w, c.Over w d ∧ Stretch.Row (parts.map stretch) w := by
  induction parts generalizing c with
  | nil =>
    constructor
    · rintro rfl
      exact ⟨[], .refl c, rfl⟩
    · rintro ⟨_, hover, rfl⟩
      exact (Cursor.Over.refl c).eq_of_length hover rfl
  | cons part parts ih =>
    constructor
    · rintro ⟨e, he, hrest⟩
      obtain ⟨u, hu, hfits⟩ := mem_ends_iff.mp he
      obtain ⟨v, hv, hrow⟩ := ih.mp hrest
      exact ⟨u ++ v, hu.trans hv, u, v, rfl, hfits, hrow⟩
    · rintro ⟨_, hover, u, v, rfl, hfits, hrow⟩
      -- the place between the first stretch and the others
      have hbetween : c.Over u ⟨c.position + u.length, u.reverse ++ c.passed, v ++ d.rest,
          c.marks⟩ := ⟨rfl, rfl, hover.rest.trans (List.append_assoc ..), rfl⟩
      refine ⟨_, mem_ends_iff.mpr ⟨u, hbetween, hfits⟩, ih.mpr ⟨v, ?_, hrow⟩⟩
      exact {
        position := by rw [hover.position, List.length_append, Nat.add_assoc]
        passed := by rw [hover.passed, List.reverse_append, List.append_assoc]
        rest := rfl
        marks := hover.marks }

end LinePart

/-- The end of a line. -/
def lineFeed : CodePoint := CodePoint.ofChar '\n'

namespace Pattern

/-- Parts between the start of a text and its last line end. -/
def wholeLine (parts : List LinePart) : Pattern :=
  ofSequence (.anchor .textStart :: (parts.map LinePart.pattern ++ [.anchor .lastLineEnd]))

/-- The last line end of a text is its end, or the place before its last line feed. -/
theorem lastLineEnd_iff {c : Cursor} :
    Anchor.holds c .lastLineEnd = true ↔ c.rest = [] ∨ c.rest = [lineFeed] := by
  rw [Anchor.holds, Bool.or_eq_true, List.isEmpty_iff, beq_iff_eq]
  rfl

theorem forward_of_mem_wholeLine {parts : List LinePart} {p : Pattern}
    (hp : p ∈ .anchor .textStart :: (parts.map LinePart.pattern ++ [.anchor .lastLineEnd])) :
    p.Forward := by
  rcases List.mem_cons.mp hp with rfl | hp
  · exact forward_anchor .textStart
  · rcases List.mem_append.mp hp with hp | hp
    · obtain ⟨part, -, rfl⟩ := List.mem_map.mp hp
      exact part.forward_pattern
    · rw [List.mem_singleton.mp hp]
      exact forward_anchor .lastLineEnd

/-- A pattern for whole lines begins at the start of a text only, and ends after each of its rows that
is followed by a last line end. -/
theorem mem_ends_wholeLine_iff {parts : List LinePart} {c d : Cursor} :
    d ∈ (wholeLine parts).ends c ↔ c.passed = [] ∧
      ∃ w, c.Over w d ∧ Stretch.Row (parts.map LinePart.stretch) w ∧
        (d.rest = [] ∨ d.rest = [lineFeed]) := by
  rw [wholeLine, mem_ends_ofSequence_iff fun p => forward_of_mem_wholeLine]
  constructor
  · rintro ⟨e, he, hrest⟩
    obtain ⟨hstart, rfl⟩ := mem_ends_anchor_iff.mp he
    obtain ⟨f, hparts, hlast⟩ := leads_append_iff.mp hrest
    obtain ⟨hend, rfl⟩ := mem_ends_anchor_iff.mp (leads_singleton_iff.mp hlast)
    obtain ⟨w, hover, hrow⟩ := LinePart.leads_iff.mp hparts
    exact ⟨List.isEmpty_iff.mp hstart, w, hover, hrow, lastLineEnd_iff.mp hend⟩
  · rintro ⟨hstart, w, hover, hrow, hend⟩
    refine ⟨c, mem_ends_anchor_iff.mpr ⟨List.isEmpty_iff.mpr hstart, rfl⟩,
      leads_append_iff.mpr ⟨d, LinePart.leads_iff.mpr ⟨w, hover, hrow⟩, ?_⟩⟩
    exact leads_singleton_iff.mpr (mem_ends_anchor_iff.mpr ⟨lastLineEnd_iff.mpr hend, rfl⟩)

/-- A pattern for whole lines is found in the rows that its parts describe, and in each of these with
a line feed after it. -/
theorem search_wholeLine_iff (parts : List LinePart) (t : Text) :
    (wholeLine parts).search t = true ↔
      ∃ w, Stretch.Row (parts.map LinePart.stretch) w ∧ (t = w ∨ t = w ++ [lineFeed]) := by
  have hlater : ∀ c : Cursor, c.passed ≠ [] → (wholeLine parts).ends c = [] := fun c hc =>
    List.eq_nil_iff_forall_not_mem.mpr fun d hd => hc (mem_ends_wholeLine_iff.mp hd).1
  rw [search_iff hlater]
  simp only [mem_ends_wholeLine_iff]
  constructor
  · rintro ⟨d, -, w, hover, hrow, hend⟩
    refine ⟨w, hrow, ?_⟩
    -- nothing or a line feed is left after the row
    have htext : t = w ++ d.rest := hover.rest
    rcases hend with hend | hend
    · rw [hend, List.append_nil] at htext
      exact .inl htext
    · rw [hend] at htext
      exact .inr htext
  · rintro ⟨w, hrow, rfl | rfl⟩
    · exact ⟨⟨0 + t.length, t.reverse ++ [], [], []⟩, rfl, t,
        ⟨rfl, rfl, (List.append_nil t).symm, rfl⟩, hrow, .inl rfl⟩
    · exact ⟨⟨0 + w.length, w.reverse ++ [], [lineFeed], []⟩, rfl, w, ⟨rfl, rfl, rfl, rfl⟩, hrow,
        .inr rfl⟩

end Pattern

end BenefitForm
