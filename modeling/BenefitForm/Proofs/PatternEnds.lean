import Mathlib
import BenefitForm.Pattern

/-!
# Where patterns that lead forward end

A pattern of single code points, runs of them and anchors leads from a place over some
text to the place after it and leaves the marks of groups alone. From one place such a
pattern reaches each position in one way only, so leaving out places that were seen
before loses none, and a sequence ends where its second part ends after an end of the
first.

- `Cursor.Over`, `Cursor.Passes`: the place after a text, and after so many code points.
- `Cursor.getElem?_run_eq_some_iff`, `Pattern.mem_ends_run_iff`: where runs end.
- `Pattern.mem_ends_ofSequence_iff`: where patterns one after another end.
- `Pattern.search_iff`: a pattern that can only begin at the start of a text.
-/

namespace BenefitForm

namespace Cursor

/-- The place `d` comes after the text `w` from the place `c`. -/
structure Over (c : Cursor) (w : Text) (d : Cursor) : Prop where
  position : d.position = c.position + w.length
  passed : d.passed = w.reverse ++ c.passed
  rest : c.rest = w ++ d.rest
  marks : d.marks = c.marks

namespace Over

variable {c d e : Cursor} {u v : Text}

theorem refl (c : Cursor) : c.Over [] c := ⟨rfl, rfl, rfl, rfl⟩

theorem trans (h : c.Over u d) (h' : d.Over v e) : c.Over (u ++ v) e where
  position := by rw [h'.position, h.position, List.length_append, Nat.add_assoc]
  passed := by rw [h'.passed, h.passed, List.reverse_append, List.append_assoc]
  rest := by rw [h.rest, h'.rest, List.append_assoc]
  marks := h'.marks.trans h.marks

/-- Two places after texts of one length are the same place. -/
theorem eq_of_length (h : c.Over u d) (h' : c.Over v e) (hlength : u.length = v.length) :
    d = e := by
  obtain ⟨huv, hrest⟩ := List.append_inj (h.rest.symm.trans h'.rest) hlength
  obtain ⟨dposition, dpassed, drest, dmarks⟩ := d
  obtain ⟨eposition, epassed, erest, emarks⟩ := e
  subst huv
  obtain rfl : dposition = eposition := h.position.trans h'.position.symm
  obtain rfl : dpassed = epassed := h.passed.trans h'.passed.symm
  obtain rfl : drest = erest := hrest
  obtain rfl : dmarks = emarks := h.marks.trans h'.marks.symm
  rfl

/-- Places after texts from one place are told apart by their keys. -/
theorem eq_of_key (h : c.Over u d) (h' : c.Over v e) (hkey : d.key = e.key) : d = e := by
  have hposition : d.position = e.position := congrArg Prod.fst hkey
  rw [h.position, h'.position] at hposition
  exact h.eq_of_length h' (Nat.add_left_cancel hposition)

/-- What is left of a text after its first code point leads on from the place after that. -/
theorem of_cons {x : CodePoint} (h : c.Over [x] d) (h' : c.Over (x :: v) e) : d.Over v e where
  position := by
    rw [h'.position, h.position, List.length_cons, List.length_singleton]
    omega
  passed := by
    rw [h'.passed, h.passed, List.reverse_cons, List.append_assoc]
    rfl
  rest := (List.cons.inj (h.rest.symm.trans h'.rest)).2
  marks := h'.marks.trans h.marks.symm

end Over

/-! ### Places that were seen before -/

/-- A place that is kept is one of those given. -/
theorem mem_of_mem_go {seen : Std.HashSet (Nat × List GroupMark)} {cs : List Cursor} {d : Cursor}
    (h : d ∈ distinct.go seen cs) : d ∈ cs := by
  induction cs generalizing seen with
  | nil => cases h
  | cons c cs ih =>
    rw [distinct.go] at h
    split at h
    · exact List.mem_cons_of_mem c (ih h)
    · rcases List.mem_cons.mp h with rfl | hrest
      · exact List.mem_cons_self
      · exact List.mem_cons_of_mem c (ih hrest)

/-- Of a place that was not seen before one with its key is kept. -/
theorem exists_mem_go {seen : Std.HashSet (Nat × List GroupMark)} {cs : List Cursor} {d : Cursor}
    (hd : d ∈ cs) (hseen : seen.contains d.key = false) :
    ∃ e ∈ distinct.go seen cs, e.key = d.key := by
  induction cs generalizing seen with
  | nil => cases hd
  | cons c cs ih =>
    rw [distinct.go]
    by_cases hc : seen.contains c.key = true
    · rw [if_pos hc]
      rcases List.mem_cons.mp hd with rfl | hrest
      · rw [hc] at hseen
        cases hseen
      · exact ih hrest hseen
    · rw [if_neg hc]
      by_cases hkey : c.key = d.key
      · exact ⟨c, List.mem_cons_self, hkey⟩
      · have hrest : d ∈ cs := (List.mem_cons.mp hd).resolve_left fun he => hkey (he ▸ rfl)
        have hunseen : (seen.insert c.key).contains d.key = false := by
          rw [Std.HashSet.contains_insert, hseen, Bool.or_false]
          exact beq_eq_false_iff_ne.mpr hkey
        obtain ⟨e, he, hek⟩ := ih hrest hunseen
        exact ⟨e, List.mem_cons_of_mem c he, hek⟩

/-- Where the keys tell the places apart, none of them is lost. -/
theorem mem_distinct_iff {cs : List Cursor}
    (hkeys : ∀ d ∈ cs, ∀ e ∈ cs, d.key = e.key → d = e) {d : Cursor} :
    d ∈ distinct cs ↔ d ∈ cs := by
  constructor
  · exact mem_of_mem_go
  · intro hd
    obtain ⟨e, he, hkey⟩ : ∃ e ∈ distinct.go {} cs, e.key = d.key :=
      exists_mem_go hd Std.HashSet.contains_empty
    obtain rfl : e = d := hkeys e (mem_of_mem_go he) d hd hkey
    exact he

/-! ### Runs -/

/-- A step leads over one code point that meets the condition. -/
theorem step?_eq_some_iff {c d : Cursor} {ok : CodePoint → Bool} :
    c.step? ok = some d ↔ ∃ x, c.Over [x] d ∧ ok x = true := by
  rw [step?]
  cases hrest : c.rest with
  | nil =>
    refine ⟨nofun, ?_⟩
    rintro ⟨x, hover, -⟩
    rw [hover.rest] at hrest
    cases hrest
  | cons y rest =>
    constructor
    · intro h
      dsimp only at h
      split at h
      · rename_i hok
        cases h
        exact ⟨y, ⟨rfl, rfl, hrest, rfl⟩, hok⟩
      · cases h
    · rintro ⟨x, hover, hx⟩
      have hnext : c.Over [y] ⟨c.position + 1, y :: c.passed, rest, c.marks⟩ :=
        ⟨rfl, rfl, hrest, rfl⟩
      obtain ⟨rfl, -⟩ := List.cons_eq_cons.mp (hrest.symm.trans hover.rest)
      dsimp only
      rw [if_pos hx, hnext.eq_of_length hover rfl]

/-- The place `d` comes after so many code points from `c` that meet the condition. -/
def Passes (ok : CodePoint → Bool) (count : Nat) (c d : Cursor) : Prop :=
  ∃ w, c.Over w d ∧ w.length = count ∧ ∀ x ∈ w, ok x = true

theorem passes_zero_iff {ok : CodePoint → Bool} {c d : Cursor} : Passes ok 0 c d ↔ c = d := by
  constructor
  · rintro ⟨w, hover, hlength, -⟩
    exact (Over.refl c).eq_of_length hover hlength.symm
  · rintro rfl
    exact ⟨[], .refl c, rfl, nofun⟩

/-- The first of the code points makes a step, and the others lead on from there. -/
theorem passes_succ_iff {ok : CodePoint → Bool} {n : Nat} {c d : Cursor} :
    Passes ok (n + 1) c d ↔ ∃ e, c.step? ok = some e ∧ Passes ok n e d := by
  constructor
  · rintro ⟨w, hover, hlength, hok⟩
    cases w with
    | nil => cases hlength
    | cons x w =>
      obtain ⟨hx, hw⟩ := List.forall_mem_cons.mp hok
      have hfirst : c.Over [x] ⟨c.position + 1, x :: c.passed, w ++ d.rest, c.marks⟩ :=
        ⟨rfl, rfl, hover.rest, rfl⟩
      exact ⟨_, step?_eq_some_iff.mpr ⟨x, hfirst, hx⟩, w, hfirst.of_cons hover,
        Nat.succ_inj.mp hlength, hw⟩
  · rintro ⟨e, hstep, w, hover, hlength, hok⟩
    obtain ⟨x, hx, hokx⟩ := step?_eq_some_iff.mp hstep
    exact ⟨x :: w, hx.trans hover, congrArg (· + 1) hlength, List.forall_mem_cons.mpr ⟨hokx, hok⟩⟩

/-- The place that a run lists at a position comes after so many code points that meet the
condition. -/
theorem getElem?_run_eq_some_iff {ok : CodePoint → Bool} {n i : Nat} {c d : Cursor} :
    (c.run ok n)[i]? = some d ↔ i ≤ n ∧ Passes ok i c d := by
  -- a run lists the place where it begins first, and after a step goes on as the shorter run
  induction n generalizing c i with
  | zero =>
    rw [run]
    cases i with
    | zero => simp [passes_zero_iff]
    | succ i => simp
  | succ n ih =>
    cases i with
    | zero =>
      rw [run]
      split <;> simp [passes_zero_iff]
    | succ i =>
      rw [run, passes_succ_iff, Nat.succ_le_succ_iff]
      cases c.step? ok with
      | none => simp
      | some e => simp [ih]

end Cursor

namespace Pattern

/-- A run of code points ends after each text of them whose length is within the bounds. -/
theorem mem_ends_run_iff {s : PointSet} {rule : CaseRule} {least : Nat} {most? : Option Nat}
    {c d : Cursor} :
    d ∈ (Pattern.repeated (.one s rule) least most? .longest).ends c ↔
      ∃ w, c.Over w d ∧ (∀ x ∈ w, s.holds rule x = true) ∧ least ≤ w.length ∧
        ∀ most ∈ most?, w.length ≤ most := by
  show d ∈ ((c.run (fun x => s.holds rule x)
    (min (most?.getD c.rest.length) c.rest.length)).drop least).reverse ↔ _
  rw [List.mem_reverse, List.mem_iff_getElem?]
  simp only [List.getElem?_drop, Cursor.getElem?_run_eq_some_iff, Cursor.Passes]
  constructor
  · rintro ⟨i, hbound, w, hover, hlength, hok⟩
    refine ⟨w, hover, hok, by omega, fun most hmost => ?_⟩
    rw [Option.mem_def] at hmost
    rw [hmost, Option.getD_some] at hbound
    omega
  · rintro ⟨w, hover, hok, hleast, hmost⟩
    have hroom : w.length ≤ c.rest.length := by
      rw [hover.rest, List.length_append]
      omega
    refine ⟨w.length - least, ?_, w, hover, by omega, hok⟩
    cases most? with
    | none =>
      rw [Option.getD_none]
      omega
    | some most =>
      have := hmost most rfl
      rw [Option.getD_some]
      omega

theorem mem_ends_one_iff {s : PointSet} {rule : CaseRule} {c d : Cursor} :
    d ∈ (Pattern.one s rule).ends c ↔ ∃ x, c.Over [x] d ∧ s.holds rule x = true := by
  show d ∈ (c.step? fun x => s.holds rule x).toList ↔ _
  rw [Option.mem_toList, Cursor.step?_eq_some_iff]

theorem mem_ends_anchor_iff {a : Anchor} {c d : Cursor} :
    d ∈ (Pattern.anchor a).ends c ↔ a.holds c = true ∧ c = d := by
  show d ∈ (if a.holds c then [c] else []) ↔ _
  split <;> simp [*, eq_comm]

/-! ### Sequences -/

/-- Whether a pattern leads over texts only. -/
def Forward (p : Pattern) : Prop := ∀ c, ∀ d ∈ p.ends c, ∃ w, c.Over w d

theorem forward_run (s : PointSet) (rule : CaseRule) (least : Nat) (most? : Option Nat) :
    (Pattern.repeated (.one s rule) least most? .longest).Forward := by
  intro c d hd
  obtain ⟨w, hover, -⟩ := mem_ends_run_iff.mp hd
  exact ⟨w, hover⟩

theorem forward_one (s : PointSet) (rule : CaseRule) : (Pattern.one s rule).Forward := by
  intro c d hd
  obtain ⟨x, hover, -⟩ := mem_ends_one_iff.mp hd
  exact ⟨[x], hover⟩

theorem forward_anchor (a : Anchor) : (Pattern.anchor a).Forward := by
  intro c d hd
  obtain ⟨-, rfl⟩ := mem_ends_anchor_iff.mp hd
  exact ⟨[], .refl c⟩

section Sequence

variable {p q : Pattern} (hp : p.Forward) (hq : q.Forward)

include hp hq

/-- What the ends of the first pattern lead to lies after texts from where that began. -/
theorem exists_over_flatMap {c d : Cursor} (hd : d ∈ (p.ends c).flatMap q.ends) :
    ∃ w, c.Over w d := by
  obtain ⟨e, he, hde⟩ := List.mem_flatMap.mp hd
  obtain ⟨u, hu⟩ := hp c e he
  obtain ⟨v, hv⟩ := hq e d hde
  exact ⟨u ++ v, hu.trans hv⟩

/-- A sequence ends where its second part ends after an end of the first. -/
theorem mem_ends_sequence_iff {c d : Cursor} :
    d ∈ (Pattern.sequence p q).ends c ↔ ∃ e ∈ p.ends c, d ∈ q.ends e := by
  show d ∈ Cursor.distinct ((p.ends c).flatMap q.ends) ↔ _
  rw [Cursor.mem_distinct_iff, List.mem_flatMap]
  intro d hd e he hkey
  obtain ⟨u, hu⟩ := exists_over_flatMap hp hq hd
  obtain ⟨v, hv⟩ := exists_over_flatMap hp hq he
  exact hu.eq_of_key hv hkey

theorem forward_sequence : (Pattern.sequence p q).Forward := by
  intro c d hd
  obtain ⟨e, he, hde⟩ := (mem_ends_sequence_iff hp hq).mp hd
  exact exists_over_flatMap hp hq (List.mem_flatMap.mpr ⟨e, he, hde⟩)

end Sequence

/-- Whether patterns lead, one after another, from a place to a place. -/
def Leads : List Pattern → Cursor → Cursor → Prop
  | [], c, d => c = d
  | p :: ps, c, d => ∃ e ∈ p.ends c, Leads ps e d

theorem leads_append_iff {ps qs : List Pattern} {c d : Cursor} :
    Leads (ps ++ qs) c d ↔ ∃ e, Leads ps c e ∧ Leads qs e d := by
  induction ps generalizing c with
  | nil => exact ⟨fun h => ⟨c, rfl, h⟩, fun ⟨_, he, h⟩ => he ▸ h⟩
  | cons p ps ih =>
    rw [List.cons_append]
    constructor
    · rintro ⟨e, he, h⟩
      obtain ⟨f, hf, hfd⟩ := ih.mp h
      exact ⟨f, ⟨e, he, hf⟩, hfd⟩
    · rintro ⟨f, ⟨e, he, hf⟩, hfd⟩
      exact ⟨e, he, ih.mpr ⟨f, hf, hfd⟩⟩

theorem leads_singleton_iff {p : Pattern} {c d : Cursor} : Leads [p] c d ↔ d ∈ p.ends c := by
  constructor
  · rintro ⟨e, he, rfl⟩
    exact he
  · exact fun h => ⟨d, h, rfl⟩

/-- Patterns that are joined to a first one end where they lead after it. -/
theorem mem_ends_foldl_sequence_iff {p : Pattern} {ps : List Pattern} (hp : p.Forward)
    (hps : ∀ q ∈ ps, q.Forward) {c d : Cursor} :
    d ∈ (ps.foldl .sequence p).ends c ↔ Leads (p :: ps) c d := by
  induction ps generalizing p with
  | nil => exact leads_singleton_iff.symm
  | cons q ps ih =>
    obtain ⟨hq, hps⟩ := List.forall_mem_cons.mp hps
    rw [List.foldl_cons, ih (forward_sequence hp hq) hps]
    constructor
    · rintro ⟨e, he, h⟩
      obtain ⟨f, hf, hfe⟩ := (mem_ends_sequence_iff hp hq).mp he
      exact ⟨f, hf, e, hfe, h⟩
    · rintro ⟨f, hf, e, hfe, h⟩
      exact ⟨e, (mem_ends_sequence_iff hp hq).mpr ⟨f, hf, hfe⟩, h⟩

/-- Patterns one after another end where they lead. -/
theorem mem_ends_ofSequence_iff {ps : List Pattern} (hps : ∀ p ∈ ps, p.Forward) {c d : Cursor} :
    d ∈ (ofSequence ps).ends c ↔ Leads ps c d := by
  cases ps with
  | nil =>
    show d ∈ [c] ↔ c = d
    rw [List.mem_singleton, eq_comm]
  | cons p ps =>
    obtain ⟨hp, hps⟩ := List.forall_mem_cons.mp hps
    exact mem_ends_foldl_sequence_iff hp hps

/-! ### Searching -/

section Search

variable {p : Pattern} (hstart : ∀ c : Cursor, c.passed ≠ [] → p.ends c = [])

include hstart

/-- A pattern that ends nowhere past the start of a text is not found there. -/
theorem searchFrom_eq_false {t passed : Text} (hne : passed ≠ []) (position : Nat) :
    p.searchFrom position passed t = false := by
  induction t generalizing position passed with
  | nil =>
    rw [searchFrom, hstart _ hne]
    rfl
  | cons c t ih =>
    rw [searchFrom, hstart _ hne, ih (List.cons_ne_nil c passed)]
    rfl

/-- It is found in the text iff it ends anywhere when it begins at the start. -/
theorem search_iff (t : Text) : p.search t = true ↔ ∃ d, d ∈ p.ends (.start t) := by
  have hends : ∀ cs : List Cursor, (!cs.isEmpty) = true ↔ ∃ d, d ∈ cs := by
    intro cs
    cases cs <;> simp
  rw [search, ← hends]
  cases t with
  | nil => rfl
  | cons c t =>
    rw [searchFrom, searchFrom_eq_false hstart (List.cons_ne_nil c []), Bool.or_false]
    rfl

end Search

end Pattern

end BenefitForm
