import BenefitForm.Catalog.Lookup

/-!
# The address of a benefit

A template is filled part by part: code points other than braces stay as they are
(`fillFrom_append`), and a place that asks for nothing but a text has that text
(`fillFrom_place`). With the usual template the address of every benefit is what
stands before the place and then the benefit as it is, without any escapes
(`address_standard`).
-/

namespace BenefitForm

theorem Json.laidOut_string (t : Text) : (Json.string t).laidOut [] = .ok t := by
  have hlayout : Layout.read [] = .ok {} := by rfl
  rw [Json.laidOut]
  simp only [hlayout, bind, Except.bind]
  simp [Layout.ofText, Layout.padded, Text.padding]

namespace Template

variable {values : Members} {depth fuel : Nat} {t rest : Text}

theorem fillFrom_cons {c : CodePoint} (hopen : c.val ≠ 0x7B) (hclose : c.val ≠ 0x7D) :
    fillFrom values depth (fuel + 1) (c :: rest)
      = (fillFrom values depth fuel rest).map (c :: ·) := by
  have hpart : nextPart c rest = .ok (.text c, rest) := by simp [nextPart, hopen, hclose]
  rw [fillFrom, hpart]
  dsimp only [bind, Except.bind]
  cases fillFrom values depth fuel rest <;> rfl

/-- A text without braces stays as it is. -/
theorem fillFrom_append (h : ∀ c ∈ t, c.val ≠ 0x7B ∧ c.val ≠ 0x7D) :
    fillFrom values depth (t.length + fuel) (t ++ rest)
      = (fillFrom values depth fuel rest).map (t ++ ·) := by
  induction t with
  | nil =>
    rw [List.length_nil, Nat.zero_add, List.nil_append]
    cases fillFrom values depth fuel rest <;> rfl
  | cons c t ih =>
    obtain ⟨hopen, hclose⟩ := h c List.mem_cons_self
    rw [List.length_cons, Nat.succ_add, List.cons_append, fillFrom_cons hopen hclose,
      ih fun c hc => h c (List.mem_cons_of_mem _ hc)]
    cases fillFrom values depth fuel rest <;> rfl

/-- A place without layout that names a text has that text. -/
theorem fillFrom_place {name v : Text}
    (hpart : nextPart (.ofChar '{') t = .ok (.place ⟨name, none, []⟩, rest))
    (hvalue : valueOf values name = .ok (.json (.string v))) :
    fillFrom values depth (fuel + 1) (.ofChar '{' :: t)
      = (fillFrom values depth fuel rest).map (v ++ ·) := by
  have hshown : Value.laidOut [] (.json (.string v)) = .ok v := Json.laidOut_string v
  rw [fillFrom, hpart]
  dsimp only [bind, Except.bind]
  rw [hvalue]
  dsimp only [inForm]
  -- at any depth, as an empty layout holds no place
  cases depth <;> simp [hshown] <;> cases fillFrom values _ fuel rest <;> rfl

end Template

/-- The address of a benefit where no template is given or set. -/
theorem Catalog.address_standard (benefit : Text) :
    address .standard (.string benefit) none
      = .ok (Text.ofString "http://localhost:3000/content/" ++ benefit) := by
  have hplain : ∀ c ∈ Text.ofString "http://localhost:3000/content/",
      c.val ≠ 0x7B ∧ c.val ≠ 0x7D := by decide +kernel
  have htemplate : Settings.standard.catalogUrl = Text.ofString "http://localhost:3000/content/"
      ++ .ofChar '{' :: Text.ofString "benefit_id\x7d" := by decide +kernel
  have hlength : Settings.standard.catalogUrl.length
      = (Text.ofString "http://localhost:3000/content/").length + (11 + 1) := by decide +kernel
  have hpart : Template.nextPart (.ofChar '{') (Text.ofString "benefit_id\x7d")
      = .ok (.place ⟨Text.ofString "benefit_id", none, []⟩, []) := by rfl
  have hvalue : Template.valueOf [(Text.ofString "benefit_id", .string benefit)]
      (Text.ofString "benefit_id") = .ok (.json (.string benefit)) := by rfl
  rw [address, Template.fill, hlength, htemplate, Template.fillFrom_append hplain,
    Template.fillFrom_place hpart hvalue, Template.fillFrom]
  simp [Except.map]

end BenefitForm
