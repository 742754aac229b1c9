import BenefitForm.DocumentField
import BenefitForm.Field.Schema
import BenefitForm.Proofs.Firsts

/-!
# Runs of a registry

Application fields and document fields are offered to a registry one after
another. Both builders take the same step (`Registry.offer`): a property whose
name is taken is left out with a warning, any other one is added, with a note
where the builder has something to say about it. A run of such steps is described
by what is offered alone:

- `properties_foldl_offer`, `Consistent.foldl_offer`: the first property of each
  name is added, and its name is listed where it is required.
- `warnings_foldl_offer`: the warnings are those of `Registry.reports`.
- `duplicates_reports`: a property is either added or reported as a duplicate.
- `mem_reports_iff`: the other warnings are the notes about what is added.
-/

namespace BenefitForm

namespace Registry

/-- The names that are taken. -/
def names (r : Registry) : List Text := r.properties.map (·.name)

/-- Offer a property; `note` is what there is to say about it where it is added. -/
def offer (note : FormProperty → List CompilationWarning) (r : Registry) (p : FormProperty) :
    Registry :=
  if r.contains p.name then r.warn (.duplicate (.text p.name))
  else { (r.add p).1 with warnings := r.warnings ++ note p }

/-- The warnings of a run in which `taken` are the names that are taken before it. -/
def reports (note : FormProperty → List CompilationWarning) :
    List Text → List FormProperty → List CompilationWarning
  | _, [] => []
  | taken, p :: ps =>
    if p.name ∈ taken then .duplicate (.text p.name) :: reports note taken ps
    else note p ++ reports note (taken ++ [p.name]) ps

/-! ### One step -/

theorem contains_iff {r : Registry} {name : Text} : r.contains name = true ↔ name ∈ r.names := by
  simp only [contains, names, List.any_eq_true, List.mem_map, beq_iff_eq]

section

variable {note : FormProperty → List CompilationWarning} {r : Registry} {p : FormProperty}

theorem offer_of_mem (h : p.name ∈ r.names) :
    r.offer note p = r.warn (.duplicate (.text p.name)) :=
  if_pos (contains_iff.mpr h)

theorem offer_of_not_mem (h : p.name ∉ r.names) :
    r.offer note p = { properties := r.properties ++ [p]
                       required := if p.required then r.required ++ [p.name] else r.required
                       warnings := r.warnings ++ note p } := by
  have hc : ¬ r.contains p.name = true := fun hc => h (contains_iff.mp hc)
  rw [offer, if_neg hc, add, if_neg hc]

end

/-- Application fields are offered without notes. -/
theorem add_eq_offer (r : Registry) (p : FormProperty) : (r.add p).1 = r.offer (fun _ => []) p := by
  by_cases h : p.name ∈ r.names
  · rw [offer_of_mem h, add, if_pos (contains_iff.mpr h)]
  · rw [offer_of_not_mem h, add, if_neg fun hc => h (contains_iff.mp hc), List.append_nil]

theorem addAll_eq_foldl_offer (r : Registry) (ps : List FormProperty) :
    r.addAll ps = ps.foldl (offer fun _ => []) r := by
  rw [addAll]
  exact congrArg (fun f => ps.foldl f r) (funext₂ add_eq_offer)

/-! ### Whole runs -/

variable (note : FormProperty → List CompilationWarning)

/-- A run adds the first property of each name that was not taken before. -/
theorem properties_foldl_offer (r : Registry) (ps : List FormProperty) :
    (ps.foldl (offer note) r).properties
      = r.properties ++ (firstsBy FormProperty.name ps).filter fun p => p.name ∉ r.names := by
  induction ps generalizing r with
  | nil => simp
  | cons p ps ih =>
    rw [List.foldl_cons, ih, filter_firstsBy_cons FormProperty.name]
    by_cases h : p.name ∈ r.names
    · rw [offer_of_mem h, if_pos h]
      rfl
    · rw [offer_of_not_mem h, if_neg h, List.append_assoc, List.singleton_append]
      simp [names]

/-- The required names of a registry are those of its required properties, in order. -/
def Consistent (r : Registry) : Prop :=
  r.required = (r.properties.filter (·.required)).map (·.name)

theorem consistent_empty : ({} : Registry).Consistent := rfl

theorem Consistent.adopt {r : Registry} (h : r.Consistent) (ws : List CompilationWarning) :
    (r.adopt ws).Consistent := h

theorem Consistent.offer {r : Registry} (h : r.Consistent) (p : FormProperty) :
    (r.offer note p).Consistent := by
  by_cases hp : p.name ∈ r.names
  · rw [offer_of_mem hp]
    exact h
  · rw [offer_of_not_mem hp]
    show (if p.required then r.required ++ [p.name] else r.required)
      = ((r.properties ++ [p]).filter (·.required)).map (·.name)
    -- the new property is the last of both lists, where it is required
    rw [List.filter_append, List.map_append, ← show r.required = _ from h]
    cases hr : p.required <;> simp [hr]

theorem Consistent.foldl_offer {r : Registry} (h : r.Consistent) (ps : List FormProperty) :
    (ps.foldl (Registry.offer note) r).Consistent := by
  induction ps generalizing r with
  | nil => exact h
  | cons p ps ih => exact ih (h.offer note p)

/-- The warnings of a run follow those that were there before. -/
theorem warnings_foldl_offer (r : Registry) (ps : List FormProperty) :
    (ps.foldl (offer note) r).warnings = r.warnings ++ reports note r.names ps := by
  induction ps generalizing r with
  | nil => simp [reports]
  | cons p ps ih =>
    rw [List.foldl_cons, ih, reports]
    by_cases h : p.name ∈ r.names
    · rw [offer_of_mem h, if_pos h]
      simp [warn, names]
    · rw [offer_of_not_mem h, if_neg h]
      simp [names]

/-! ### What the warnings say -/

/-- Whether a warning is about a second field of one name. -/
def isDuplicate (w : CompilationWarning) : Bool := w.code == .duplicateField

@[simp] theorem isDuplicate_duplicate (k : Key) : isDuplicate (.duplicate k) = true := rfl

/-- Each property that is offered is either added or reported as a duplicate. -/
theorem duplicates_reports (hnote : ∀ p, (note p).countP isDuplicate = 0) (taken : List Text)
    (ps : List FormProperty) :
    (reports note taken ps).countP isDuplicate
      + ((firstsBy FormProperty.name ps).filter fun p => p.name ∉ taken).length = ps.length := by
  induction ps generalizing taken with
  | nil => rfl
  | cons p ps ih =>
    rw [reports, filter_firstsBy_cons FormProperty.name, List.length_cons]
    by_cases h : p.name ∈ taken
    · rw [if_pos h, if_pos h, List.countP_cons, isDuplicate_duplicate, if_pos rfl, ← ih taken]
      omega
    · rw [if_neg h, if_neg h, List.countP_append, hnote, List.length_cons,
        ← ih (taken ++ [p.name])]
      omega

/-- A property that is offered after another one of its name is reported. -/
theorem duplicate_mem_reports {taken : List Text} {before after : List FormProperty}
    {p : FormProperty} (h : p.name ∈ taken ∨ p.name ∈ before.map (·.name)) :
    CompilationWarning.duplicate (.text p.name) ∈ reports note taken (before ++ p :: after) := by
  -- the names that are taken may grow with each property before
  induction before generalizing taken with
  | nil =>
    have hp : p.name ∈ taken := by simpa using h
    rw [List.nil_append, reports, if_pos hp]
    exact List.mem_cons_self
  | cons q before ih =>
    rw [List.cons_append, reports]
    by_cases hq : q.name ∈ taken
    · rw [if_pos hq]
      refine List.mem_cons_of_mem _ (ih ?_)
      rcases h with h | h
      · exact .inl h
      · rcases List.mem_cons.mp h with he | h
        · exact .inl (he ▸ hq)
        · exact .inr h
    · rw [if_neg hq]
      refine List.mem_append_right _ (ih ?_)
      rcases h with h | h
      · exact .inl (List.mem_append_left _ h)
      · rcases List.mem_cons.mp h with he | h
        · exact .inl (List.mem_append_right _ (List.mem_singleton.mpr he))
        · exact .inr h

/-- The other warnings of a run are the notes about the properties that it adds. -/
theorem mem_reports_iff {w : CompilationWarning} (hw : isDuplicate w = false) {taken : List Text}
    {ps : List FormProperty} :
    w ∈ reports note taken ps ↔
      ∃ p ∈ (firstsBy FormProperty.name ps).filter (fun p => p.name ∉ taken), w ∈ note p := by
  induction ps generalizing taken with
  | nil => simp [reports]
  | cons p ps ih =>
    rw [reports, filter_firstsBy_cons FormProperty.name]
    by_cases h : p.name ∈ taken
    · have hne : w ≠ .duplicate (.text p.name) := by
        rintro rfl
        cases hw
      rw [if_pos h, if_pos h, List.mem_cons, or_iff_right hne, ih]
    · rw [if_neg h, if_neg h, List.mem_append, ih, List.exists_mem_cons_iff]

end Registry

/-! ### Document fields -/

namespace DocumentFields

/-- What there is to say about a document field that is added. -/
def note (p : FormProperty) : List CompilationWarning :=
  if isUnmatched p then [unmatched p.name] else []

/-- Document fields are offered with a note where no document satisfies them. -/
theorem add_eq_offer (r : Registry) (p : FormProperty) : add r p = r.offer note p := by
  by_cases h : p.name ∈ r.names
  · have hc : r.contains p.name = true := Registry.contains_iff.mpr h
    rw [Registry.offer_of_mem h, add, Registry.add, if_pos hc]
    rfl
  · have hc : ¬ r.contains p.name = true := fun hc => h (Registry.contains_iff.mp hc)
    rw [Registry.offer_of_not_mem h, add, Registry.add, if_neg hc, note]
    cases isUnmatched p <;> simp [Registry.warn]

theorem foldl_add (r : Registry) (ps : List FormProperty) :
    ps.foldl add r = ps.foldl (Registry.offer note) r :=
  congrArg (fun f => ps.foldl f r) (funext₂ add_eq_offer)

theorem countP_note (p : FormProperty) : (note p).countP Registry.isDuplicate = 0 := by
  rw [note]
  cases isUnmatched p <;> rfl

end DocumentFields

end BenefitForm
