import Mathlib
import BenefitForm.Log

/-!
# How traced computations end

A `Trace` pairs the records of a computation with its outcome. The outcome of a
sequence of steps is the sequence of their outcomes, whatever was logged on the
way, so results can be read off without looking at the log.

- `Trace.outcome_bind`: the outcome of a sequence.
- `bind_eq_ok_iff`: a sequence of steps that may fail gives a result where each
  step does.
- `mapM_eq_ok_iff`: so does a run over a list.
-/

namespace BenefitForm

variable {ε α β : Type}

/-! ### Steps that may fail -/

/-- A sequence of two steps gives a result iff both do. -/
theorem bind_eq_ok_iff {x : Except ε α} {f : α → Except ε β} {b : β} :
    x >>= f = .ok b ↔ ∃ a, x = .ok a ∧ f a = .ok b := by
  cases x with
  | error e => simp [bind, Except.bind]
  | ok a => simp [bind, Except.bind]

/-- A sequence of two steps fails as the first does, or as the second does after a result. -/
theorem bind_eq_error_iff {x : Except ε α} {f : α → Except ε β} {e : ε} :
    x >>= f = .error e ↔ x = .error e ∨ ∃ a, x = .ok a ∧ f a = .error e := by
  cases x with
  | error e' => simp [bind, Except.bind]
  | ok a => simp [bind, Except.bind]

/-- A sequence gives a result if the first step does and what follows its result does. -/
theorem exists_bind_eq_ok {x : Except ε α} {f : α → Except ε β} (hx : ∃ a, x = .ok a)
    (hf : ∀ a, x = .ok a → ∃ b, f a = .ok b) : ∃ b, x >>= f = .ok b := by
  obtain ⟨a, ha⟩ := hx
  obtain ⟨b, hb⟩ := hf a ha
  exact ⟨b, bind_eq_ok_iff.mpr ⟨a, ha, hb⟩⟩

@[simp] theorem ok_bind (a : α) (f : α → Except ε β) : (Except.ok a >>= f) = f a := rfl

@[simp] theorem pure_eq_ok (a : α) : (pure a : Except ε α) = .ok a := rfl

@[simp] theorem mapError_ok {ε' : Type} (f : ε → ε') (a : α) :
    (Except.ok a).mapError f = .ok a := rfl

/-- Renaming the errors of a step changes no result. -/
theorem mapError_eq_ok_iff {ε' : Type} {f : ε → ε'} {x : Except ε α} {a : α} :
    x.mapError f = .ok a ↔ x = .ok a := by
  cases x <;> simp [Except.mapError]

theorem mapError_eq_error_iff {ε' : Type} {f : ε → ε'} {x : Except ε α} {e' : ε'} :
    x.mapError f = .error e' ↔ ∃ e, x = .error e ∧ f e = e' := by
  cases x <;> simp [Except.mapError]

/-- A step without a fault gives its result as a step that may fail in other ways. -/
theorem exists_liftFault_eq_ok {x : Except Fault α} (h : ∃ a, x = .ok a) :
    ∃ a, (liftM x : Except Failure α) = .ok a := by
  obtain ⟨a, rfl⟩ := h
  exact ⟨a, rfl⟩

/-- What is made of a result is there iff the result is. -/
theorem map_eq_ok_iff {f : α → β} {x : Except ε α} {b : β} :
    x.map f = .ok b ↔ ∃ a, x = .ok a ∧ f a = b := by
  cases x <;> simp [Except.map]

/-- A step whose result is there without being looked at has a result. -/
theorem exists_ok_of_map {f : α → β} {x : Except ε α} {b : β} (h : x.map f = .ok b) :
    ∃ a, x = .ok a := by
  cases x with
  | error e => cases h
  | ok a => exact ⟨a, rfl⟩

theorem eq_error_of_map {f : α → β} {x : Except ε α} {e : ε} (h : x.map f = .error e) :
    x = .error e := by
  cases x with
  | error e' =>
    cases h
    rfl
  | ok a => cases h

/-- A result that is checked to be there is there. -/
theorem exists_ok_of_any {x : Except ε α} {q : α → Bool} (h : x.toOption.any q = true) :
    ∃ a, x = .ok a ∧ q a = true := by
  cases x with
  | error e => cases h
  | ok a => exact ⟨a, rfl, h⟩

/-- A run over a list gives a result iff each step does, item by item. -/
theorem mapM_eq_ok_iff {f : α → Except ε β} {xs : List α} {ys : List β} :
    xs.mapM f = .ok ys ↔ List.Forall₂ (fun x y => f x = .ok y) xs ys := by
  induction xs generalizing ys with
  | nil =>
    rw [List.mapM_nil, pure_eq_ok]
    constructor
    · rintro ⟨⟩
      exact .nil
    · rintro ⟨⟩
      rfl
  | cons x xs ih =>
    rw [List.mapM_cons, bind_eq_ok_iff]
    constructor
    · rintro ⟨y, hy, hrest⟩
      obtain ⟨zs, hzs, hok⟩ := bind_eq_ok_iff.mp hrest
      cases hok
      exact .cons hy (ih.mp hzs)
    · rintro (_ | ⟨hy, hrest⟩)
      exact ⟨_, hy, bind_eq_ok_iff.mpr ⟨_, ih.mpr hrest, rfl⟩⟩

/-- The same for steps that give a result or none. -/
theorem mapM_eq_some_iff {f : α → Option β} {xs : List α} {ys : List β} :
    xs.mapM f = some ys ↔ List.Forall₂ (fun x y => f x = some y) xs ys := by
  induction xs generalizing ys with
  | nil =>
    rw [List.mapM_nil]
    constructor
    · rintro ⟨⟩
      exact .nil
    · rintro ⟨⟩
      rfl
  | cons x xs ih =>
    rw [List.mapM_cons]
    simp only [Option.bind_eq_bind, Option.bind_eq_some_iff, Option.pure_def, Option.some.injEq]
    constructor
    · rintro ⟨y, hy, zs, hzs, rfl⟩
      exact .cons hy (ih.mp hzs)
    · rintro (_ | ⟨hy, hrest⟩)
      exact ⟨_, hy, _, ih.mpr hrest, rfl⟩

/-- Where all steps give a result, those that do are all. -/
theorem eq_filterMap_of_mapM {f : α → Option β} {xs : List α} {ys : List β}
    (h : xs.mapM f = some ys) : ys = xs.filterMap f := by
  rw [mapM_eq_some_iff] at h
  induction h with
  | nil => rfl
  | cons hfirst _ ih => rw [List.filterMap_cons_some hfirst, ← ih]

/-- A run of steps that give a result or none gives one iff each step does. -/
theorem exists_mapM_eq_some_iff {f : α → Option β} {xs : List α} :
    (∃ ys, xs.mapM f = some ys) ↔ ∀ x ∈ xs, ∃ y, f x = some y := by
  simp only [mapM_eq_some_iff]
  induction xs with
  | nil => simp
  | cons x xs ih =>
    rw [List.forall_mem_cons, ← ih]
    constructor
    · rintro ⟨_, _ | ⟨hy, hrest⟩⟩
      exact ⟨⟨_, hy⟩, _, hrest⟩
    · rintro ⟨⟨y, hy⟩, ys, hrest⟩
      exact ⟨y :: ys, .cons hy hrest⟩

/-- Results that are there alike and are related where both are there. -/
theorem optionRel_of_exists_iff {R : α → β → Prop} {x : Option α} {y : Option β}
    (hthere : (∃ a, x = some a) ↔ ∃ b, y = some b)
    (h : ∀ a b, x = some a → y = some b → R a b) : Option.Rel R x y := by
  cases x with
  | none =>
    cases y with
    | none => exact .none
    | some b =>
      obtain ⟨a, ha⟩ := hthere.mpr ⟨b, rfl⟩
      cases ha
  | some a =>
    cases y with
    | none =>
      obtain ⟨b, hb⟩ := hthere.mp ⟨a, rfl⟩
      cases hb
    | some b => exact .some (h a b rfl rfl)

/-- Each result of a run comes from an element of the list. -/
theorem exists_of_mem_right {R : α → β → Prop} {xs : List α} {ys : List β}
    (h : List.Forall₂ R xs ys) {y : β} (hy : y ∈ ys) : ∃ x ∈ xs, R x y := by
  induction h with
  | nil => cases hy
  | @cons x z xs zs hx hrest ih =>
    rcases List.mem_cons.mp hy with rfl | hz
    · exact ⟨x, List.mem_cons_self, hx⟩
    · obtain ⟨w, hw, hwy⟩ := ih hz
      exact ⟨w, List.mem_cons_of_mem x hw, hwy⟩

/-- Each element of the list has its result in a run. -/
theorem exists_of_mem_left {R : α → β → Prop} {xs : List α} {ys : List β}
    (h : List.Forall₂ R xs ys) {x : α} (hx : x ∈ xs) : ∃ y ∈ ys, R x y := by
  induction h with
  | nil => cases hx
  | @cons z y zs ys hy hrest ih =>
    rcases List.mem_cons.mp hx with rfl | hz
    · exact ⟨y, List.mem_cons_self, hy⟩
    · obtain ⟨w, hw, hzw⟩ := ih hz
      exact ⟨w, List.mem_cons_of_mem y hw, hzw⟩

/-- What is kept of related lists is related where related elements are kept alike. -/
theorem forall₂_filter {R : α → β → Prop} {f : α → Bool} {g : β → Bool}
    (hfg : ∀ a b, R a b → f a = g b) {xs : List α} {ys : List β} (h : List.Forall₂ R xs ys) :
    List.Forall₂ R (xs.filter f) (ys.filter g) :=
  List.rel_filter (fun a b hab => Bool.eq_iff_iff.mp (hfg a b hab)) h

/-- What is the same for related elements is so along related lists. -/
theorem map_eq_of_forall₂ {γ : Type} {R : α → β → Prop} {f : α → γ} {g : β → γ}
    (hfg : ∀ a b, R a b → f a = g b) {xs : List α} {ys : List β} (h : List.Forall₂ R xs ys) :
    xs.map f = ys.map g := by
  induction h with
  | nil => rfl
  | cons hfirst _ ih => rw [List.map_cons, List.map_cons, hfg _ _ hfirst, ih]

/-- Whether some element passes a test that related elements pass alike. -/
theorem any_eq_of_forall₂ {R : α → β → Prop} {f : α → Bool} {g : β → Bool}
    (hfg : ∀ a b, R a b → f a = g b) {xs : List α} {ys : List β} (h : List.Forall₂ R xs ys) :
    xs.any f = ys.any g := by
  induction h with
  | nil => rfl
  | cons hfirst _ ih => rw [List.any_cons, List.any_cons, hfg _ _ hfirst, ih]

/-- A run that fails fails as one of its steps does. -/
theorem exists_of_mapM_eq_error {f : α → Except ε β} {xs : List α} {e : ε}
    (h : xs.mapM f = .error e) : ∃ x ∈ xs, f x = .error e := by
  induction xs with
  | nil => cases h
  | cons x xs ih =>
    rw [List.mapM_cons] at h
    cases hx : f x with
    | error e' =>
      rw [hx] at h
      cases h
      exact ⟨x, List.mem_cons_self, hx⟩
    | ok y =>
      rw [hx, ok_bind] at h
      cases hrest : xs.mapM f with
      | error e' =>
        rw [hrest] at h
        cases h
        obtain ⟨z, hz, hfz⟩ := ih hrest
        exact ⟨z, List.mem_cons_of_mem x hz, hfz⟩
      | ok ys =>
        rw [hrest] at h
        cases h

/-- A run whose steps all give results gives one. -/
theorem exists_mapM_eq_ok {f : α → Except ε β} {xs : List α} (h : ∀ x ∈ xs, ∃ y, f x = .ok y) :
    ∃ ys, xs.mapM f = .ok ys := by
  cases hrun : xs.mapM f with
  | error e =>
    obtain ⟨x, hx, herror⟩ := exists_of_mapM_eq_error hrun
    obtain ⟨y, hy⟩ := h x hx
    rw [hy] at herror
    cases herror
  | ok ys => exact ⟨ys, rfl⟩

/-- A run depends on the steps at the elements of the list. -/
theorem mapM_congr {f g : α → Except ε β} {xs : List α} (h : ∀ x ∈ xs, f x = g x) :
    xs.mapM f = xs.mapM g := by
  induction xs with
  | nil => rfl
  | cons x xs ih =>
    rw [List.mapM_cons, List.mapM_cons, h x List.mem_cons_self,
      ih fun y hy => h y (List.mem_cons_of_mem x hy)]

/-! ### Steps that end alike -/

/-- Whether two steps fail in the same way, or both have results and these are related. -/
inductive EndsAlike (R : α → β → Prop) : Except ε α → Except ε β → Prop
  | ok {a : α} {b : β} (h : R a b) : EndsAlike R (.ok a) (.ok b)
  | error (e : ε) : EndsAlike R (.error e) (.error e)

namespace EndsAlike

theorem refl {R : α → α → Prop} (hR : ∀ a, R a a) (x : Except ε α) : EndsAlike R x x := by
  cases x with
  | error e => exact .error e
  | ok a => exact .ok (hR a)

variable {γ δ : Type} {R : α → β → Prop} {S : γ → δ → Prop} {x : Except ε α} {y : Except ε β}

/-- Steps that end alike are followed by steps that do. -/
theorem bind (h : EndsAlike R x y) {f : α → Except ε γ} {g : β → Except ε δ}
    (hrest : ∀ a b, R a b → EndsAlike S (f a) (g b)) : EndsAlike S (x >>= f) (y >>= g) := by
  cases h with
  | ok hab => exact hrest _ _ hab
  | error e => exact .error e

theorem mapError {ε' : Type} (f : ε → ε') (h : EndsAlike R x y) :
    EndsAlike R (x.mapError f) (y.mapError f) := by
  cases h with
  | ok hab => exact .ok hab
  | error e => exact .error (f e)

theorem map {f : α → γ} {g : β → δ} (h : EndsAlike R x y) (hfg : ∀ a b, R a b → S (f a) (g b)) :
    EndsAlike S (x.map f) (y.map g) := by
  cases h with
  | ok hab => exact .ok (hfg _ _ hab)
  | error e => exact .error e

/-- What is made alike of related results is the same. -/
theorem map_eq (h : EndsAlike R x y) {f : α → γ} {g : β → γ} (hfg : ∀ a b, R a b → f a = g b) :
    x.map f = y.map g := by
  cases h with
  | ok hab => exact congrArg Except.ok (hfg _ _ hab)
  | error e => rfl

/-- Runs over related lists end alike where their steps do. -/
theorem mapM {f : α → Except ε γ} {g : β → Except ε δ}
    (hstep : ∀ a b, R a b → EndsAlike S (f a) (g b)) {xs : List α} {ys : List β}
    (h : List.Forall₂ R xs ys) : EndsAlike (List.Forall₂ S) (xs.mapM f) (ys.mapM g) := by
  induction h with
  | nil => exact .ok .nil
  | cons hfirst _ ih =>
    rw [List.mapM_cons, List.mapM_cons]
    exact (hstep _ _ hfirst).bind fun _ _ hc => ih.bind fun _ _ hcs => .ok (.cons hc hcs)

/-- Where there is one way only for a step to fail, runs over the same elements in any order end
alike. -/
theorem mapM_perm {f : α → Except ε β} {e : ε} (hf : ∀ a e', f a = .error e' → e' = e)
    {xs ys : List α} (h : xs.Perm ys) : EndsAlike List.Perm (xs.mapM f) (ys.mapM f) := by
  have hfails : ∀ {zs : List α} {e' : ε}, zs.mapM f = .error e' → e' = e := fun herror => by
    obtain ⟨z, -, hz⟩ := exists_of_mapM_eq_error herror
    exact hf z _ hz
  have hok : ∀ {zs ws : List α} {bs : List β}, zs.Perm ws → zs.mapM f = .ok bs →
      ∃ cs, ws.mapM f = .ok cs := fun hperm hbs => exists_mapM_eq_ok fun w hw => by
    obtain ⟨b, -, hb⟩ := exists_of_mem_left (mapM_eq_ok_iff.mp hbs) (hperm.mem_iff.mpr hw)
    exact ⟨b, hb⟩
  -- results of a run are those of its steps, in the order of the elements
  have hmap : ∀ {zs : List α} {bs : List β}, zs.mapM f = .ok bs → zs.map f = bs.map Except.ok :=
    fun hbs => map_eq_of_forall₂ (fun _ _ hb => hb) (mapM_eq_ok_iff.mp hbs)
  cases hxs : xs.mapM f with
  | ok bs =>
    obtain ⟨cs, hys⟩ := hok h hxs
    have hresults : (bs.map (Except.ok : β → Except ε β)).Perm (cs.map Except.ok) := by
      rw [← hmap hxs, ← hmap hys]
      exact h.map f
    rw [hys]
    exact .ok ((List.map_perm_map_iff fun _ _ => Except.ok.inj).mp hresults)
  | error e' =>
    cases hys : ys.mapM f with
    | ok cs =>
      obtain ⟨bs, hbs⟩ := hok h.symm hys
      rw [hbs] at hxs
      cases hxs
    | error e'' =>
      rw [hfails hxs, hfails hys]
      exact .error e

end EndsAlike

/-! ### Outcomes of traced computations -/

namespace Trace

@[simp] theorem outcome_pure (a : α) : (pure a : Trace α).outcome = .ok a := rfl

@[simp] theorem outcome_note (r : LogRecord) : (note r).outcome = .ok () := rfl

@[simp] theorem outcome_notes (rs : List LogRecord) : (notes rs).outcome = .ok () := rfl

/-- The outcome of a sequence is the sequence of the outcomes. -/
@[simp] theorem outcome_bind (x : Trace α) (f : α → Trace β) :
    (x >>= f).outcome = x.outcome >>= fun a => (f a).outcome := by
  show (x.andThen f).outcome = _
  unfold andThen
  cases x.outcome <;> rfl

/-- A fault inside a traced computation is a failure of it. -/
@[simp] theorem outcome_liftFault (e : Except Fault α) :
    (liftM e : Trace α).outcome = e.mapError .fault := rfl

/-- A step without a fault writes nothing. -/
theorem liftFault_ok_bind (a : α) (f : α → Trace β) :
    ((liftM (Except.ok a : Except Fault α) : Trace α) >>= f) = f a := rfl

end Trace

end BenefitForm
