import BenefitForm.Proofs.Totality

/-!
# Entries that do not disturb the others

An entry of a field list or a rule feed that is refused, and an entry of a wallet
that is no record, might as well not be there: the compilation without them ends
in the same way, and the form differs in the warnings about them alone. Each of
the three loops passes over such an entry without a trace in what it builds, so
the three parts of a compilation read the same. What counts positions or warnings
is looked at by no later stage.

- `FieldReading.ofEntries_filter`, `RuleFeed.outcome_addEntries_filter`,
  `Wallet.outcome_loadEntries_filter`: the loops over fields, rules and wallet.
- `compilationWarnings_usable`: the warnings, which come from all three.
- `compileForm_without_refused`: whole compilations.
-/

namespace BenefitForm

/-- Whether reading an entry does not end with its refusal. -/
def isKept {α : Type} (outcome : Except Failure α) : Bool := (refusal? outcome).isNone

/-! ### Fields -/

namespace FieldReading

/-- A reading without the entries that were left out. -/
def usable (reading : FieldReading) : FieldReading :=
  ⟨reading.entries.filter (·.toOption.isSome), reading.failure?⟩

theorem fields_usable (reading : FieldReading) : reading.usable.fields = reading.fields := by
  rw [fields, usable, List.filterMap_filter, fields]
  refine List.filterMap_congr fun e _ => ?_
  cases e <;> rfl

theorem warnings_usable (reading : FieldReading) : reading.usable.warnings = [] := by
  have hskipped : reading.usable.skipped = [] := by
    rw [skipped, List.filterMap_eq_nil_iff]
    intro e he
    cases e with
    | ok f => rfl
    | error s => cases (List.mem_filter.mp he).2
  rw [warnings, hskipped, List.map_nil]

theorem outcome_usable (reading : FieldReading) : reading.usable.outcome = reading.outcome := by
  rw [outcome, fields_usable]
  rfl

theorem usable_append_ok (f : DeclaredField) (reading : FieldReading) :
    (append ⟨[.ok f], none⟩ reading).usable = append ⟨[.ok f], none⟩ reading.usable := rfl

theorem usable_append_error (s : Text × Nat) (reading : FieldReading) :
    (append ⟨[.error s], none⟩ reading).usable = reading.usable := rfl

/-- Without the entries that are refused the others are read as before, whatever their
positions. -/
theorem ofEntries_filter (place : DeclaredField → DeclaredField) (i j : Nat)
    (entries : List FieldEntry) :
    ofEntries place j (entries.filter fun e => isKept e.read)
      = (ofEntries place i entries).usable := by
  induction entries generalizing i j with
  | nil => rfl
  | cons e rest ih =>
    cases he : e.read with
    | ok f =>
      rw [List.filter_cons_of_pos (by rw [he]; rfl), ofEntries, ofEntries, he]
      exact (congrArg (append ⟨[.ok (place f)], none⟩) (ih (i + 1) (j + 1))).trans
        (usable_append_ok ..).symm
    | error failure =>
      cases failure with
      | malformedRule reason =>
        rw [List.filter_cons_of_neg (by rw [he]; exact Bool.false_ne_true), ofEntries, he]
        exact (ih (i + 1) j).trans (usable_append_error ..).symm
      | _ =>
        -- any other failure ends both readings
        rw [List.filter_cons_of_pos (by rw [he]; rfl), ofEntries, ofEntries, he]
        rfl

end FieldReading

/-! ### Rules -/

/-- The rules of a feed without the warnings. -/
def NormalizedRules.silent (rules : NormalizedRules) : NormalizedRules :=
  { rules with warnings := [] }

namespace RuleFeed

theorem silent_addRule (rules : NormalizedRules) (rule : Rule) :
    (rules.addRule rule).silent = rules.silent.addRule rule := by
  cases rule with
  | criterion c => rfl
  | document d =>
    rw [NormalizedRules.addRule, NormalizedRules.addRule]
    cases d.isRequired <;> rfl

/-- Without the entries that are refused the others give the same rules and no warning. -/
theorem outcome_addEntries_filter (rules : NormalizedRules) (i j : Nat) (entries : List Json) :
    (addEntries rules.silent j (entries.filter fun v => isKept (Rule.ofJson v))).outcome
      = (addEntries rules i entries).outcome.map NormalizedRules.silent := by
  induction entries generalizing rules i j with
  | nil => rfl
  | cons v rest ih =>
    cases hv : Rule.ofJson v with
    | ok rule =>
      rw [List.filter_cons_of_pos (by rw [hv]; rfl), addEntries, addEntries, hv]
      show (addEntries (rules.silent.addRule rule) (j + 1) _).outcome = _
      rw [← silent_addRule]
      exact ih (rules.addRule rule) (i + 1) (j + 1)
    | error failure =>
      cases failure with
      | malformedRule reason =>
        rw [List.filter_cons_of_neg (by rw [hv]; exact Bool.false_ne_true), addEntries, hv]
        simp only [Trace.outcome_bind, Trace.outcome_note, ok_bind]
        exact ih (rules.warn (skipped i reason)) (i + 1) j
      | _ =>
        rw [List.filter_cons_of_pos (by rw [hv]; rfl), addEntries, addEntries, hv]
        rfl

theorem outcome_normalize_array (entries : List Json) :
    (normalize (.array entries)).outcome = (addEntries {} 0 entries).outcome := by
  simp only [normalize, Trace.outcome_bind, Trace.outcome_note, Trace.outcome_pure]
  cases (addEntries {} 0 entries).outcome <;> rfl

theorem outcome_normalize_filter (entries : List Json) :
    (normalize (.array (entries.filter fun v => isKept (Rule.ofJson v)))).outcome
      = (normalize (.array entries)).outcome.map NormalizedRules.silent := by
  rw [outcome_normalize_array, outcome_normalize_array]
  exact outcome_addEntries_filter {} 0 0 entries

end RuleFeed

/-! ### Wallets -/

namespace Wallet

/-- A list of records is read entry by entry. -/
theorem outcome_load_array (items : List Json) :
    (Input.load (.records (.array items))).outcome = (loadEntries items).outcome := by
  cases items <;> rfl

/-- Without the entries that are no records the wallet is the same. -/
theorem outcome_loadEntries_filter (items : List Json) :
    (loadEntries (items.filter fun v => v.asObject?.isSome)).outcome
      = (loadEntries items).outcome := by
  induction items with
  | nil => rfl
  | cons v rest ih =>
    cases v with
    | object members =>
      rw [List.filter_cons_of_pos rfl, loadEntries, loadEntries]
      simp only [Trace.outcome_bind, ih]
    | _ =>
      rw [List.filter_cons_of_neg Bool.false_ne_true, ih, loadEntries]
      · rfl
      · intro members h
        cases h

/-- A wallet list without the entries that are no records; documents are records that were read
before. -/
def Input.recordsOnly : Input → Input
  | .records (.array items) => .records (.array (items.filter fun v => v.asObject?.isSome))
  | wallet => wallet

theorem outcome_load_recordsOnly (wallet : Input) :
    wallet.recordsOnly.load.outcome = wallet.load.outcome := by
  cases wallet with
  | documents ds => rfl
  | records v =>
    cases v with
    | array items =>
      rw [Input.recordsOnly, outcome_load_array, outcome_load_array, outcome_loadEntries_filter]
    | _ => rfl

end Wallet

/-! ### Forms -/

/-- Whether a warning is about an entry that was refused. -/
def CompilationWarning.isRefusal (w : CompilationWarning) : Bool :=
  w.code == .malformedRule || w.code == .malformedField

/-- A form without the warnings about entries that were refused. -/
def FormSchema.withoutRefusals (form : FormSchema) : FormSchema :=
  { form with warnings := form.warnings.filter (!·.isRefusal) }

/-- The warnings are the last thing that a form is given. -/
theorem FormSchema.ofProperties_filter (ps : List FormProperty) (title : Json)
    (ws : List CompilationWarning) :
    ofProperties ps title (ws.filter (!·.isRefusal))
      = (ofProperties ps title ws).map withoutRefusals := by
  rw [ofProperties, ofProperties]
  cases displayHints (ps.map FormProperty.formMember)
    ((ps.filter (·.isSubmitted)).map (·.name)) <;> rfl

/-- Warnings about names that are taken and about missing documents are kept. -/
theorem isRefusal_eq_false {w : CompilationWarning}
    (h : w.code = .duplicateField ∨ w.code = .unmatchedDocument) : w.isRefusal = false := by
  rcases h with h | h <;> rw [CompilationWarning.isRefusal, h] <;> rfl

theorem filter_isRefusal_eq_nil {ws : List CompilationWarning}
    (h : ∀ w ∈ ws, w.isRefusal = true) : ws.filter (!·.isRefusal) = [] :=
  List.filter_eq_nil_iff.mpr fun w hw => by simp [h w hw]

theorem filter_isRefusal_eq_self {ws : List CompilationWarning}
    (h : ∀ w ∈ ws, w.isRefusal = false) : ws.filter (!·.isRefusal) = ws :=
  List.filter_eq_self.mpr fun w hw => by simp [h w hw]

/-- Without the entries that are refused the warnings about them are gone, and no others. -/
theorem compilationWarnings_usable (settings : Settings) (reading : FieldReading)
    {rules : NormalizedRules} (hrules : ∀ w ∈ rules.warnings, w.code = .malformedRule)
    (documents : List WalletDocument) (plans : List DocumentPlan) :
    compilationWarnings settings reading.usable rules.silent documents plans
      = (compilationWarnings settings reading rules documents plans).filter (!·.isRefusal) := by
  have hfields : ∀ w ∈ reading.warnings, w.isRefusal = true := fun w hw => by
    rw [CompilationWarning.isRefusal, FieldReading.code_of_mem_warnings hw]
    rfl
  have hfeed : ∀ w ∈ rules.warnings, w.isRefusal = true := fun w hw => by
    rw [CompilationWarning.isRefusal, hrules w hw]
    rfl
  have hreports : ∀ {note : FormProperty → List CompilationWarning}
      (_ : ∀ p, ∀ w ∈ note p, w.code = .unmatchedDocument) (ps : List FormProperty),
      ∀ w ∈ Registry.reports note [] ps, w.isRefusal = false :=
    fun hnote _ w hw => isRefusal_eq_false (Registry.code_of_mem_reports hnote hw)
  have htaken : ∀ w ∈ takenWarnings settings reading.fields documents plans,
      w.isRefusal = false := fun w hw => isRefusal_eq_false (.inl (code_of_mem_takenWarnings hw))
  rw [compilationWarnings, compilationWarnings, reading.warnings_usable, reading.fields_usable]
  simp only [List.filter_append]
  rw [filter_isRefusal_eq_nil hfields, filter_isRefusal_eq_nil hfeed,
    filter_isRefusal_eq_self (hreports (fun _ _ h => by cases h) _),
    filter_isRefusal_eq_self (hreports DocumentFields.code_of_mem_note _),
    filter_isRefusal_eq_self htaken]
  rfl

/-- A compilation of a field list, a rule feed and a wallet ends as that of their other entries
does, and differs in the warnings about entries that are refused alone. -/
theorem compileForm_without_refused (settings : Settings) (entries : List FieldEntry)
    (rules : List Json) (wallet : Wallet.Input) (title benefitId : Json) :
    (compileForm settings (.flat (entries.filter fun e => isKept e.read))
        (.array (rules.filter fun v => isKept (Rule.ofJson v))) wallet.recordsOnly title
        benefitId).outcome
      = (compileForm settings (.flat entries) (.array rules) wallet title benefitId).outcome.map
        FormSchema.withoutRefusals := by
  have hread : FieldInput.read (.flat (entries.filter fun e => isKept e.read))
      = (FieldInput.read (.flat entries)).usable := FieldReading.ofEntries_filter id 0 0 entries
  rw [outcome_compileForm_eq, outcome_compileForm_eq, hread, FieldReading.outcome_usable,
    RuleFeed.outcome_normalize_filter, Wallet.outcome_load_recordsOnly]
  -- both sides go through the same steps, and fail at the same ones
  cases (FieldInput.read (.flat entries)).outcome with
  | error e => rfl
  | ok declared =>
    cases hnormalized : (RuleFeed.normalize (.array rules)).outcome with
    | error e => rfl
    | ok normalized =>
      cases wallet.load.outcome with
      | error e => rfl
      | ok documents =>
        -- the plans are made of the rules alone
        have hplans : DocumentFields.plans normalized.silent = DocumentFields.plans normalized :=
          rfl
        simp only [Except.map, ok_bind, hplans]
        cases DocumentFields.plans normalized with
        | error e => rfl
        | ok plans =>
          simp only [mapError_ok, ok_bind]
          rw [compilationWarnings_usable settings _
            (RuleFeed.sound_of_normalize hnormalized).warnings]
          exact FormSchema.ofProperties_filter ..

end BenefitForm
