import BenefitForm.Field.Schema
import BenefitForm.Proofs.Writable

/-!
# Entries that are refused

The entries of a field list and of a rule feed are read one by one. An entry that
is refused is reported, with the reason and its position, and does not disturb
the others: the reports are those about each entry for itself (`refusals`).

- `RuleFeed.warnings_of_normalize`: the warnings of a feed that is normalized.
- `FieldReading.ofEntries_cons`: what one entry adds to the reading of a field list.
- `FieldReading.skipped_ofEntries`, `FieldReading.fields_ofEntries`: what a field
  list that is read to its end leaves out, and what it holds.
- `FieldReading.failure?_ofRecords`: it is read to its end iff the options of each
  field in it can be gone through (`DeclaredField.listsOptions`).
-/

namespace BenefitForm

section

variable {α : Type}

/-- The reason for which an entry is refused. -/
def refusal? : Except Failure α → Option Text
  | .error (.malformedRule reason) => some reason
  | _ => none

/-- The entries that are refused, of which the first one has the position `index`: the reason and
the position of each. -/
def refusals (read : Json → Except Failure α) (index : Nat) (entries : List Json) :
    List (Text × Nat) :=
  (entries.zipIdx index).filterMap fun e => (refusal? (read e.1)).map (·, e.2)

variable {read : Json → Except Failure α} {index : Nat} {entry : Json} {rest : List Json}

theorem refusals_cons_of_ok {a : α} (h : read entry = .ok a) :
    refusals read index (entry :: rest) = refusals read (index + 1) rest := by
  simp [refusals, refusal?, h]

theorem refusals_cons_of_malformed {reason : Text} (h : read entry = .error (.malformedRule reason)) :
    refusals read index (entry :: rest) = (reason, index) :: refusals read (index + 1) rest := by
  simp [refusals, refusal?, h]

end

/-! ### Rule feeds -/

namespace RuleFeed

/-- The warnings about the entries of a feed that are refused, or about a feed that is no list. -/
def refused : Json → List CompilationWarning
  | .array entries => (refusals Rule.ofJson 0 entries).map fun s => skipped s.2 s.1
  | .null => []
  | feed => [notAList feed]

theorem warnings_of_addEntries {entries : List Json} {rules rules' : NormalizedRules} {index : Nat}
    (h : (addEntries rules index entries).outcome = .ok rules') :
    rules'.warnings
      = rules.warnings ++ (refusals Rule.ofJson index entries).map fun s => skipped s.2 s.1 := by
  induction entries generalizing rules index with
  | nil =>
    cases h
    exact (List.append_nil _).symm
  | cons entry rest ih =>
    rw [addEntries] at h
    cases hof : Rule.ofJson entry with
    | ok rule =>
      rw [hof] at h
      rw [ih h, rules.warnings_addRule, refusals_cons_of_ok hof]
    | error e =>
      rw [hof] at h
      cases e with
      | malformedRule reason =>
        simp only [Trace.outcome_bind, Trace.outcome_note, ok_bind] at h
        rw [ih h, refusals_cons_of_malformed hof, NormalizedRules.warn, List.map_cons,
          List.append_assoc, List.singleton_append]
      | _ => cases h

/-- The warnings of a feed are those about what is refused. -/
theorem warnings_of_normalize {feed : Json} {rules : NormalizedRules}
    (h : (normalize feed).outcome = .ok rules) : rules.warnings = refused feed := by
  cases feed with
  | array entries =>
    simp only [normalize, Trace.outcome_bind, Trace.outcome_note, Trace.outcome_pure,
      bind_eq_ok_iff] at h
    obtain ⟨rules', hrules, -, -, hpure⟩ := h
    cases hpure
    exact warnings_of_addEntries hrules
  | _ =>
    cases h
    rfl

end RuleFeed

/-! ### Field records -/

/-- Whether the items of a value can be gone through: it is a list, a text or an object, or counts
as empty. -/
def Json.hasItems : Json → Bool
  | .array _ => true
  | .string _ => true
  | .object _ => true
  | v => !v.truthy

theorem Json.exists_iterateOrEmpty {v : Json} (h : v.hasItems = true) :
    ∃ items, v.iterateOrEmpty = .ok items := by
  rw [iterateOrEmpty]
  split
  · rename_i htruthy
    cases v with
    | array items => exact ⟨items, rfl⟩
    | string t => exact ⟨_, rfl⟩
    | object members => exact ⟨_, rfl⟩
    | _ => simp [hasItems, htruthy] at h
  · exact ⟨[], rfl⟩

theorem Json.iterateOrEmpty_eq_error {v : Json} (h : v.hasItems = false) :
    v.iterateOrEmpty = .error .wrongKind := by
  rw [iterateOrEmpty]
  cases v with
  | array items => cases h
  | string t => cases h
  | object members => cases h
  | _ =>
    rw [if_pos (by simpa [hasItems] using h)]
    rfl

namespace DeclaredField

/-- Whether an entry has options that can be gone through, if it is the record of a field. -/
def listsOptions : Json → Bool
  | .object members =>
    match Json.member members "name" with
    | .string (_ :: _) => (Json.member members "options").hasItems
    | _ => true
  | _ => true

/-- An entry of a list of options is a choice or describes none. -/
theorem exists_option {v : Json} (h : v.isWritable = true) :
    ∃ o, FieldOption.ofJson? v = .ok o := by
  cases v with
  | object members =>
    rw [FieldOption.ofJson?]
    split
    · exact ⟨none, rfl⟩
    · rename_i v hvalue
      refine exists_bind_eq_ok (exists_liftFault_eq_ok (Json.exists_plain ?_)) fun value _ =>
        exists_bind_eq_ok (exists_liftFault_eq_ok (Json.exists_plain ?_)) fun _ _ => ⟨_, rfl⟩
      · exact Json.isWritable_of_get? h hvalue
      · cases hlabel : Members.get? members (Text.ofString "label") with
        | none => rfl
        | some label => exact Json.isWritable_of_get? h hlabel
  | string t => exact ⟨_, rfl⟩
  | _ => exact ⟨none, rfl⟩

theorem exists_textOr (default : Text) {v : Json} (h : v.isWritable = true) :
    ∃ t, textOr default v = .ok t := by
  rw [textOr]
  split
  · exact Json.exists_plain h
  · exact ⟨default, rfl⟩

/-- An entry whose options can be gone through is a field or is refused. -/
theorem ofJson_of_listsOptions {v : Json} (hv : v.isWritable = true) (h : listsOptions v = true) :
    (∃ f, ofJson v = .ok f) ∨ ∃ reason, ofJson v = .error (.malformedRule reason) := by
  cases v with
  | object members =>
    have hmember := Json.isWritable_member hv
    rw [ofJson]
    rw [listsOptions] at h
    split
    · rename_i hname
      rw [hname] at h
      left
      -- the options, the label and the type are read one after the other
      refine exists_bind_eq_ok (exists_liftFault_eq_ok (Json.exists_iterateOrEmpty h))
        fun entries hentries => ?_
      have hwritable :=
        Json.isWritable_of_iterate (hmember "options") (mapError_eq_ok_iff.mp hentries)
      refine exists_bind_eq_ok
        (exists_mapM_eq_ok fun entry hentry => exists_option (hwritable entry hentry))
        fun options _ => ?_
      refine exists_bind_eq_ok (exists_liftFault_eq_ok (exists_textOr _ (hmember "label")))
        fun label _ => ?_
      exact exists_bind_eq_ok (exists_liftFault_eq_ok (exists_textOr _ (hmember "type")))
        fun type _ => ⟨_, rfl⟩
    · exact .inr ⟨_, rfl⟩
  | _ =>
    obtain ⟨shown, hshown⟩ := Json.exists_display _ hv
    refine .inr ⟨Text.ofString "Field entry is not an object: " ++ shown, ?_⟩
    show (liftM _ >>= _ : Except Failure DeclaredField) = _
    rw [hshown]
    rfl

/-- Any other entry cannot be read. -/
theorem ofJson_of_not_listsOptions {v : Json} (h : listsOptions v = false) :
    ofJson v = .error (.fault .wrongKind) := by
  cases v with
  | object members =>
    rw [listsOptions] at h
    split at h
    · rename_i hname
      rw [ofJson, hname]
      simp only
      rw [Json.iterateOrEmpty_eq_error h]
      rfl
    · cases h
  | _ => cases h

end DeclaredField

/-- The fields that entries are, those that are refused left out. -/
def declaredFields (entries : List Json) : List DeclaredField :=
  entries.filterMap fun v => (DeclaredField.ofJson v).toOption

namespace FieldReading

variable {place : DeclaredField → DeclaredField}

/-- A list of records is read to its end if the options of each can be gone through, and not
otherwise. -/
theorem failure?_ofRecords {entries : List Json} (hw : ∀ v ∈ entries, v.isWritable = true)
    (index : Nat) :
    (ofEntries place index (entries.map .record)).failure?
      = if entries.all DeclaredField.listsOptions then none else some (.fault .wrongKind) := by
  induction entries generalizing index with
  | nil => rfl
  | cons v rest ih =>
    obtain ⟨hv, hrest⟩ := List.forall_mem_cons.mp hw
    rw [List.map_cons, ofEntries, FieldEntry.read, List.all_cons]
    cases h : DeclaredField.listsOptions v with
    | true =>
      rw [Bool.true_and, ← ih hrest (index + 1)]
      rcases DeclaredField.ofJson_of_listsOptions hv h with ⟨f, hof⟩ | ⟨reason, hof⟩
      · rw [hof]
        rfl
      · rw [hof]
        rfl
    | false =>
      rw [DeclaredField.ofJson_of_not_listsOptions h]
      rfl

/-- What one entry is read as. -/
def ofEntry (place : DeclaredField → DeclaredField) (index : Nat) (entry : FieldEntry) :
    FieldReading :=
  match entry.read with
  | .ok f => ⟨[.ok (place f)], none⟩
  | .error (.malformedRule reason) => ⟨[.error (reason, index)], none⟩
  | .error e => ⟨[], some e⟩

/-- The entries of a list are read one after the other. -/
theorem ofEntries_cons (index : Nat) (entry : FieldEntry) (rest : List FieldEntry) :
    ofEntries place index (entry :: rest)
      = (ofEntry place index entry).append (ofEntries place (index + 1) rest) := by
  rw [ofEntries, ofEntry]
  cases entry.read with
  | ok f => rfl
  | error e => cases e <;> rfl

theorem failure?_append_eq_none {first second : FieldReading} :
    (first.append second).failure? = none ↔ first.failure? = none ∧ second.failure? = none := by
  rw [append]
  cases h : first.failure? <;> simp [h]

theorem entries_append {first : FieldReading} (h : first.failure? = none) (second : FieldReading) :
    (first.append second).entries = first.entries ++ second.entries := by
  rw [append, h]

/-- What a list leaves out are the entries that are refused, each with its position. -/
theorem skipped_ofEntries {entries : List FieldEntry} {index : Nat}
    (h : (ofEntries place index entries).failure? = none) :
    (ofEntries place index entries).skipped
      = (entries.zipIdx index).filterMap fun e => (refusal? e.1.read).map (·, e.2) := by
  induction entries generalizing index with
  | nil => rfl
  | cons entry rest ih =>
    rw [ofEntries_cons] at h ⊢
    obtain ⟨hfirst, hrest⟩ := failure?_append_eq_none.mp h
    rw [skipped, entries_append hfirst, List.filterMap_append, ← skipped, ← skipped, ih hrest,
      List.zipIdx_cons, ← List.singleton_append, List.filterMap_append]
    congr 1
    rw [ofEntry] at hfirst ⊢
    split at hfirst <;> simp_all [skipped, refusal?]

/-- The fields of a list are those that its entries are, each put into its place. -/
theorem fields_ofEntries {entries : List FieldEntry} {index : Nat}
    (h : (ofEntries place index entries).failure? = none) :
    (ofEntries place index entries).fields
      = (entries.filterMap fun e => e.read.toOption).map place := by
  induction entries generalizing index with
  | nil => rfl
  | cons entry rest ih =>
    rw [ofEntries_cons] at h ⊢
    obtain ⟨hfirst, hrest⟩ := failure?_append_eq_none.mp h
    rw [fields, entries_append hfirst, List.filterMap_append, ← fields, ← fields, ih hrest,
      ← List.singleton_append, List.filterMap_append, List.map_append]
    congr 1
    rw [ofEntry] at hfirst ⊢
    split at hfirst <;> simp_all [fields, Except.toOption]

/-- What a list of records leaves out is what is refused. -/
theorem skipped_ofRecords {records : List Json} {index : Nat}
    (h : (ofEntries place index (records.map .record)).failure? = none) :
    (ofEntries place index (records.map .record)).skipped
      = refusals DeclaredField.ofJson index records := by
  rw [skipped_ofEntries h, List.zipIdx_map, List.filterMap_map]
  rfl

/-- The fields of a list of records are those that its records are. -/
theorem fields_ofRecords {records : List Json} {index : Nat}
    (h : (ofEntries place index (records.map .record)).failure? = none) :
    (ofEntries place index (records.map .record)).fields
      = (declaredFields records).map place := by
  rw [fields_ofEntries h, List.filterMap_map]
  rfl

end FieldReading

end BenefitForm
