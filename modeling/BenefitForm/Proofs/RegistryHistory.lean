import BenefitForm.Proofs.Compilation

/-!
# The history of a registry

A registry may be used in any order: properties are offered and warnings recorded or
taken over directly, and both builders may run on it any number of times. Each use
comes down to a list of calls (`RegistryOperation.calls`), so what one call keeps
holds after every history.

- `Fragment.IsPrefix`, `isPrefix_run`: a registry only grows at its end, so a property
  stays what and where it is.
- `Accounted`: what a registry holds is determined by the calls so far. It keeps the
  first property offered under each name, and every other offer is refused with a
  warning of its own.
- `accounted_run`: both hold for every sequence of operations on a new registry, and
  each fragment that is returned begins with those that were returned before.
-/

namespace BenefitForm

/-! ### Operations -/

/-- A call that may change a registry. -/
inductive RegistryCall where
  /-- A property is offered. -/
  | add (p : FormProperty)
  /-- A warning is recorded. -/
  | warn (w : CompilationWarning)
  /-- Warnings of another stage are taken over. -/
  | adopt (ws : List CompilationWarning)

/-- One use of a registry: a call, or a builder that runs on it. -/
inductive RegistryOperation where
  | call (c : RegistryCall)
  | buildFields (input : FieldInput)
  | buildDocuments (feed : Json) (wallet : Wallet.Input)
  /-- The rules were split and indexed before. -/
  | buildNormalized (rules : NormalizedRules) (wallet : Wallet.Input)

namespace Registry

/-- The registry after a call. -/
def apply (r : Registry) : RegistryCall → Registry
  | .add p => (r.add p).1
  | .warn w => r.warn w
  | .adopt ws => r.adopt ws

/-- The registry after calls in order. -/
def applyAll (r : Registry) (calls : List RegistryCall) : Registry := calls.foldl apply r

/-- The registry after an operation, and the fragment that it returns, if any. -/
def perform (settings : Settings) (r : Registry) : RegistryOperation → Registry × Option Fragment
  | .call c => (r.apply c, none)
  | .buildFields input => ((input.build r).registry, (input.build r).outcome.toOption)
  | .buildDocuments feed wallet =>
    let built := DocumentFields.build settings feed wallet r
    (built.registry, built.outcome.toOption)
  | .buildNormalized rules wallet =>
    let built := DocumentFields.buildNormalized settings rules wallet r
    (built.registry, built.outcome.toOption)

/-- The registry after operations in order. -/
def run (settings : Settings) (r : Registry) (ops : List RegistryOperation) : Registry :=
  ops.foldl (fun r op => (r.perform settings op).1) r

/-- The fragments that operations return, in order. -/
def returned (settings : Settings) : Registry → List RegistryOperation → List Fragment
  | _, [] => []
  | r, op :: ops =>
    (r.perform settings op).2.toList ++ returned settings (r.perform settings op).1 ops

end Registry

/-! ### Calls of the builders -/

/-- The calls by which document fields are added: a warning follows an offer that is accepted and
that no document satisfies. -/
def DocumentFields.calls (r : Registry) : List FormProperty → List RegistryCall
  | [] => []
  | p :: ps =>
    .add p :: ((if (r.add p).2 && isUnmatched p then [.warn (unmatched p.name)] else [])
      ++ calls (add r p) ps)

namespace RegistryOperation

/-- The calls of the builder of the declared fields. -/
def fieldCalls (input : FieldInput) : List RegistryCall :=
  input.read.warnings.map .warn ++ (match input.read.failure? with
    | some _ => []
    | none => input.read.fields.map fun f => .add f.property)

/-- The calls of the builder of the document fields. -/
def documentCalls (settings : Settings) (rules : NormalizedRules) (wallet : Wallet.Input)
    (r : Registry) : List RegistryCall :=
  .adopt rules.warnings :: (match wallet.load.outcome, DocumentFields.plans rules with
    | .ok documents, .ok plans => DocumentFields.calls (r.adopt rules.warnings)
        (plans.map (DocumentPlan.property settings documents))
    | _, _ => [])

/-- The calls that an operation comes down to. -/
def calls (settings : Settings) (r : Registry) : RegistryOperation → List RegistryCall
  | call c => [c]
  | buildFields input => fieldCalls input
  | buildDocuments feed wallet =>
    match (RuleFeed.normalize feed).outcome with
    | .error _ => []
    | .ok rules => documentCalls settings rules wallet r
  | buildNormalized rules wallet => documentCalls settings rules wallet r

end RegistryOperation

namespace Registry

/-- All calls of operations, in order. -/
def history (settings : Settings) : Registry → List RegistryOperation → List RegistryCall
  | _, [] => []
  | r, op :: ops => op.calls settings r ++ history settings (r.perform settings op).1 ops

theorem applyAll_append (r : Registry) (cs ds : List RegistryCall) :
    r.applyAll (cs ++ ds) = (r.applyAll cs).applyAll ds :=
  List.foldl_append

/-- The calls for a list of things of one kind. -/
theorem applyAll_map {α : Type} (call : α → RegistryCall) (r : Registry) (xs : List α) :
    r.applyAll (xs.map call) = xs.foldl (fun r x => r.apply (call x)) r :=
  List.foldl_map

theorem applyAll_documentFields (r : Registry) (ps : List FormProperty) :
    r.applyAll (DocumentFields.calls r ps) = ps.foldl DocumentFields.add r := by
  induction ps generalizing r with
  | nil => rfl
  | cons p ps ih =>
    -- the offer and the warning after it make up one step of the builder
    have hadd : r.applyAll (.add p :: if (r.add p).2 && DocumentFields.isUnmatched p then
        [.warn (DocumentFields.unmatched p.name)] else []) = DocumentFields.add r p := by
      rw [DocumentFields.add]
      split <;> rfl
    rw [DocumentFields.calls, ← List.cons_append, applyAll_append, hadd, ih, List.foldl_cons]

theorem applyAll_fieldCalls (r : Registry) (input : FieldInput) :
    r.applyAll (RegistryOperation.fieldCalls input) = (input.build r).registry := by
  rw [RegistryOperation.fieldCalls, applyAll_append, applyAll_map, FieldInput.build]
  cases input.read.failure? with
  | some e => rfl
  | none =>
    simp only [applyAll_map, addAll, List.foldl_map]
    rfl

theorem applyAll_documentCalls (settings : Settings) (rules : NormalizedRules)
    (wallet : Wallet.Input) (r : Registry) :
    r.applyAll (RegistryOperation.documentCalls settings rules wallet r)
      = (DocumentFields.buildNormalized settings rules wallet r).registry := by
  rw [RegistryOperation.documentCalls, DocumentFields.buildNormalized]
  cases wallet.load.outcome with
  | error e => rfl
  | ok documents =>
    cases DocumentFields.plans rules with
    | error e => rfl
    | ok plans => exact applyAll_documentFields (r.adopt rules.warnings) _

/-- An operation changes a registry as its calls do. -/
theorem perform_eq_applyAll (settings : Settings) (r : Registry) (op : RegistryOperation) :
    (r.perform settings op).1 = r.applyAll (op.calls settings r) := by
  cases op with
  | call c => rfl
  | buildFields input => exact (applyAll_fieldCalls r input).symm
  | buildDocuments feed wallet =>
    rw [perform, RegistryOperation.calls, DocumentFields.build]
    cases (RuleFeed.normalize feed).outcome with
    | error e => rfl
    | ok rules => exact (applyAll_documentCalls settings rules wallet r).symm
  | buildNormalized rules wallet => exact (applyAll_documentCalls settings rules wallet r).symm

/-- Operations change a registry as their calls do. -/
theorem run_eq_applyAll (settings : Settings) (r : Registry) (ops : List RegistryOperation) :
    r.run settings ops = r.applyAll (history settings r ops) := by
  induction ops generalizing r with
  | nil => rfl
  | cons op ops ih =>
    rw [history, applyAll_append, ← perform_eq_applyAll, ← ih]
    rfl

end Registry

/-! ### Growth -/

/-- The builder of the declared fields returns what the registry then holds. -/
theorem FieldInput.eq_fragment_of_build {input : FieldInput} {r : Registry} {f : Fragment}
    (h : (input.build r).outcome.toOption = some f) : f = (input.build r).registry.fragment := by
  simp only [FieldInput.build] at h ⊢
  cases hread : input.read.failure? with
  | some e =>
    rw [hread] at h
    cases h
  | none =>
    rw [hread] at h
    cases h
    rfl

namespace DocumentFields

/-- The builder of the document fields returns what the registry then holds. -/
theorem eq_fragment_of_buildNormalized {settings : Settings} {rules : NormalizedRules}
    {wallet : Wallet.Input} {r : Registry} {f : Fragment}
    (h : (buildNormalized settings rules wallet r).outcome.toOption = some f) :
    f = (buildNormalized settings rules wallet r).registry.fragment := by
  rw [buildNormalized] at h ⊢
  cases hload : wallet.load.outcome with
  | error e =>
    simp only [hload] at h
    cases h
  | ok documents =>
    cases hplans : plans rules with
    | error e =>
      simp only [hload, hplans] at h
      cases h
    | ok plans =>
      simp only [hload, hplans] at h
      cases h
      rfl

theorem eq_fragment_of_build {settings : Settings} {feed : Json} {wallet : Wallet.Input}
    {r : Registry} {f : Fragment} (h : (build settings feed wallet r).outcome.toOption = some f) :
    f = (build settings feed wallet r).registry.fragment := by
  rw [build] at h ⊢
  cases hrules : (RuleFeed.normalize feed).outcome with
  | error e =>
    simp only [hrules] at h
    cases h
  | ok rules =>
    simp only [hrules] at h
    exact eq_fragment_of_buildNormalized h

end DocumentFields

/-- Whether a fragment begins with another one. -/
structure Fragment.IsPrefix (earlier later : Fragment) : Prop where
  properties : earlier.properties <+: later.properties
  required : earlier.required <+: later.required
  warnings : earlier.warnings <+: later.warnings

namespace Fragment.IsPrefix

protected theorem refl (f : Fragment) : f.IsPrefix f :=
  ⟨List.prefix_rfl, List.prefix_rfl, List.prefix_rfl⟩

protected theorem trans {f g h : Fragment} (hfg : f.IsPrefix g) (hgh : g.IsPrefix h) :
    f.IsPrefix h :=
  ⟨hfg.properties.trans hgh.properties, hfg.required.trans hgh.required,
    hfg.warnings.trans hgh.warnings⟩

end Fragment.IsPrefix

namespace Registry

variable (settings : Settings)

/-- A call adds at the end of a registry. -/
theorem isPrefix_apply (r : Registry) (c : RegistryCall) :
    r.fragment.IsPrefix (r.apply c).fragment := by
  cases c with
  | add p =>
    rw [apply, add]
    split
    · exact ⟨List.prefix_rfl, List.prefix_rfl, List.prefix_append _ _⟩
    · refine ⟨List.prefix_append _ _, ?_, List.prefix_rfl⟩
      show r.required <+: if p.required then r.required ++ [p.name] else r.required
      split
      · exact List.prefix_append _ _
      · exact List.prefix_rfl
  | warn w => exact ⟨List.prefix_rfl, List.prefix_rfl, List.prefix_append _ _⟩
  | adopt ws => exact ⟨List.prefix_rfl, List.prefix_rfl, List.prefix_append _ _⟩

theorem isPrefix_applyAll (r : Registry) (calls : List RegistryCall) :
    r.fragment.IsPrefix (r.applyAll calls).fragment := by
  induction calls generalizing r with
  | nil => exact .refl _
  | cons c calls ih => exact (isPrefix_apply r c).trans (ih (r.apply c))

/-- Operations add at the end of a registry. -/
theorem isPrefix_run (r : Registry) (ops : List RegistryOperation) :
    r.fragment.IsPrefix (r.run settings ops).fragment := by
  rw [run_eq_applyAll]
  exact isPrefix_applyAll r _

theorem run_append (r : Registry) (before after : List RegistryOperation) :
    r.run settings (before ++ after) = (r.run settings before).run settings after :=
  List.foldl_append

/-- A fragment that is returned is what the registry then holds. -/
theorem eq_fragment_of_perform {r : Registry} {op : RegistryOperation} {f : Fragment}
    (h : (r.perform settings op).2 = some f) : f = (r.perform settings op).1.fragment := by
  cases op with
  | call c => cases h
  | buildFields input => exact FieldInput.eq_fragment_of_build h
  | buildDocuments feed wallet => exact DocumentFields.eq_fragment_of_build h
  | buildNormalized rules wallet => exact DocumentFields.eq_fragment_of_buildNormalized h

/-- Every fragment that is returned begins with what the registry held before. -/
theorem isPrefix_of_mem_returned {r : Registry} {ops : List RegistryOperation} {f : Fragment}
    (h : f ∈ returned settings r ops) : r.fragment.IsPrefix f := by
  induction ops generalizing r with
  | nil => cases h
  | cons op ops ih =>
    have hgrown := isPrefix_run settings r [op]
    rcases List.mem_append.mp h with h | h
    · rw [eq_fragment_of_perform settings (Option.mem_toList.mp h)]
      exact hgrown
    · exact hgrown.trans (ih h)

/-- Every fragment that is returned begins with those that were returned before. -/
theorem pairwise_returned (r : Registry) (ops : List RegistryOperation) :
    (returned settings r ops).Pairwise Fragment.IsPrefix := by
  induction ops generalizing r with
  | nil => exact .nil
  | cons op ops ih =>
    rw [returned, List.pairwise_append]
    refine ⟨?_, ih _, ?_⟩
    · cases (r.perform settings op).2 <;> simp
    · intro f hf g hg
      rw [eq_fragment_of_perform settings (Option.mem_toList.mp hf)]
      exact isPrefix_of_mem_returned settings hg

end Registry

/-! ### Accounts -/

/-- An attempt to add a property, with the registry that it meets. -/
structure AddAttempt where
  before : Registry
  property : FormProperty

namespace AddAttempt

/-- Whether the property is refused. -/
def isRefused (a : AddAttempt) : Bool := !(a.before.add a.property).2

/-- The warnings that the attempt records itself. -/
def recorded (a : AddAttempt) : List CompilationWarning :=
  (a.before.add a.property).1.warnings.drop a.before.warnings.length

end AddAttempt

namespace Registry

/-- The properties that calls offer, in order. -/
def offered (calls : List RegistryCall) : List FormProperty :=
  calls.filterMap fun
    | .add p => some p
    | _ => none

/-- The warnings that calls bring along. -/
def given (calls : List RegistryCall) : List CompilationWarning :=
  calls.flatMap fun
    | .add _ => []
    | .warn w => [w]
    | .adopt ws => ws

/-- The attempts to add a property among calls, in order. -/
def attempts : Registry → List RegistryCall → List AddAttempt
  | _, [] => []
  | r, .add p :: calls => ⟨r, p⟩ :: attempts (r.add p).1 calls
  | r, c :: calls => attempts (r.apply c) calls

/-- How many attempts to add a property are refused. -/
def refusals (r : Registry) (calls : List RegistryCall) : Nat :=
  (attempts r calls).countP (·.isRefused)

/-- What a registry holds that was new before certain calls. -/
structure Accounted (calls : List RegistryCall) (r : Registry) : Prop where
  /-- The calls are all that has been done. -/
  reached : r = applyAll {} calls
  /-- The required names are those of the required properties, in order. -/
  required : r.required = (r.properties.filter (·.required)).map (·.name)
  required_nodup : r.required.Nodup
  /-- There is a property for each name that was offered, in the order of the first offers. -/
  names : r.names = ProofSet.distinct ((offered calls).map (·.name))
  /-- Each property is the first that was offered under its name. -/
  first : ∀ p ∈ r.properties, (offered calls).find? (fun q => q.name == p.name) = some p
  /-- Each attempt that is refused records one warning about a duplicate, and no other attempt
  does. -/
  refusals : refusals {} calls
    = ((attempts {} calls).flatMap (·.recorded)).countP isDuplicate
  /-- Every offer is kept or refused. -/
  offers : (offered calls).length = r.properties.length + Registry.refusals {} calls
  /-- All other warnings about duplicates were brought along. -/
  duplicates : r.warnings.countP isDuplicate
    = Registry.refusals {} calls + (given calls).countP isDuplicate

/-! ### One attempt -/

/-- A property whose name is taken is refused with a warning. -/
theorem add_of_mem {r : Registry} {p : FormProperty} (h : p.name ∈ r.names) :
    r.add p = (r.warn (.duplicate (.text p.name)), false) :=
  if_pos (contains_iff.mpr h)

/-- Any other property is added at the end. -/
theorem add_of_not_mem {r : Registry} {p : FormProperty} (h : p.name ∉ r.names) :
    r.add p = ({ properties := r.properties ++ [p]
                 required := if p.required then r.required ++ [p.name] else r.required
                 warnings := r.warnings }, true) :=
  if_neg fun hc => h (contains_iff.mp hc)

/-- An attempt records a warning about a duplicate iff it is refused. -/
theorem countP_recorded (a : AddAttempt) :
    a.recorded.countP isDuplicate = if a.isRefused then 1 else 0 := by
  rw [AddAttempt.recorded, AddAttempt.isRefused]
  by_cases h : a.property.name ∈ a.before.names
  · rw [add_of_mem h, warn, List.drop_left]
    rfl
  · rw [add_of_not_mem h, List.drop_length]
    rfl

theorem countP_isRefused (as : List AddAttempt) :
    as.countP (·.isRefused) = (as.flatMap (·.recorded)).countP isDuplicate := by
  induction as with
  | nil => rfl
  | cons a as ih =>
    rw [List.flatMap_cons, List.countP_append, countP_recorded, List.countP_cons, ih, Nat.add_comm]

/-! ### Lists of calls -/

theorem consistent_applyAll {r : Registry} (h : r.Consistent) (calls : List RegistryCall) :
    (r.applyAll calls).Consistent := by
  induction calls generalizing r with
  | nil => exact h
  | cons c calls ih =>
    refine ih ?_
    cases c with
    | add p =>
      rw [apply, add_eq_offer]
      exact h.offer _ p
    | warn w => exact h
    | adopt ws => exact h

/-- A new registry that is called keeps the first property of each name. -/
theorem properties_applyAll (calls : List RegistryCall) :
    (applyAll {} calls).properties = firstsBy FormProperty.name (offered calls) := by
  induction calls using List.reverseRecOn with
  | nil => rfl
  | append_singleton calls c ih =>
    rw [applyAll_append]
    show ((applyAll {} calls).apply c).properties = _
    cases c with
    | add p =>
      have hoffered : offered (calls ++ [.add p]) = offered calls ++ [p] := List.filterMap_append
      have htaken : p.name ∈ (applyAll {} calls).names ↔ p.name ∈ (offered calls).map (·.name) := by
        rw [names, ih]
        exact mem_map_firstsBy FormProperty.name
      rw [hoffered, firstsBy_concat, apply, ← ih]
      by_cases h : p.name ∈ (applyAll {} calls).names
      · rw [if_pos (htaken.mp h), add_of_mem h]
        rfl
      · rw [if_neg (h ∘ htaken.mpr), add_of_not_mem h]
    | warn w =>
      rw [offered, List.filterMap_append]
      exact ih.trans (congrArg _ (List.append_nil _).symm)
    | adopt ws =>
      rw [offered, List.filterMap_append]
      exact ih.trans (congrArg _ (List.append_nil _).symm)

/-- An offer is refused iff the name is taken. -/
theorem refusals_add (r : Registry) (p : FormProperty) (calls : List RegistryCall) :
    refusals r (.add p :: calls)
      = refusals (r.add p).1 calls + if p.name ∈ r.names then 1 else 0 := by
  rw [refusals, attempts, List.countP_cons, AddAttempt.isRefused]
  by_cases h : p.name ∈ r.names
  · rw [if_pos h, add_of_mem h]
    rfl
  · rw [if_neg h, add_of_not_mem h]
    rfl

/-- So is the warning about it recorded. -/
theorem countP_warnings_add (r : Registry) (p : FormProperty) :
    (r.add p).1.warnings.countP isDuplicate
      = r.warnings.countP isDuplicate + if p.name ∈ r.names then 1 else 0 := by
  by_cases h : p.name ∈ r.names
  · rw [if_pos h, add_of_mem h, warn, List.countP_append]
    rfl
  · rw [if_neg h, add_of_not_mem h, Nat.add_zero]

/-- Every property that is offered is kept or refused. -/
theorem length_offered (r : Registry) (calls : List RegistryCall) :
    (offered calls).length + r.properties.length
      = (r.applyAll calls).properties.length + refusals r calls := by
  induction calls generalizing r with
  | nil => exact Nat.add_comm _ _
  | cons c calls ih =>
    cases c with
    | add p =>
      have hrest : (offered calls).length + (r.add p).1.properties.length
          = (r.applyAll (.add p :: calls)).properties.length + refusals (r.add p).1 calls :=
        ih (r.add p).1
      have hoffered : (offered (.add p :: calls)).length = (offered calls).length + 1 := rfl
      rw [refusals_add, hoffered]
      by_cases h : p.name ∈ r.names
      · have hkept : (r.add p).1.properties.length = r.properties.length := by
          rw [add_of_mem h]
          rfl
        rw [if_pos h]
        omega
      · have hkept : (r.add p).1.properties.length = r.properties.length + 1 := by
          rw [add_of_not_mem h]
          exact List.length_append
        rw [if_neg h]
        omega
    | warn w => exact ih (r.warn w)
    | adopt ws => exact ih (r.adopt ws)

/-- The warnings about duplicates are those about refused properties and those that were brought
along. -/
theorem countP_warnings_applyAll (r : Registry) (calls : List RegistryCall) :
    (r.applyAll calls).warnings.countP isDuplicate
      = r.warnings.countP isDuplicate + refusals r calls + (given calls).countP isDuplicate := by
  induction calls generalizing r with
  | nil => rfl
  | cons c calls ih =>
    have hrest : (r.applyAll (c :: calls)).warnings.countP isDuplicate
        = (r.apply c).warnings.countP isDuplicate + refusals (r.apply c) calls
          + (given calls).countP isDuplicate := ih (r.apply c)
    rw [hrest]
    cases c with
    | add p =>
      rw [refusals_add, apply, countP_warnings_add]
      show _ = _ + _ + (given calls).countP isDuplicate
      omega
    | warn w =>
      show (r.warnings ++ [w]).countP isDuplicate + refusals (r.warn w) calls + _
        = _ + refusals (r.warn w) calls + ([w] ++ given calls).countP isDuplicate
      simp only [List.countP_append]
      omega
    | adopt ws =>
      show (r.warnings ++ ws).countP isDuplicate + refusals (r.adopt ws) calls + _
        = _ + refusals (r.adopt ws) calls + (ws ++ given calls).countP isDuplicate
      simp only [List.countP_append]
      omega

/-- What holds of a new registry after any calls. -/
theorem accounted_applyAll (calls : List RegistryCall) : Accounted calls (applyAll {} calls) := by
  have hproperties := properties_applyAll calls
  have hconsistent := consistent_applyAll consistent_empty calls
  constructor
  case reached => rfl
  case required => exact hconsistent
  case required_nodup =>
    rw [show (applyAll {} calls).required = _ from hconsistent, hproperties]
    exact (List.filter_sublist.map _).nodup (nodup_map_firstsBy FormProperty.name _)
  case names =>
    rw [names, hproperties, map_key_firstsBy]
  case first =>
    intro p hp
    rw [hproperties] at hp
    exact (mem_firstsBy_iff FormProperty.name).mp hp
  case refusals => exact countP_isRefused _
  case offers => exact length_offered {} calls
  case duplicates =>
    rw [countP_warnings_applyAll]
    exact congrArg (· + _) (Nat.zero_add _)

/-- Whatever is done with a new registry, what it holds is accounted for by the calls that were
made, it begins with what it held at any earlier moment, and the fragments that it returned begin
with one another. -/
theorem accounted_run (settings : Settings) (before after : List RegistryOperation) :
    Accounted (history settings {} (before ++ after)) (run settings {} (before ++ after)) ∧
      (run settings {} before).fragment.IsPrefix (run settings {} (before ++ after)).fragment ∧
      (returned settings {} (before ++ after)).Pairwise Fragment.IsPrefix := by
  refine ⟨?_, ?_, pairwise_returned settings {} _⟩
  · rw [run_eq_applyAll]
    exact accounted_applyAll _
  · rw [run_append]
    exact isPrefix_run settings _ after

end Registry

end BenefitForm
