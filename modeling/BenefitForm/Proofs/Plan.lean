import BenefitForm.DocumentField
import BenefitForm.Proofs.Grouping
import BenefitForm.Proofs.RuleFeed

/-!
# What is planned for criteria

A group of criteria has one field for all of them or one for each. Either way
every field that is planned is required, and every criterion has a field that
lists it among its reasons and accepts the proofs that the criterion allows
(`DocumentPlan.Serves`). Groups that differ in their criteria may still have
fields of one name, so this says nothing yet about the fields that are kept.

- `Criterion.isOwn_of_mem`, `ProofGroup.isMerged_of_mergedPlan`: what the plan of a
  criterion and the merged plan of a group say.
- `ProofGroup.plan_of_mem`: what the plans of a group are for.
- `exists_serves`: every criterion of a group has its field.
- `DocumentFields.plans_eq_ok`: usable rules always have plans, those of the
  groups first; `DocumentFields.forall_mem_plans` goes through all of them.
-/

namespace BenefitForm

/-- Whether a field is one in which any proof of a criterion may be submitted, and no other. -/
structure DocumentPlan.Serves (plan : DocumentPlan) (c : Criterion) : Prop where
  required : plan.required = true
  reason : c.name ∈ plan.submissionReasons
  proofs : ∀ proof, proof ∈ plan.proofs ↔ proof ∈ c.allowedProofs

/-! ### One criterion -/

namespace Criterion

/-- What the plan of a criterion on its own says: it is for its proofs and for it alone, and has no
document type of its own. -/
structure IsOwn (c : Criterion) (plan : DocumentPlan) : Prop where
  required : plan.required = true
  reasons : plan.submissionReasons = [c.name]
  proofs : plan.proofs = ProofSet.distinct c.allowedProofs
  nonempty : ProofSet.distinct c.allowedProofs ≠ []
  proofLabel : plan.proofLabel
    = Text.join ProofGroup.labelSeparator (ProofSet.distinct c.allowedProofs)
  /-- It records one of the proofs. -/
  recorded : ∃ proof ∈ ProofSet.distinct c.allowedProofs, plan.documentSubtype? = some proof
  documentType : plan.documentType = eligibilityDocumentType

theorem isOwn_of_mem {c : Criterion} {plan : DocumentPlan} (h : plan ∈ c.plans) :
    c.IsOwn plan := by
  unfold plans at h
  -- a plan for one proof has another name than one for several, and says the same otherwise
  split at h
  · cases h
  · rename_i hproofs
    rw [List.mem_singleton.mp h]
    constructor <;> simp [hproofs, Text.join]
  · rename_i hproofs
    rw [List.mem_singleton.mp h]
    constructor <;> simp [hproofs]

/-- A criterion with proofs has one plan. -/
theorem exists_plans_eq {c : Criterion} (h : c.allowedProofs ≠ []) :
    ∃ plan, c.plans = [plan] ∧ c.IsOwn plan := by
  have hone : ∃ plan, c.plans = [plan] := by
    obtain ⟨proof, hproof⟩ := List.exists_mem_of_ne_nil _ h
    unfold plans
    split
    · rename_i hnone
      exact absurd (mem_distinct.mpr hproof) (hnone ▸ List.not_mem_nil)
    · exact ⟨_, rfl⟩
    · exact ⟨_, rfl⟩
  obtain ⟨plan, hplan⟩ := hone
  exact ⟨plan, hplan, isOwn_of_mem (hplan ▸ List.mem_singleton.mpr rfl)⟩

theorem exists_serves {c : Criterion} (h : c.allowedProofs ≠ []) :
    ∃ plan ∈ c.plans, plan.Serves c := by
  obtain ⟨plan, hplan, hof⟩ := exists_plans_eq h
  refine ⟨plan, hplan ▸ List.mem_singleton.mpr rfl, hof.required, ?_, fun proof => ?_⟩
  · rw [hof.reasons]
    exact List.mem_singleton.mpr rfl
  · rw [hof.proofs]
    exact mem_distinct

end Criterion

/-! ### Groups -/

namespace ProofGroup

/-- What the merged plan of a group says: it is for all its proofs and all its criteria, and named
after these. -/
structure IsMerged (g : ProofGroup) (types : List Text) (plan : DocumentPlan) : Prop where
  name : plan.name = Text.join (Text.ofString "_") g.criterionNames ++ nameSuffix
  required : plan.required = true
  reasons : plan.submissionReasons = g.criterionNames
  proofs : plan.proofs = g.allowedProofs
  nonempty : g.allowedProofs ≠ []
  proofLabel : plan.proofLabel = Text.join labelSeparator g.allowedProofs
  /-- It records one of the proofs. -/
  recorded : ∃ proof ∈ g.allowedProofs, plan.documentSubtype? = some proof
  /-- It has the document type of the proofs, where that is one. -/
  documentType : plan.documentType = match ProofSet.distinct (types.filter fun t => !t.isEmpty) with
    | [t] => t
    | _ => eligibilityDocumentType

theorem isMerged_of_mergedPlan {g : ProofGroup} {types : List Text} {plan : DocumentPlan}
    (h : g.mergedPlan types = .ok plan) : g.IsMerged types plan := by
  unfold mergedPlan at h
  dsimp only at h
  split at h
  · cases h
  · rename_i first rest hproofs
    cases h
    exact {
      name := rfl
      required := rfl
      reasons := rfl
      proofs := rfl
      nonempty := hproofs ▸ List.cons_ne_nil first rest
      proofLabel := rfl
      recorded := ⟨first, hproofs ▸ List.mem_cons_self, rfl⟩
      documentType := rfl }

/-- A group with proofs has a merged plan. -/
theorem exists_mergedPlan {g : ProofGroup} (h : g.allowedProofs ≠ []) (types : List Text) :
    ∃ plan, g.mergedPlan types = .ok plan := by
  rcases hproofs : g.allowedProofs with _ | ⟨first, rest⟩
  · exact absurd hproofs h
  · simp only [mergedPlan, hproofs]
    exact ⟨_, rfl⟩

/-- The plans of a group are those of its criteria or, where all proofs are backed, its merged
one. -/
theorem plans_eq_ok {g : ProofGroup} {rules : NormalizedRules} {ps : List DocumentPlan}
    (h : g.plans rules = .ok ps) :
    ps = g.criteria.flatMap Criterion.plans ∨
      ∃ types plan, g.coverage? rules = some types ∧ g.mergedPlan types = .ok plan ∧
        ps = [plan] := by
  unfold plans at h
  split at h
  · rename_i types hcoverage
    split at h
    · cases h
      exact .inl rfl
    · cases hmerged : g.mergedPlan types with
      | error e =>
        rw [hmerged] at h
        cases h
      | ok plan =>
        rw [hmerged] at h
        cases h
        exact .inr ⟨types, plan, hcoverage, hmerged, rfl⟩
  · cases h
    exact .inl rfl

/-- A group whose proofs are all backed has its merged plan alone. -/
theorem exists_plans_of_coverage {g : ProofGroup} {rules : NormalizedRules} {types : List Text}
    (hcoverage : g.coverage? rules = some types) (hnames : g.criterionNames ≠ [])
    (hproofs : g.allowedProofs ≠ []) :
    ∃ plan, g.mergedPlan types = .ok plan ∧ g.plans rules = .ok [plan] := by
  obtain ⟨plan, hplan⟩ := exists_mergedPlan hproofs types
  refine ⟨plan, hplan, ?_⟩
  have hsome : g.criterionNames.isEmpty = false := List.isEmpty_eq_false_iff.mpr hnames
  simp only [plans, hcoverage, hsome, hplan]
  rfl

/-- A group with proofs always has plans. -/
theorem exists_plans {g : ProofGroup} (h : g.allowedProofs ≠ []) (rules : NormalizedRules) :
    ∃ ps, g.plans rules = .ok ps := by
  unfold plans
  split
  · rename_i types _
    split
    · exact ⟨_, rfl⟩
    · obtain ⟨plan, hplan⟩ := exists_mergedPlan h types
      rw [hplan]
      exact ⟨_, rfl⟩
  · exact ⟨_, rfl⟩

/-- A plan of a group is for the whole group or for one criterion of it. -/
theorem plan_of_mem {g : ProofGroup} {rules : NormalizedRules} {ps : List DocumentPlan}
    (h : g.plans rules = .ok ps) {plan : DocumentPlan} (hplan : plan ∈ ps) :
    plan.required = true ∧
      (plan.submissionReasons = g.criterionNames ∧ plan.proofs = g.allowedProofs ∨
        ∃ c ∈ g.criteria, plan.submissionReasons = [c.name] ∧
          plan.proofs = ProofSet.distinct c.allowedProofs) := by
  rcases plans_eq_ok h with rfl | ⟨types, merged, -, hmerged, rfl⟩
  · obtain ⟨c, hc, hplan⟩ := List.mem_flatMap.mp hplan
    have hof := Criterion.isOwn_of_mem hplan
    exact ⟨hof.required, .inr ⟨c, hc, hof.reasons, hof.proofs⟩⟩
  · rw [List.mem_singleton] at hplan
    subst hplan
    have hof := isMerged_of_mergedPlan hmerged
    exact ⟨hof.required, .inl ⟨hof.reasons, hof.proofs⟩⟩

/-- Every criterion of a group has its field, where the proofs of the group are its own. -/
theorem exists_serves {criteria : List Criterion} {first c : Criterion} {rules : NormalizedRules}
    {ps : List DocumentPlan} (h : (among criteria first).plans rules = .ok ps)
    (hc : c ∈ (among criteria first).criteria) (hne : c.allowedProofs ≠ [])
    (hproofs : ∀ proof, proof ∈ first.allowedProofs ↔ proof ∈ c.allowedProofs) :
    ∃ plan ∈ ps, plan.Serves c := by
  rcases plans_eq_ok h with rfl | ⟨types, merged, -, hmerged, rfl⟩
  · obtain ⟨plan, hplan, hserves⟩ := Criterion.exists_serves hne
    exact ⟨plan, List.mem_flatMap.mpr ⟨c, hc, hplan⟩, hserves⟩
  · have hof := isMerged_of_mergedPlan hmerged
    refine ⟨merged, List.mem_singleton.mpr rfl, hof.required, ?_, fun proof => ?_⟩
    · rw [hof.reasons]
      exact List.mem_map_of_mem hc
    · rw [hof.proofs, ← hproofs]
      exact mem_distinct

end ProofGroup

/-! ### Whole feeds -/

namespace DocumentFields

open ProofGroup

/-- The plans of a group of usable rules. -/
theorem exists_plans_of_sound {rules : NormalizedRules} (h : rules.Sound) {g : ProofGroup}
    (hg : g ∈ ofCriteria rules.criteria) : ∃ ps, g.plans rules = .ok ps := by
  obtain ⟨c, hc, rfl⟩ := mem_ofCriteria hg
  refine exists_plans ?_ rules
  obtain ⟨proof, hproof⟩ := List.exists_mem_of_ne_nil _ (h.criteria c hc).2.1
  exact List.ne_nil_of_mem (mem_distinct.mpr hproof)

/-- Usable rules always have plans: those of the groups, then those of document rules. -/
theorem plans_eq_ok {rules : NormalizedRules} (h : rules.Sound) :
    ∃ grouped, List.Forall₂ (fun g ps => g.plans rules = .ok ps) (ofCriteria rules.criteria)
        grouped ∧
      plans rules = .ok (grouped.flatten
        ++ DocumentRule.plans rules.documentRules (ofCriteria rules.criteria)) := by
  obtain ⟨grouped, hrun⟩ := exists_mapM_eq_ok fun g hg => exists_plans_of_sound h hg
  refine ⟨grouped, mapM_eq_ok_iff.mp hrun, ?_⟩
  rw [plans, hrun]
  rfl

/-- What holds of the fields of criteria, of whole groups and of document rules holds of every field
that is planned for usable rules. -/
theorem forall_mem_plans {Q : DocumentPlan → Prop} {rules : NormalizedRules} (h : rules.Sound)
    (hcriterion : ∀ c ∈ rules.criteria, ∀ plan ∈ c.plans, Q plan)
    (hmerged : ∀ g ∈ ofCriteria rules.criteria, ∀ types plan, g.mergedPlan types = .ok plan →
      Q plan)
    (hdocument : ∀ d ∈ rules.documentRules, ∀ proof ∈ d.allowedProofs, Q (d.planFor proof))
    {ps : List DocumentPlan} (hps : plans rules = .ok ps) : ∀ plan ∈ ps, Q plan := by
  obtain ⟨grouped, heach, hok⟩ := plans_eq_ok h
  rw [hok] at hps
  cases hps
  intro plan hplan
  rcases List.mem_append.mp hplan with hplan | hplan
  · obtain ⟨gs, hgs, hmem⟩ := List.mem_flatten.mp hplan
    obtain ⟨g, hg, hok⟩ := exists_of_mem_right heach hgs
    rcases ProofGroup.plans_eq_ok hok with rfl | ⟨types, merged, -, hmergedPlan, rfl⟩
    · obtain ⟨c, hc, hplan⟩ := List.mem_flatMap.mp hmem
      obtain ⟨first, -, rfl⟩ := mem_ofCriteria hg
      exact hcriterion c (mem_criteria_among.mp hc).1 plan hplan
    · rw [List.mem_singleton.mp hmem]
      exact hmerged g hg types merged hmergedPlan
  · rw [DocumentRule.plans, List.mem_flatMap] at hplan
    obtain ⟨d, hd, hplan⟩ := hplan
    obtain ⟨proof, hproof, rfl⟩ := List.mem_map.mp hplan
    have hrule : d ∈ rules.documentRules := by
      rcases List.mem_append.mp hd with hd | hd
      · exact (List.mem_filter.mp hd).1
      · exact (List.mem_filter.mp hd).1
    exact hdocument d hrule proof (List.mem_filter.mp hproof).1

/-- No plan of usable rules accepts the empty text for a proof. -/
theorem proof_ne_nil {rules : NormalizedRules} (h : rules.Sound) {ps : List DocumentPlan}
    (hps : plans rules = .ok ps) {plan : DocumentPlan} (hplan : plan ∈ ps) {proof : ProofType}
    (hproof : proof ∈ plan.proofs) : proof ≠ [] := by
  refine forall_mem_plans (Q := fun plan => ∀ proof ∈ plan.proofs, proof ≠ []) h ?_ ?_ ?_ hps
    plan hplan proof hproof
  · intro c hc plan hplan proof hproof
    rw [(Criterion.isOwn_of_mem hplan).proofs] at hproof
    exact (h.criteria c hc).2.2 proof (mem_distinct.mp hproof)
  · intro g hg types plan hmerged proof hproof
    obtain ⟨first, hfirst, rfl⟩ := mem_ofCriteria hg
    rw [(isMerged_of_mergedPlan hmerged).proofs] at hproof
    exact (h.criteria first hfirst).2.2 proof (mem_distinct.mp hproof)
  · intro d hd p hp proof hproof
    rw [List.mem_singleton.mp hproof]
    exact (h.documentRules d hd).2.2 p hp

end DocumentFields

end BenefitForm
