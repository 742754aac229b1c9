import BenefitForm.Proofs.FeedPartition

/-!
# Which criteria a field stands for

The fields that a group of criteria has cut the list of its criteria into blocks: one
block for all where every proof is backed, or else one for each criterion. A field
stands for its block (`DocumentPlan.StandsFor`): it is required, asks for the proofs
that all criteria of the block accept, and gives their names as its reasons. As the
blocks make up the group, every occurrence of a criterion has one field.

- `Criterion.plans_standFor`, `ProofGroup.mergedPlan_standsFor`: the two kinds of blocks.
- `ProofGroup.plans_standFor`: the fields of a group.
- `RuleFeed.plans_standFor_blocks`: those of every feed.
-/

namespace BenefitForm

/-- Whether a field stands for a block of criteria. -/
structure DocumentPlan.StandsFor (rules : NormalizedRules) (plan : DocumentPlan)
    (block : List Criterion) : Prop where
  /-- It stands for some criterion. -/
  nonempty : block ≠ []
  required : plan.required = true
  /-- Its reasons are the names of the criteria, in order. -/
  reasons : plan.submissionReasons = block.map (·.name)
  nodup : plan.proofs.Nodup
  /-- Each of the criteria accepts its proofs and no others. -/
  proofs : ∀ c ∈ block, plan.proofs.toFinset = c.proofSet
  /-- It stands for several criteria only if document rules list its proofs. -/
  joint : 1 < block.length →
    ∀ proof ∈ plan.proofs, ∃ d ∈ rules.documentRules, proof ∈ d.allowedProofs
  /-- It has a document type of its own only if that type backs each of its proofs. -/
  typed : plan.documentType ≠ eligibilityDocumentType → ∀ proof ∈ plan.proofs,
    (∃ d ∈ rules.documentRules, proof ∈ d.allowedProofs) ∧
      rules.documentType? proof = some plan.documentType

/-- The reasons of fields are the names of the criteria that the fields stand for. -/
theorem DocumentPlan.flatMap_reasons {rules : NormalizedRules} {ps : List DocumentPlan}
    {blocks : List (List Criterion)} (h : List.Forall₂ (StandsFor rules) ps blocks) :
    ps.flatMap (·.submissionReasons) = blocks.flatten.map (·.name) := by
  induction h with
  | nil => rfl
  | cons hfirst _ ih =>
    rw [List.flatMap_cons, List.flatten_cons, List.map_append, hfirst.reasons, ih]

/-- The type of a proof is that of a document rule that lists it. -/
theorem NormalizedRules.TellsFirsts.exists_mem {rules : NormalizedRules} (h : rules.TellsFirsts)
    {proof : ProofType} {type : Text} (htype : rules.documentType? proof = some type) :
    ∃ d ∈ rules.documentRules, proof ∈ d.allowedProofs ∧ d.documentType = type := by
  rw [documentType?_eq h, Option.or_eq_some_iff] at htype
  rcases htype with hoptional | ⟨-, hmandatory⟩
  · exact exists_of_firstType? hoptional
  · exact exists_of_firstType? hmandatory

/-! ### One criterion -/

namespace Criterion

/-- The field of a criterion stands for it alone. -/
theorem exists_standsFor (rules : NormalizedRules) {c : Criterion} (h : c.allowedProofs ≠ []) :
    ∃ plan, c.plans = [plan] ∧ plan.StandsFor rules [c] := by
  obtain ⟨plan, hplan, hof⟩ := exists_plans_eq h
  refine ⟨plan, hplan, ?_⟩
  constructor
  case nonempty => exact List.cons_ne_nil _ _
  case required => exact hof.required
  case reasons => exact hof.reasons
  case nodup =>
    rw [hof.proofs]
    exact ProofSet.nodup_distinct _
  case proofs =>
    intro d hd
    rw [List.mem_singleton.mp hd, hof.proofs, ProofSet.toFinset_distinct]
    rfl
  case joint => exact fun hmany => absurd hmany (lt_irrefl 1)
  case typed => exact fun hown => absurd hof.documentType hown

/-- The fields of criteria with proofs stand for one criterion each. -/
theorem plans_standFor {rules : NormalizedRules} {criteria : List Criterion}
    (h : ∀ c ∈ criteria, c.allowedProofs ≠ []) :
    List.Forall₂ (DocumentPlan.StandsFor rules) (criteria.flatMap plans)
      (criteria.map fun c => [c]) := by
  induction criteria with
  | nil => exact .nil
  | cons c criteria ih =>
    obtain ⟨hc, hcriteria⟩ := List.forall_mem_cons.mp h
    obtain ⟨plan, hplan, hfirst⟩ := exists_standsFor rules hc
    rw [List.flatMap_cons, hplan, List.map_cons]
    exact .cons hfirst (ih hcriteria)

end Criterion

/-! ### Groups -/

namespace ProofGroup

/-- A merged field has a document type of its own only if all its proofs have that type. -/
theorem IsMerged.eq_documentType {g : ProofGroup} {types : List Text} {plan : DocumentPlan}
    (h : g.IsMerged types plan) (htype : plan.documentType ≠ eligibilityDocumentType)
    {type : Text} (hmem : type ∈ types) (hne : type ≠ []) : type = plan.documentType := by
  have hkept : type ∈ ProofSet.distinct (types.filter fun t => !t.isEmpty) :=
    mem_distinct.mpr (List.mem_filter.mpr ⟨hmem, by simpa using hne⟩)
  rw [h.documentType] at htype ⊢
  split at htype
  · rename_i only honly
    rw [honly] at hkept
    exact List.mem_singleton.mp hkept
  · exact absurd rfl htype

/-- The field of a group whose proofs are all backed stands for the whole group. -/
theorem mergedPlan_standsFor {rules : NormalizedRules} (hsound : rules.Sound)
    (hfirsts : rules.TellsFirsts) {g : ProofGroup} {types : List Text} {plan : DocumentPlan}
    (hnonempty : g.criteria ≠ []) (hnames : g.criterionNames = g.criteria.map (·.name))
    (hnodup : g.allowedProofs.Nodup)
    (hproofs : ∀ c ∈ g.criteria, g.allowedProofs.toFinset = c.proofSet)
    (hcoverage : g.coverage? rules = some types) (h : g.mergedPlan types = .ok plan) :
    plan.StandsFor rules g.criteria := by
  have hof := isMerged_of_mergedPlan h
  have hbacked : ∀ proof ∈ plan.proofs, ∃ type ∈ types, rules.documentType? proof = some type := by
    intro proof hproof
    rw [hof.proofs] at hproof
    exact exists_of_mem_left (mapM_eq_some_iff.mp hcoverage) hproof
  constructor
  case nonempty => exact hnonempty
  case required => exact hof.required
  case reasons => exact hof.reasons.trans hnames
  case nodup => exact hof.proofs ▸ hnodup
  case proofs =>
    intro c hc
    rw [hof.proofs]
    exact hproofs c hc
  case joint =>
    intro _ proof hproof
    obtain ⟨type, -, htype⟩ := hbacked proof hproof
    obtain ⟨d, hd, hmem, -⟩ := hfirsts.exists_mem htype
    exact ⟨d, hd, hmem⟩
  case typed =>
    intro hown proof hproof
    obtain ⟨type, hmem, htype⟩ := hbacked proof hproof
    obtain ⟨d, hd, hd', rfl⟩ := hfirsts.exists_mem htype
    -- document rules have types that are not empty, so none is left out
    have heq := hof.eq_documentType hown hmem (hsound.documentRules d hd).1
    exact ⟨⟨d, hd, hd'⟩, heq ▸ htype⟩

/-- The fields of a group of criteria stand for blocks that make up the group. -/
theorem plans_standFor {rules : NormalizedRules} (hsound : rules.Sound)
    (hfirsts : rules.TellsFirsts) (hunpaired : Criterion.Unpaired rules.criteria) {g : ProofGroup}
    (hg : g ∈ ofCriteria rules.criteria) :
    ∃ ps blocks, g.plans rules = .ok ps ∧ blocks.flatten = g.criteria ∧
      List.Forall₂ (DocumentPlan.StandsFor rules) ps blocks := by
  obtain ⟨ps, hps⟩ := DocumentFields.exists_plans_of_sound hsound hg
  obtain ⟨first, hfirst, rfl⟩ := mem_ofCriteria hg
  rcases plans_eq_ok hps with rfl | ⟨types, plan, hcoverage, hmerged, rfl⟩
  · -- one block for each criterion
    have hproofs : ∀ c ∈ (among rules.criteria first).criteria, c.allowedProofs ≠ [] :=
      fun c hc => (hsound.criteria c (mem_criteria_among.mp hc).1).2.1
    refine ⟨_, _, hps, ?_, Criterion.plans_standFor hproofs⟩
    rw [← List.flatMap_def]
    exact List.flatMap_singleton' _
  · -- one block for all, which is not empty since the group has its first criterion
    have hnonempty : (among rules.criteria first).criteria ≠ [] :=
      List.ne_nil_of_mem (mem_criteria_among.mpr ⟨hfirst, rfl⟩)
    have hproofs : ∀ c ∈ (among rules.criteria first).criteria,
        (among rules.criteria first).allowedProofs.toFinset = c.proofSet := by
      intro c hc
      obtain ⟨hc, hkey⟩ := mem_criteria_among.mp hc
      exact (ProofSet.toFinset_distinct _).trans
        (Criterion.proofSet_eq_of_proofKey_eq hunpaired hfirst hc hkey.symm)
    have hstands := mergedPlan_standsFor hsound hfirsts hnonempty rfl
      (ProofSet.nodup_distinct first.allowedProofs) hproofs hcoverage hmerged
    exact ⟨_, _, hps, List.flatten_singleton, .cons hstands .nil⟩

end ProofGroup

/-! ### Whole feeds -/

namespace RuleFeed

open ProofGroup

/-- Every group of the criteria of a feed that a document may hold has fields. They stand for blocks
of criteria that make up the group, and their reasons are the names of the group. -/
theorem plans_standFor_blocks {feed : Json} (h : feed.isReadable = true) :
    ∃ rules, (normalize feed).outcome = .ok rules ∧
      ∀ g ∈ ofCriteria rules.criteria, ∃ ps blocks, g.plans rules = .ok ps ∧
        blocks.flatten = g.criteria ∧
        ps.flatMap (·.submissionReasons) = g.criterionNames ∧
        List.Forall₂ (DocumentPlan.StandsFor rules) ps blocks := by
  obtain ⟨rules, hrules⟩ := exists_normalize h
  refine ⟨rules, hrules, fun g hg => ?_⟩
  obtain ⟨ps, blocks, hps, hblocks, hstand⟩ := plans_standFor (sound_of_normalize hrules)
    (tellsFirsts_of_normalize hrules) (unpaired_of_normalize h hrules) hg
  refine ⟨ps, blocks, hps, hblocks, ?_, hstand⟩
  obtain ⟨first, -, rfl⟩ := mem_ofCriteria hg
  rw [DocumentPlan.flatMap_reasons hstand, hblocks]
  rfl

/-- Of two criteria that accept `p` and one that accepts `q` or `r`, `r` being backed by no document
rule, each group has fields. -/
theorem plans_standFor_blocks_of_mixedRules :
    mixedRules.isReadable = true ∧
      ∃ rules, (normalize mixedRules).outcome = .ok rules ∧
        rules.criteria.map (·.name) = ["a", "b", "c"].map Text.ofString ∧
        rules.isBacked (Text.ofString "p") = true ∧ rules.isBacked (Text.ofString "r") = false ∧
        ∀ g ∈ ofCriteria rules.criteria, ∃ ps blocks, g.plans rules = .ok ps ∧
          blocks.flatten = g.criteria ∧
          ps.flatMap (·.submissionReasons) = g.criterionNames ∧
          List.Forall₂ (DocumentPlan.StandsFor rules) ps blocks := by
  have hfeed : mixedRules.isReadable = true := by decide +kernel
  obtain ⟨rules, hrules, hgroups⟩ := plans_standFor_blocks hfeed
  have hany : ((normalize mixedRules).outcome.toOption.any fun rules =>
      rules.criteria.map (·.name) = ["a", "b", "c"].map Text.ofString ∧
        rules.isBacked (Text.ofString "p") = true ∧
        rules.isBacked (Text.ofString "r") = false) = true := by
    decide +kernel
  rw [hrules] at hany
  obtain ⟨hnames, hp, hr⟩ := of_decide_eq_true hany
  exact ⟨hfeed, rules, hrules, hnames, hp, hr, hgroups⟩

end RuleFeed

end BenefitForm
