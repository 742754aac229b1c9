import BenefitForm.Proofs.RuleField

/-!
# Document rules in another order

The order of document rules decides which of them gives a proof its document type,
and so what the titles say and which fields come first. It decides nothing about
the selections that a form offers. Whether a group of criteria shares a field
depends on which proofs are listed at all (`exists_coverage?_iff`); whether a proof
keeps a field of its own depends on the criteria, and whether that field is required
on there being some mandatory rule for it (`isRequired_of_ruleFor?`).

So the first plan of each name has the same `DocumentPlan.outline` for both orders,
and the property of a plan takes its options from the outline.

- `exists_documentType?_iff`: the proofs that are backed are those of the rules.
- `DocumentFields.outlineOf?_plans`: the first plan of each name.
- `build_reordered`: the fragments of two feeds.
-/

namespace BenefitForm

/-! ### Which proofs are backed -/

namespace NormalizedRules

/-- Whether document rules list every proof of the indexes. -/
def Grounded (rules : NormalizedRules) : Prop :=
  ∀ required, ∀ proof ∈ Members.keys (rules.index required),
    ∃ d ∈ rules.documentRules, proof ∈ d.allowedProofs

/-- What an index tells comes from a rule. -/
theorem TellsFirsts.grounded {rules : NormalizedRules} (h : rules.TellsFirsts) :
    rules.Grounded := by
  intro required proof hproof
  have hfound : rules.firstType? required proof ≠ none := by
    rw [← h required proof]
    exact fun hnone => Members.get?_eq_none_iff.mp hnone hproof
  obtain ⟨type, htype⟩ := Option.ne_none_iff_exists'.mp hfound
  obtain ⟨d, hd, hlisted, -⟩ := exists_of_firstType? htype
  exact ⟨d, hd, hlisted⟩

/-- A proof is backed iff a document rule lists it. -/
theorem exists_documentType?_iff {rules : NormalizedRules} (hindexed : rules.Indexed)
    (hgrounded : rules.Grounded) {proof : ProofType} :
    (∃ type, rules.documentType? proof = some type) ↔
      ∃ d ∈ rules.documentRules, proof ∈ d.allowedProofs := by
  constructor
  · rintro ⟨type, htype⟩
    have hkey : ∀ index : ProofIndex, Members.get? index proof = some type →
        proof ∈ Members.keys index :=
      fun index hget => List.mem_map_of_mem (f := Prod.fst) (Members.mem_of_get? hget)
    rw [documentType?] at htype
    split at htype
    · rename_i hoptional
      cases htype
      exact hgrounded false proof (hkey rules.optional hoptional)
    · exact hgrounded true proof (hkey rules.mandatory htype)
  · rintro ⟨d, hd, hlisted⟩
    exact hindexed.exists_documentType? hd hlisted

end NormalizedRules

/-- The indexes of every feed have the proofs of its document rules only. -/
theorem RuleFeed.grounded_of_normalize {feed : Json} {rules : NormalizedRules}
    (h : (normalize feed).outcome = .ok rules) : rules.Grounded :=
  (tellsFirsts_of_normalize h).grounded

/-- All proofs of a group are backed iff document rules list them. -/
theorem ProofGroup.exists_coverage?_iff {rules : NormalizedRules} (hindexed : rules.Indexed)
    (hgrounded : rules.Grounded) {g : ProofGroup} :
    (∃ types, g.coverage? rules = some types) ↔
      ∀ proof ∈ g.allowedProofs, ∃ d ∈ rules.documentRules, proof ∈ d.allowedProofs := by
  rw [coverage?, exists_mapM_eq_some_iff]
  exact forall₂_congr fun proof _ => NormalizedRules.exists_documentType?_iff hindexed hgrounded

/-! ### Outlines -/

/-- What a plan decides about the selection: its name, its proofs and whether it is required. -/
def DocumentPlan.outline (plan : DocumentPlan) : Text × List ProofType × Bool :=
  (plan.name, plan.proofs, plan.required)

/-- The outline of the first plan of a name, which is the one that has a field. -/
def DocumentPlan.outlineOf? (plans : List DocumentPlan) (name : Text) :
    Option (Text × List ProofType × Bool) :=
  (plans.find? fun plan => plan.name == name).map outline

/-- A search for a name is one among the outlines. -/
theorem DocumentPlan.outlineOf?_eq_find? (plans : List DocumentPlan) (name : Text) :
    outlineOf? plans name = (plans.map outline).find? fun o => o.1 == name := by
  rw [outlineOf?, List.find?_map]
  rfl

theorem DocumentPlan.outlineOf?_append (plans plans' : List DocumentPlan) (name : Text) :
    outlineOf? (plans ++ plans') name = (outlineOf? plans name).or (outlineOf? plans' name) := by
  rw [outlineOf?, List.find?_append, Option.map_or]
  rfl

namespace ProofGroup

variable {g : ProofGroup} {rules rules' : NormalizedRules}

/-- The document types do not show in the outline of a merged plan. -/
theorem outline_of_mergedPlan {types : List Text} {plan : DocumentPlan}
    (h : g.mergedPlan types = .ok plan) :
    plan.outline = (Text.join (Text.ofString "_") g.criterionNames ++ nameSuffix,
      g.allowedProofs, true) := by
  have hof := isMerged_of_mergedPlan h
  rw [DocumentPlan.outline, hof.name, hof.required, hof.proofs]

/-- The plans of a group have the same outlines for rules that both back all of its proofs or both
do not. -/
theorem map_outline_plans {ps ps' : List DocumentPlan} (h : g.plans rules = .ok ps)
    (h' : g.plans rules' = .ok ps')
    (hcovered : (∃ types, g.coverage? rules = some types) ↔
      ∃ types, g.coverage? rules' = some types) :
    ps.map DocumentPlan.outline = ps'.map DocumentPlan.outline := by
  have hboth : Option.Rel (fun _ _ => True) (g.coverage? rules) (g.coverage? rules') :=
    optionRel_of_exists_iff hcovered fun _ _ _ _ => trivial
  unfold plans at h h'
  generalize g.coverage? rules = types? at hboth h
  generalize g.coverage? rules' = types?' at hboth h'
  cases hboth with
  | none => rw [← Except.ok.inj h, ← Except.ok.inj h']
  | some _ =>
    -- only a group without names has plans for each criterion nevertheless
    dsimp only at h h'
    split at h
    · rename_i hunnamed
      rw [if_pos hunnamed] at h'
      rw [← Except.ok.inj h, ← Except.ok.inj h']
    · rename_i hnamed
      rw [if_neg hnamed] at h'
      obtain ⟨plan, hplan, rfl⟩ := map_eq_ok_iff.mp h
      obtain ⟨plan', hplan', rfl⟩ := map_eq_ok_iff.mp h'
      rw [List.map_singleton, List.map_singleton, outline_of_mergedPlan hplan,
        outline_of_mergedPlan hplan']

/-- So do those of all groups. -/
theorem map_outline_flatten {groups : List ProofGroup} {grouped grouped' : List (List DocumentPlan)}
    (h : List.Forall₂ (fun g ps => g.plans rules = .ok ps) groups grouped)
    (h' : List.Forall₂ (fun g ps => g.plans rules' = .ok ps) groups grouped')
    (hcovered : ∀ g ∈ groups, (∃ types, g.coverage? rules = some types) ↔
      ∃ types, g.coverage? rules' = some types) :
    grouped.flatten.map DocumentPlan.outline = grouped'.flatten.map DocumentPlan.outline := by
  induction h generalizing grouped' with
  | nil =>
    cases h'
    rfl
  | cons hps _ ih =>
    cases h' with
    | cons hps' hrest' =>
      obtain ⟨hfirst, hrest⟩ := List.forall_mem_cons.mp hcovered
      rw [List.flatten_cons, List.flatten_cons, List.map_append, List.map_append,
        map_outline_plans hps hps' hfirst, ih hrest' hrest]

end ProofGroup

namespace NormalizedRules

variable {rules rules' : NormalizedRules}

/-- The rule that counts for a proof is one of the document rules and lists it. -/
theorem mem_of_ruleFor? {proof : ProofType} {d : DocumentRule}
    (h : rules.ruleFor? proof = some d) : d ∈ rules.documentRules ∧ proof ∈ d.allowedProofs := by
  rw [ruleFor?, Option.or_eq_some_iff] at h
  rcases h with h | ⟨-, h⟩
  · have hkind := List.find?_some h
    rw [Bool.and_eq_true, List.contains_iff_mem] at hkind
    exact ⟨List.mem_of_find?_eq_some h, hkind.2⟩
  · have hkind := List.find?_some h
    rw [Bool.and_eq_true, List.contains_iff_mem] at hkind
    exact ⟨List.mem_of_find?_eq_some h, hkind.2⟩

/-- Whether a proof has a rule and whether that is mandatory does not depend on the order of the
rules. -/
theorem map_isRequired_ruleFor?
    (hrules : ∀ d, d ∈ rules.documentRules ↔ d ∈ rules'.documentRules) (proof : ProofType) :
    (rules.ruleFor? proof).map (·.isRequired) = (rules'.ruleFor? proof).map (·.isRequired) := by
  have hlisted : ∀ rules : NormalizedRules, (∃ d, rules.ruleFor? proof = some d) ↔
      ∃ d ∈ rules.documentRules, proof ∈ d.allowedProofs := by
    intro rules
    constructor
    · rintro ⟨d, hd⟩
      exact ⟨d, mem_of_ruleFor? hd⟩
    · rintro ⟨d, hd, hproof⟩
      exact exists_ruleFor? hd hproof
  have hmandatory : rules.Mandatory proof ↔ rules'.Mandatory proof :=
    exists_congr fun d => and_congr_left fun _ => hrules d
  have hboth : Option.Rel (fun d d' => d.isRequired = d'.isRequired) (rules.ruleFor? proof)
      (rules'.ruleFor? proof) := by
    refine optionRel_of_exists_iff ?_ fun d d' hd hd' => ?_
    · simp only [hlisted, hrules]
    · rw [Bool.eq_iff_iff, isRequired_of_ruleFor? hd, isRequired_of_ruleFor? hd', hmandatory]
  generalize rules.ruleFor? proof = rule? at hboth
  generalize rules'.ruleFor? proof = rule?' at hboth
  cases hboth with
  | none => rfl
  | some hkind => exact congrArg some hkind

end NormalizedRules

/-- The first plan of a name among those of document rules has the same outline for rules in another
order. -/
theorem DocumentRule.outlineOf?_plans {rules rules' : NormalizedRules}
    (hrules : ∀ d, d ∈ rules.documentRules ↔ d ∈ rules'.documentRules) (groups : List ProofGroup)
    (name : Text) :
    DocumentPlan.outlineOf? (plans rules.documentRules groups) name
      = DocumentPlan.outlineOf? (plans rules'.documentRules groups) name := by
  rw [DocumentPlan.outlineOf?, DocumentPlan.outlineOf?]
  cases habsorbed : isAbsorbed groups name with
  | true =>
    have hnone : ∀ documentRules : List DocumentRule,
        ((plans documentRules groups).find? fun plan => plan.name == name) = none := by
      intro documentRules
      rw [List.find?_eq_none]
      intro plan hplan
      simpa using name_ne_of_isAbsorbed habsorbed hplan
    rw [hnone, hnone]
  | false =>
    -- the plan of a proof shows nothing of the rule but whether it is mandatory
    have houtline : ∀ rule? : Option DocumentRule,
        (rule?.map fun d => d.planFor name).map DocumentPlan.outline
          = (rule?.map (·.isRequired)).map fun required => (name, [name], required) := by
      intro rule?
      cases rule? <;> rfl
    rw [find?_plans habsorbed, find?_plans habsorbed, houtline, houtline,
      NormalizedRules.map_isRequired_ruleFor? hrules]

/-! ### Whole feeds -/

/-- Whether two properties offer the same options with the same labels, start with the same one and
are submitted alike. -/
structure FormProperty.SameSelection (p q : FormProperty) : Prop where
  values : p.values? = q.values?
  labels : p.valueNames? = q.valueNames?
  initial : p.default? = q.default?
  upload : p.documentMeta?.map (·.isFileUpload) = q.documentMeta?.map (·.isFileUpload)

/-- Whether two fragments have the same fields up to their order and to what the fields say about
documents. -/
structure Fragment.SameSelections (f g : Fragment) : Prop where
  names : ∀ name, name ∈ f.properties.map (·.name) ↔ name ∈ g.properties.map (·.name)
  required : ∀ name, name ∈ f.required ↔ name ∈ g.required
  selections : ∀ p ∈ f.properties, ∀ q ∈ g.properties, p.name = q.name → p.SameSelection q

namespace DocumentFields

open ProofGroup

/-- For the same criteria and for document rules in another order the first plans of each name have
the same outline. -/
theorem outlineOf?_plans {rules rules' : NormalizedRules} {plans plans' : List DocumentPlan}
    (hsound : rules.Sound) (hsound' : rules'.Sound) (hindexed : rules.Indexed)
    (hindexed' : rules'.Indexed) (hgrounded : rules.Grounded) (hgrounded' : rules'.Grounded)
    (hcriteria : rules.criteria = rules'.criteria)
    (hrules : ∀ d, d ∈ rules.documentRules ↔ d ∈ rules'.documentRules)
    (hplans : DocumentFields.plans rules = .ok plans)
    (hplans' : DocumentFields.plans rules' = .ok plans') (name : Text) :
    DocumentPlan.outlineOf? plans name = DocumentPlan.outlineOf? plans' name := by
  obtain ⟨grouped, heach, hof⟩ := plans_eq_ok hsound
  obtain ⟨grouped', heach', hof'⟩ := plans_eq_ok hsound'
  rw [← hcriteria] at heach' hof'
  cases hplans.symm.trans hof
  cases hplans'.symm.trans hof'
  have hgroups := map_outline_flatten heach heach' fun g _ => by
    rw [exists_coverage?_iff hindexed hgrounded, exists_coverage?_iff hindexed' hgrounded']
    simp only [hrules]
  rw [DocumentPlan.outlineOf?_append, DocumentPlan.outlineOf?_append,
    DocumentPlan.outlineOf?_eq_find? grouped.flatten,
    DocumentPlan.outlineOf?_eq_find? grouped'.flatten, hgroups, DocumentRule.outlineOf?_plans hrules]

end DocumentFields

/-- The properties of plans with one outline offer the same selection. -/
theorem DocumentPlan.property_sameSelection {plan plan' : DocumentPlan}
    (h : plan.outline = plan'.outline) (settings : Settings) (documents : List WalletDocument) :
    (plan.property settings documents).SameSelection (plan'.property settings documents) := by
  simp only [outline, Prod.mk.injEq] at h
  obtain ⟨hname, hproofs, -⟩ := h
  constructor
  case upload =>
    show some (Upload.isUploadName _ plan.name) = some (Upload.isUploadName _ plan'.name)
    rw [hname]
  all_goals simp only [property, hproofs]

namespace Fragment

variable {f g : Fragment} {settings : Settings} {documents : List WalletDocument}
  {plans plans' : List DocumentPlan}

/-- The fields are named as the plans are. -/
theorem KeepsFirsts.mem_names_iff (h : f.KeepsFirsts settings documents plans) {name : Text} :
    name ∈ f.properties.map (·.name) ↔ (DocumentPlan.outlineOf? plans name).isSome = true := by
  rw [DocumentPlan.outlineOf?, Option.isSome_map, Option.isSome_iff_exists, List.mem_map]
  constructor
  · rintro ⟨p, hp, rfl⟩
    obtain ⟨plan, hplan, -⟩ := h.exists_find? hp
    exact ⟨plan, hplan⟩
  · rintro ⟨plan, hplan⟩
    obtain ⟨hmem, hname⟩ := h.property_mem hplan
    exact ⟨_, hmem, hname⟩

/-- A field is required iff the first plan of its name is. -/
theorem KeepsFirsts.mem_required_iff_outline (h : f.KeepsFirsts settings documents plans)
    {name : Text} :
    name ∈ f.required ↔ ∃ o, DocumentPlan.outlineOf? plans name = some o ∧ o.2.2 = true := by
  rw [h.mem_required_iff]
  constructor
  · rintro ⟨plan, hplan, hmarked⟩
    exact ⟨plan.outline, Option.map_eq_some_iff.mpr ⟨plan, hplan, rfl⟩, hmarked⟩
  · rintro ⟨o, ho, hmarked⟩
    obtain ⟨plan, hplan, rfl⟩ := Option.map_eq_some_iff.mp ho
    exact ⟨plan, hplan, hmarked⟩

/-- Fragments have the same fields if the first plans of each name have the same outline. -/
theorem sameSelections_of_outline (hf : f.KeepsFirsts settings documents plans)
    (hg : g.KeepsFirsts settings documents plans')
    (h : ∀ name, DocumentPlan.outlineOf? plans name = DocumentPlan.outlineOf? plans' name) :
    f.SameSelections g := by
  constructor
  case names =>
    intro name
    rw [hf.mem_names_iff, hg.mem_names_iff, h]
  case required =>
    intro name
    rw [hf.mem_required_iff_outline, hg.mem_required_iff_outline, h]
  case selections =>
    intro p hp q hq hname
    obtain ⟨plan, hplan, rfl⟩ := hf.exists_find? hp
    obtain ⟨plan', hplan', rfl⟩ := hg.exists_find? hq
    have hsame := h (plan.property settings documents).name
    rw [DocumentPlan.outlineOf?, DocumentPlan.outlineOf?, hplan, hname, hplan', Option.map_some,
      Option.map_some, Option.some.injEq] at hsame
    exact plan.property_sameSelection hsame settings documents

end Fragment

/-- Two feeds with the same criteria in the same order, and with the same document rules in any
order and in any places between them, fail with a wallet that cannot be read, and with any other
wallet have the same fields up to their order and to what the fields say about documents. -/
theorem build_reordered {feed feed' : Json} {rules rules' : NormalizedRules}
    (hrules : (RuleFeed.normalize feed).outcome = .ok rules)
    (hrules' : (RuleFeed.normalize feed').outcome = .ok rules')
    (hcriteria : rules.criteria = rules'.criteria)
    (hdocumentRules : rules.documentRules.Perm rules'.documentRules) (settings : Settings)
    (wallet : Wallet.Input) :
    (∀ e, wallet.load.outcome = .error e →
      (DocumentFields.build settings feed wallet {}).outcome = .error e ∧
      (DocumentFields.build settings feed' wallet {}).outcome = .error e) ∧
    ∀ documents, wallet.load.outcome = .ok documents →
      ∃ f g, (DocumentFields.build settings feed wallet {}).outcome = .ok f ∧
        (DocumentFields.build settings feed' wallet {}).outcome = .ok g ∧ f.SameSelections g := by
  constructor
  · intro e he
    simp only [DocumentFields.outcome_build, DocumentFields.outcome_buildNormalized, hrules,
      hrules', ok_bind, he]
    exact ⟨rfl, rfl⟩
  · intro documents hdocuments
    have hsound := RuleFeed.sound_of_normalize hrules
    have hsound' := RuleFeed.sound_of_normalize hrules'
    obtain ⟨_, -, hplans⟩ := DocumentFields.plans_eq_ok hsound
    obtain ⟨_, -, hplans'⟩ := DocumentFields.plans_eq_ok hsound'
    obtain ⟨f, hf, hfirsts⟩ := DocumentFields.exists_build hrules hdocuments hplans
    obtain ⟨g, hg, hfirsts'⟩ := DocumentFields.exists_build hrules' hdocuments hplans'
    refine ⟨f, g, hf, hg, Fragment.sameSelections_of_outline hfirsts hfirsts' fun name => ?_⟩
    exact DocumentFields.outlineOf?_plans hsound hsound'
      (RuleFeed.indexed_of_normalize hrules) (RuleFeed.indexed_of_normalize hrules')
      (RuleFeed.grounded_of_normalize hrules) (RuleFeed.grounded_of_normalize hrules')
      hcriteria (fun _ => hdocumentRules.mem_iff) hplans hplans' name

/-- An entry that is a document rule. -/
def documentEntry (type : String) (proofs : List String) (required : Bool) : Json :=
  Json.record [("documentType", Json.text type),
    ("allowedProofs", Json.ofTexts (proofs.map Text.ofString)), ("isRequired", .bool required)]

/-- A criterion for `p` or `q`, then an optional document rule and a mandatory one. -/
def optionalFirst : Json :=
  .array (requesting [("a", ["p", "q"].map Text.ofString)]
    ++ [documentEntry "s" ["q", "p"] false, documentEntry "t" ["q", "r"] true])

/-- The same rules with the mandatory one in front, and an entry that is none. -/
def mandatoryFirst : Json :=
  .array ([documentEntry "t" ["q", "r"] true, .null]
    ++ requesting [("a", ["p", "q"].map Text.ofString)] ++ [documentEntry "s" ["q", "p"] false])

/-- The document rules of the two feeds stand in different orders. -/
theorem build_reordered_of_mandatoryFirst :
    ∃ rules rules', (RuleFeed.normalize optionalFirst).outcome = .ok rules ∧
      (RuleFeed.normalize mandatoryFirst).outcome = .ok rules' ∧
      (rules.criteria = rules'.criteria ∧ rules.documentRules.Perm rules'.documentRules ∧
        rules.documentRules ≠ rules'.documentRules) ∧
      ∃ f g,
        (DocumentFields.build .standard optionalFirst (.documents (holding "q" ["x"])) {}).outcome
          = .ok f ∧
        (DocumentFields.build .standard mandatoryFirst (.documents (holding "q" ["x"])) {}).outcome
          = .ok g ∧
        f.SameSelections g := by
  have hany : ((RuleFeed.normalize optionalFirst).outcome.toOption.any fun rules =>
      (RuleFeed.normalize mandatoryFirst).outcome.toOption.any fun rules' =>
        rules.criteria = rules'.criteria ∧ rules.documentRules.Perm rules'.documentRules ∧
          rules.documentRules ≠ rules'.documentRules) = true := by
    decide +kernel
  obtain ⟨rules, hrules, hany⟩ := exists_ok_of_any hany
  obtain ⟨rules', hrules', hany⟩ := exists_ok_of_any hany
  have hsame := of_decide_eq_true hany
  exact ⟨rules, rules', hrules, hrules', hsame,
    (build_reordered hrules hrules' hsame.1 hsame.2.1 .standard
      (.documents (holding "q" ["x"]))).2 _ rfl⟩

end BenefitForm
