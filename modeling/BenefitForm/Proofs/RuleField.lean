import BenefitForm.Proofs.CriterionField
import BenefitForm.Proofs.Readable

/-!
# The fields of document rules

A document rule has a field for each of its proofs, but for a proof that criteria
leave no field to (`NormalizedRules.Absorbs`): a criterion accepts it alone, and
none accepts it beside others. The criteria that accept it alone then share one
required field, since a document rule backs it. Any other proof keeps a field of
its own name, which is that of the first mandatory rule that lists the proof, or
of the first optional one; only a field planned for criteria may come before it.

- `isAbsorbed_iff`: which proofs are left out, said of the criteria alone.
- `find?_plans`: the rule that a proof's field is made for.
- `mem_required_iff`: a name is required iff the first field planned for it is.
- `document_rule_honoured`: what becomes of every proof of a document rule in a feed
  that a document may hold (`Json.isReadable`).
-/

namespace BenefitForm

/-! ### Proof sets -/

namespace ProofSet

theorem nodup_distinct (proofs : List ProofType) : (distinct proofs).Nodup := by
  have h := nodup_map_firstsBy id proofs
  rwa [List.map_id, ← distinct_eq_firstsBy] at h

theorem toFinset_distinct (proofs : List ProofType) :
    (distinct proofs).toFinset = proofs.toFinset := by
  ext proof
  rw [List.mem_toFinset, List.mem_toFinset]
  exact mem_distinct

theorem card_toFinset (proofs : List ProofType) :
    proofs.toFinset.card = (distinct proofs).length := by
  rw [← toFinset_distinct]
  exact List.toFinset_card_of_nodup (nodup_distinct proofs)

/-- A list of one proof, however often it is listed. -/
theorem distinct_eq_singleton_iff {proofs : List ProofType} {proof : ProofType} :
    distinct proofs = [proof] ↔ proofs.toFinset = {proof} := by
  constructor
  · intro h
    rw [← toFinset_distinct, h]
    rfl
  · intro h
    have hlength : (distinct proofs).length = 1 := by
      rw [← card_toFinset, h, Finset.card_singleton]
    obtain ⟨q, hq⟩ := List.length_eq_one_iff.mp hlength
    have hmem : q ∈ proofs.toFinset := by
      rw [← toFinset_distinct, hq]
      exact List.mem_toFinset.mpr (List.mem_singleton.mpr rfl)
    rw [h, Finset.mem_singleton] at hmem
    rw [hq, hmem]

end ProofSet

namespace Criterion

/-- The proofs that a criterion accepts, without order and repeats. -/
def proofSet (c : Criterion) : Finset ProofType := c.allowedProofs.toFinset

@[simp] theorem mem_proofSet {c : Criterion} {proof : ProofType} :
    proof ∈ c.proofSet ↔ proof ∈ c.allowedProofs := List.mem_toFinset

/-- Whether no proof that the criteria list is written like another one. -/
def Unpaired (criteria : List Criterion) : Prop :=
  ∀ c ∈ criteria, ∀ proof ∈ c.allowedProofs, proof.Unpaired

/-- Criteria with one key accept the same proofs. -/
theorem proofSet_eq_of_proofKey_eq {criteria : List Criterion} (h : Unpaired criteria)
    {c d : Criterion} (hc : c ∈ criteria) (hd : d ∈ criteria) (hkey : c.proofKey = d.proofKey) :
    c.proofSet = d.proofSet := by
  ext proof
  rw [mem_proofSet, mem_proofSet]
  exact ProofSet.mem_iff_of_key_eq (h c hc) (h d hd) hkey proof

/-- The criteria with the key of one that accepts a single proof are those that accept it alone. -/
theorem proofKey_eq_iff_of_singleton {criteria : List Criterion} (h : Unpaired criteria)
    {c d : Criterion} (hc : c ∈ criteria) (hd : d ∈ criteria) {proof : ProofType}
    (hproof : c.proofSet = {proof}) : d.proofKey = c.proofKey ↔ d.proofSet = {proof} := by
  constructor
  · intro hkey
    rw [proofSet_eq_of_proofKey_eq h hd hc hkey, hproof]
  · intro hd'
    rw [proofKey, proofKey, ProofSet.key, ProofSet.key,
      ProofSet.distinct_eq_singleton_iff.mpr hd', ProofSet.distinct_eq_singleton_iff.mpr hproof]

end Criterion

/-! ### Proofs that criteria leave no field to -/

namespace NormalizedRules

/-- Whether criteria leave no field to a proof: some criterion accepts it alone, and no criterion
that accepts several proofs accepts it. -/
def Absorbs (rules : NormalizedRules) (proof : ProofType) : Prop :=
  (∃ c ∈ rules.criteria, c.proofSet = {proof}) ∧
    ¬ ∃ c ∈ rules.criteria, 1 < c.proofSet.card ∧ proof ∈ c.proofSet

instance (rules : NormalizedRules) (proof : ProofType) : Decidable (rules.Absorbs proof) :=
  inferInstanceAs (Decidable (_ ∧ ¬ _))

/-- The names of the criteria that accept a proof alone, in feed order. -/
def namesFor (rules : NormalizedRules) (proof : ProofType) : List Text :=
  (rules.criteria.filter fun c => c.proofSet = {proof}).map (·.name)

/-- Whether some mandatory document rule lists a proof. -/
def Mandatory (rules : NormalizedRules) (proof : ProofType) : Prop :=
  ∃ d ∈ rules.documentRules, d.isRequired = true ∧ proof ∈ d.allowedProofs

/-- The document rule that counts for a proof: the first mandatory one that lists it, or the first
optional one where no mandatory rule does. -/
def ruleFor? (rules : NormalizedRules) (proof : ProofType) : Option DocumentRule :=
  (rules.documentRules.find? fun d => d.isRequired && d.allowedProofs.contains proof).or
    (rules.documentRules.find? fun d => !d.isRequired && d.allowedProofs.contains proof)

end NormalizedRules

open ProofGroup

/-- What can be said of the proofs of a group can be said of those of a criterion. -/
theorem exists_group_iff {criteria : List Criterion} (h : Criterion.Unpaired criteria)
    {Q : Finset ProofType → Prop} :
    (∃ g ∈ ofCriteria criteria, Q g.allowedProofs.toFinset) ↔ ∃ c ∈ criteria, Q c.proofSet := by
  constructor
  · rintro ⟨g, hg, hQ⟩
    obtain ⟨c, hc, rfl⟩ := mem_ofCriteria hg
    refine ⟨c, hc, ?_⟩
    rwa [among, ProofSet.toFinset_distinct] at hQ
  · rintro ⟨c, hc, hQ⟩
    obtain ⟨founder, hfounder, hkey, hg, -⟩ := exists_mem_ofCriteria hc
    refine ⟨_, hg, ?_⟩
    rw [among, ProofSet.toFinset_distinct]
    rwa [← Criterion.proofSet_eq_of_proofKey_eq h hfounder hc hkey] at hQ

namespace DocumentRule

/-- A proof is left out iff criteria leave no field to it. -/
theorem isAbsorbed_iff {rules : NormalizedRules} (h : Criterion.Unpaired rules.criteria)
    {proof : ProofType} :
    isAbsorbed (ofCriteria rules.criteria) proof = true ↔ rules.Absorbs proof := by
  have hlisted : ((ofCriteria rules.criteria).any fun g => g.allowedProofs.contains proof) = true
      ↔ ∃ c ∈ rules.criteria, proof ∈ c.proofSet := by
    rw [← exists_group_iff h (Q := fun proofs => proof ∈ proofs), List.any_eq_true]
    simp only [List.contains_iff_mem, List.mem_toFinset]
  have hbeside : ((ofCriteria rules.criteria).any fun g =>
      1 < g.allowedProofs.length && g.allowedProofs.contains proof) = true
        ↔ ∃ c ∈ rules.criteria, 1 < c.proofSet.card ∧ proof ∈ c.proofSet := by
    rw [← exists_group_iff h (Q := fun proofs => 1 < proofs.card ∧ proof ∈ proofs),
      List.any_eq_true]
    refine exists_congr fun g => and_congr_right fun hg => ?_
    obtain ⟨c, -, rfl⟩ := mem_ofCriteria hg
    rw [Bool.and_eq_true, decide_eq_true_iff, List.contains_iff_mem, List.mem_toFinset, among,
      List.toFinset_card_of_nodup (ProofSet.nodup_distinct c.allowedProofs)]
  rw [isAbsorbed, Bool.and_eq_true, hlisted, Bool.not_eq_true', Bool.eq_false_iff, ne_eq, hbeside,
    NormalizedRules.Absorbs]
  refine and_congr_left fun hnone => exists_congr fun c => and_congr_right fun hc => ?_
  -- a criterion that lists the proof lists no other
  constructor
  · intro hmem
    have hcard : c.proofSet.card = 1 :=
      le_antisymm (not_lt.mp fun hlt => hnone ⟨c, hc, hlt, hmem⟩) (Finset.card_pos.mpr ⟨_, hmem⟩)
    obtain ⟨q, hq⟩ := Finset.card_eq_one.mp hcard
    rw [hq, Finset.mem_singleton] at hmem
    rw [hq, hmem]
  · intro hc'
    rw [hc']
    exact Finset.mem_singleton_self proof

/-! ### The rule that counts for a proof -/

/-- A search for an element finds it iff it is there. -/
theorem find?_beq_eq {α : Type} [BEq α] [LawfulBEq α] (xs : List α) (x : α) :
    xs.find? (fun y => y == x) = if xs.contains x then some x else none := by
  induction xs with
  | nil => rfl
  | cons y ys ih =>
    rw [List.find?_cons, List.contains_cons, ih]
    by_cases hy : y = x
    · simp [hy]
    · rw [beq_eq_false_iff_ne.mpr hy, beq_eq_false_iff_ne.mpr (Ne.symm hy), Bool.false_or]

/-- Of the fields of one rule that of a proof is found iff the rule lists the proof. -/
theorem find?_planFor (d : DocumentRule) {groups : List ProofGroup} {proof : ProofType}
    (h : isAbsorbed groups proof = false) :
    ((d.allowedProofs.filter fun q => !isAbsorbed groups q).map d.planFor).find?
        (fun plan => plan.name == proof)
      = if d.allowedProofs.contains proof then some (d.planFor proof) else none := by
  have hlisted : (d.allowedProofs.filter fun q => !isAbsorbed groups q).contains proof
      = d.allowedProofs.contains proof := by
    rw [Bool.eq_iff_iff, List.contains_iff_mem, List.contains_iff_mem, List.mem_filter, h]
    simp
  rw [List.find?_map]
  show ((d.allowedProofs.filter fun q => !isAbsorbed groups q).find? fun q => q == proof).map
    d.planFor = _
  rw [find?_beq_eq, hlisted]
  split <;> rfl

/-- The first rule that lists a proof, in the order of the plans, is the one that counts for it. -/
theorem find?_mandatoryFirst (rules : NormalizedRules) (proof : ProofType) :
    (mandatoryFirst rules.documentRules).find? (fun d => d.allowedProofs.contains proof)
      = rules.ruleFor? proof := by
  rw [mandatoryFirst, List.find?_append, List.find?_filter, List.find?_filter]
  simp only [NormalizedRules.ruleFor?, Bool.decide_and, Bool.decide_eq_true]

/-- A proof that is not left out has the field of the rule that counts for it. -/
theorem find?_plans {rules : NormalizedRules} {groups : List ProofGroup} {proof : ProofType}
    (h : isAbsorbed groups proof = false) :
    (plans rules.documentRules groups).find? (fun plan => plan.name == proof)
      = (rules.ruleFor? proof).map fun d => d.planFor proof := by
  rw [plans, List.find?_flatMap, ← find?_mandatoryFirst]
  induction mandatoryFirst rules.documentRules with
  | nil => rfl
  | cons d ds ih =>
    rw [List.findSome?_cons, List.find?_cons, find?_planFor d h, ih]
    cases d.allowedProofs.contains proof <;> rfl

/-- A proof that is left out has no field. -/
theorem name_ne_of_isAbsorbed {rules : List DocumentRule} {groups : List ProofGroup}
    {proof : ProofType} (h : isAbsorbed groups proof = true) {plan : DocumentPlan}
    (hplan : plan ∈ plans rules groups) : plan.name ≠ proof := by
  obtain ⟨d, -, hplan⟩ := List.mem_flatMap.mp hplan
  obtain ⟨q, hq, rfl⟩ := List.mem_map.mp hplan
  rintro rfl
  have hkept := (List.mem_filter.mp hq).2
  rw [show isAbsorbed groups q = true from h] at hkept
  cases hkept

end DocumentRule

/-! ### The rule that counts -/

namespace NormalizedRules

variable {rules : NormalizedRules} {proof : ProofType}

/-- A proof that a document rule lists has a rule that counts for it. -/
theorem exists_ruleFor? {d : DocumentRule} (hd : d ∈ rules.documentRules)
    (hproof : proof ∈ d.allowedProofs) : ∃ d', rules.ruleFor? proof = some d' := by
  rw [← Option.isSome_iff_exists, ruleFor?, Option.isSome_or, Bool.or_eq_true,
    List.find?_isSome, List.find?_isSome]
  cases hkind : d.isRequired with
  | true => exact .inl ⟨d, hd, by simp [hkind, hproof]⟩
  | false => exact .inr ⟨d, hd, by simp [hkind, hproof]⟩

/-- The rule that counts is mandatory iff some mandatory rule lists the proof. -/
theorem isRequired_of_ruleFor? {d : DocumentRule} (h : rules.ruleFor? proof = some d) :
    d.isRequired = true ↔ rules.Mandatory proof := by
  rw [ruleFor?, Option.or_eq_some_iff] at h
  rcases h with h | ⟨hnone, h⟩
  · have hd := List.find?_some h
    rw [Bool.and_eq_true, List.contains_iff_mem] at hd
    exact ⟨fun _ => ⟨d, List.mem_of_find?_eq_some h, hd⟩, fun _ => hd.1⟩
  · have hd := List.find?_some h
    rw [Bool.and_eq_true, Bool.not_eq_true'] at hd
    constructor
    · intro hrequired
      rw [hd.1] at hrequired
      cases hrequired
    · rintro ⟨d', hd', hrequired, hproof⟩
      exact absurd (by simp [hrequired, hproof]) (List.find?_eq_none.mp hnone d' hd')

end NormalizedRules

/-! ### Fields that are kept -/

/-- Whether a fragment keeps the property of the first plan of each name. -/
structure Fragment.KeepsFirsts (f : Fragment) (settings : Settings)
    (documents : List WalletDocument) (plans : List DocumentPlan) : Prop where
  properties : f.properties
    = firstsBy FormProperty.name (plans.map (DocumentPlan.property settings documents))
  required : f.required = (f.properties.filter (·.required)).map (·.name)

namespace Fragment.KeepsFirsts

variable {f : Fragment} {settings : Settings} {documents : List WalletDocument}
  {plans : List DocumentPlan}

/-- The property of the first plan of a name is kept. -/
theorem property_mem (h : f.KeepsFirsts settings documents plans) {plan : DocumentPlan}
    {name : Text} (hplan : plans.find? (fun other => other.name == name) = some plan) :
    plan.property settings documents ∈ f.properties ∧ plan.name = name := by
  have hname : plan.name = name :=
    beq_iff_eq.mp (List.find?_some (p := fun other : DocumentPlan => other.name == name) hplan)
  refine ⟨?_, hname⟩
  rw [h.properties, mem_firstsBy_iff, List.find?_map]
  show (plans.find? fun other => other.name == plan.name).map _ = _
  rw [hname, hplan, Option.map_some]

/-- What is kept is the property of the first plan of its name. -/
theorem exists_find? (h : f.KeepsFirsts settings documents plans) {q : FormProperty}
    (hq : q ∈ f.properties) :
    ∃ plan, plans.find? (fun other => other.name == q.name) = some plan ∧
      plan.property settings documents = q := by
  rw [h.properties, mem_firstsBy_iff, List.find?_map] at hq
  exact Option.map_eq_some_iff.mp hq

/-- A name is required iff the first plan of the name is. -/
theorem mem_required_iff (h : f.KeepsFirsts settings documents plans) {name : Text} :
    name ∈ f.required ↔ ∃ plan, plans.find? (fun other => other.name == name) = some plan ∧
      plan.required = true := by
  rw [h.required, List.mem_map]
  constructor
  · rintro ⟨q, hq, rfl⟩
    obtain ⟨hmem, hrequired⟩ := List.mem_filter.mp hq
    obtain ⟨plan, hplan, rfl⟩ := h.exists_find? hmem
    exact ⟨plan, hplan, hrequired⟩
  · rintro ⟨plan, hplan, hrequired⟩
    obtain ⟨hmem, hname⟩ := h.property_mem hplan
    exact ⟨_, List.mem_filter.mpr ⟨hmem, hrequired⟩, hname⟩

end Fragment.KeepsFirsts

/-- The fields of a feed that is read are built, and the first of each name is kept. -/
theorem DocumentFields.exists_build {settings : Settings} {feed : Json} {wallet : Wallet.Input}
    {rules : NormalizedRules} {documents : List WalletDocument} {plans : List DocumentPlan}
    (hrules : (RuleFeed.normalize feed).outcome = .ok rules)
    (hdocuments : wallet.load.outcome = .ok documents)
    (hplans : DocumentFields.plans rules = .ok plans) :
    ∃ f, (build settings feed wallet {}).outcome = .ok f ∧
      f.KeepsFirsts settings documents plans := by
  refine ⟨_, build_eq_ok.mpr ⟨rules, documents, plans, hrules, hdocuments, hplans, rfl⟩, ?_⟩
  rw [fragment_foldl_offer]
  exact ⟨rfl, rfl⟩

/-! ### Fields of groups -/

namespace ProofGroup

/-- What is planned for groups is planned for criteria, and required. -/
theorem plans_of_mem_flatten {rules : NormalizedRules} {grouped : List (List DocumentPlan)}
    (heach : List.Forall₂ (fun g ps => g.plans rules = .ok ps) (ofCriteria rules.criteria) grouped)
    {plan : DocumentPlan} (h : plan ∈ grouped.flatten) :
    rules.Plans plan ∧ plan.required = true := by
  obtain ⟨ps, hps, hplan⟩ := List.mem_flatten.mp h
  obtain ⟨g, hg, hok⟩ := exists_of_mem_right heach hps
  exact ⟨⟨g, hg, ps, hok, hplan⟩, (plan_of_mem hok hplan).1⟩

/-- Criteria that accept one proof alone share a field where a document rule lists the proof. -/
theorem exists_joined_plan {rules : NormalizedRules} (hindexed : rules.Indexed)
    (hunpaired : Criterion.Unpaired rules.criteria) {d : DocumentRule}
    (hd : d ∈ rules.documentRules) {proof : ProofType} (hproof : proof ∈ d.allowedProofs)
    {c : Criterion} (hc : c ∈ rules.criteria) (hsingle : c.proofSet = {proof}) :
    ∃ g ∈ ofCriteria rules.criteria, ∃ plan, g.plans rules = .ok [plan] ∧
      plan.name = Text.join (Text.ofString "_") (rules.namesFor proof) ++ nameSuffix := by
  obtain ⟨founder, hfounder, hkey, hg, hmem⟩ := exists_mem_ofCriteria hc
  have hfounderSet : founder.proofSet = {proof} :=
    (Criterion.proofKey_eq_iff_of_singleton hunpaired hc hfounder hsingle).mp hkey
  have hdistinct : ProofSet.distinct founder.allowedProofs = [proof] :=
    ProofSet.distinct_eq_singleton_iff.mpr hfounderSet
  obtain ⟨type, htype⟩ := hindexed.exists_documentType? hd hproof
  have hcoverage : (among rules.criteria founder).coverage? rules = some [type] := by
    show (ProofSet.distinct founder.allowedProofs).mapM rules.documentType? = _
    rw [hdistinct, List.mapM_cons, htype]
    rfl
  have hnames : (among rules.criteria founder).criterionNames = rules.namesFor proof := by
    refine congrArg (List.map _) (List.filter_congr fun c' hc' => ?_)
    rw [decide_eq_decide]
    exact Criterion.proofKey_eq_iff_of_singleton hunpaired hfounder hc' hfounderSet
  obtain ⟨plan, hplan, hplans⟩ := exists_plans_of_coverage hcoverage
    (List.ne_nil_of_mem (List.mem_map_of_mem (f := Criterion.name) hmem))
    (by rw [among, hdistinct]; exact List.cons_ne_nil _ _)
  exact ⟨_, hg, plan, hplans, by rw [(isMerged_of_mergedPlan hplan).name, hnames]⟩

end ProofGroup

/-! ### Whole feeds -/

/-- What becomes of a proof that criteria leave no field to: it has no field of its own, and one
field of the criteria that accept it alone is required. -/
structure Fragment.Joins (f : Fragment) (rules : NormalizedRules) (proof : ProofType) : Prop where
  not_planned : ∀ plan ∈ DocumentRule.plans rules.documentRules (ofCriteria rules.criteria),
    plan.name ≠ proof
  required : Text.join (Text.ofString "_") (rules.namesFor proof) ++ Text.ofString "_doc"
    ∈ f.required

/-- What becomes of any other proof that document rules list: it has a field, which is required if
a mandatory rule lists it. Unless the name is planned for criteria, the field is required only
then, and its document type is that of the rule that counts for the proof. -/
structure Fragment.Honours (f : Fragment) (rules : NormalizedRules) (proof : ProofType) :
    Prop where
  present : proof ∈ f.properties.map (·.name)
  mandatory : rules.Mandatory proof → proof ∈ f.required
  own : (∀ plan, rules.Plans plan → plan.name ≠ proof) →
    (proof ∈ f.required ↔ rules.Mandatory proof) ∧
    ∃ d, rules.ruleFor? proof = some d ∧ ∀ q ∈ f.properties, q.name = proof →
      q.documentMeta?.map (·.documentType) = some d.documentType

section

variable {f : Fragment} {settings : Settings} {documents : List WalletDocument}
  {rules : NormalizedRules} {grouped : List (List DocumentPlan)} {proof : ProofType}

/-- The field that criteria share is required: whichever field comes first under its name is
planned for criteria too. -/
theorem joins_of_absorbs
    (heach : List.Forall₂ (fun g ps => g.plans rules = .ok ps) (ofCriteria rules.criteria) grouped)
    (hf : f.KeepsFirsts settings documents (grouped.flatten
      ++ DocumentRule.plans rules.documentRules (ofCriteria rules.criteria)))
    (hindexed : rules.Indexed) (hunpaired : Criterion.Unpaired rules.criteria)
    {d : DocumentRule} (hd : d ∈ rules.documentRules) (hproof : proof ∈ d.allowedProofs)
    (habsorbs : rules.Absorbs proof) : f.Joins rules proof := by
  obtain ⟨c, hc, hsingle⟩ := habsorbs.1
  obtain ⟨g, hg, plan, hok, hname⟩ := exists_joined_plan hindexed hunpaired hd hproof hc hsingle
  obtain ⟨ps, hps, hok'⟩ := exists_of_mem_left heach hg
  cases hok.symm.trans hok'
  have hgrouped : plan ∈ grouped.flatten :=
    List.mem_flatten.mpr ⟨_, hps, List.mem_singleton.mpr rfl⟩
  obtain ⟨first, hfirst⟩ := Option.isSome_iff_exists.mp (List.find?_isSome
    (p := fun other : DocumentPlan => other.name == plan.name).mpr
      ⟨plan, hgrouped, beq_self_eq_true _⟩)
  constructor
  case not_planned =>
    intro other
    exact DocumentRule.name_ne_of_isAbsorbed
      ((DocumentRule.isAbsorbed_iff hunpaired).mpr habsorbs)
  case required =>
    show _ ++ nameSuffix ∈ _
    rw [← hname, hf.mem_required_iff, List.find?_append, hfirst, Option.some_or]
    exact ⟨first, rfl, (plans_of_mem_flatten heach (List.mem_of_find?_eq_some hfirst)).2⟩

/-- The first field under the name of a proof is planned for criteria, hence required, or is that
of the rule that counts for the proof. -/
theorem honours_of_not_absorbs
    (heach : List.Forall₂ (fun g ps => g.plans rules = .ok ps) (ofCriteria rules.criteria) grouped)
    (hf : f.KeepsFirsts settings documents (grouped.flatten
      ++ DocumentRule.plans rules.documentRules (ofCriteria rules.criteria)))
    (hunpaired : Criterion.Unpaired rules.criteria) {d : DocumentRule}
    (hd : d ∈ rules.documentRules) (hproof : proof ∈ d.allowedProofs)
    (hnot : ¬ rules.Absorbs proof) : f.Honours rules proof := by
  have hkept : DocumentRule.isAbsorbed (ofCriteria rules.criteria) proof = false := by
    rw [Bool.eq_false_iff, ne_eq, DocumentRule.isAbsorbed_iff hunpaired]
    exact hnot
  obtain ⟨d', hd'⟩ := NormalizedRules.exists_ruleFor? hd hproof
  have hrule := NormalizedRules.isRequired_of_ruleFor? hd'
  -- the plans of the groups come before those of the rules
  have hfirst : (grouped.flatten ++ DocumentRule.plans rules.documentRules
      (ofCriteria rules.criteria)).find? (fun plan => plan.name == proof)
        = (grouped.flatten.find? fun plan => plan.name == proof).or
          (some (d'.planFor proof)) := by
    rw [List.find?_append, DocumentRule.find?_plans hkept, hd', Option.map_some]
  constructor
  case present =>
    obtain ⟨plan, hplan⟩ : ∃ plan, (grouped.flatten.find? fun plan => plan.name == proof).or
        (some (d'.planFor proof)) = some plan :=
      Option.isSome_iff_exists.mp (by rw [Option.isSome_or, Option.isSome_some, Bool.or_true])
    obtain ⟨hmem, hname⟩ := hf.property_mem (hfirst.trans hplan)
    exact List.mem_map.mpr ⟨_, hmem, hname⟩
  case mandatory =>
    intro hmandatory
    rw [hf.mem_required_iff, hfirst]
    cases hgroup : grouped.flatten.find? fun plan => plan.name == proof with
    | none => exact ⟨_, rfl, hrule.mpr hmandatory⟩
    | some plan =>
      exact ⟨plan, rfl, (plans_of_mem_flatten heach (List.mem_of_find?_eq_some hgroup)).2⟩
  case own =>
    intro hnone
    have hgroup : grouped.flatten.find? (fun plan => plan.name == proof) = none := by
      rw [List.find?_eq_none]
      intro plan hplan he
      exact hnone plan (plans_of_mem_flatten heach hplan).1 (beq_iff_eq.mp he)
    rw [hgroup, Option.none_or] at hfirst
    constructor
    · rw [hf.mem_required_iff, hfirst, ← hrule]
      simp [DocumentRule.planFor]
    · refine ⟨d', hd', fun q hq hname => ?_⟩
      obtain ⟨plan, hplan, rfl⟩ := hf.exists_find? hq
      rw [hname, hfirst] at hplan
      cases hplan
      rfl

end

/-- A feed that a document may hold gives a fragment with every wallet that is loaded, and every
proof of every document rule is joined with criteria that accept it alone, or has a field as the
document rules ask for. -/
theorem document_rule_honoured {settings : Settings} {feed : Json} {wallet : Wallet.Input}
    {documents : List WalletDocument} (hfeed : feed.isReadable = true)
    (hdocuments : wallet.load.outcome = .ok documents) :
    ∃ rules fragment, (RuleFeed.normalize feed).outcome = .ok rules ∧
      (DocumentFields.build settings feed wallet {}).outcome = .ok fragment ∧
      ∀ d ∈ rules.documentRules, ∀ proof ∈ d.allowedProofs,
        (rules.Absorbs proof → fragment.Joins rules proof) ∧
        (¬ rules.Absorbs proof → fragment.Honours rules proof) := by
  obtain ⟨rules, hrules⟩ := RuleFeed.exists_normalize hfeed
  have hunpaired := RuleFeed.unpaired_of_normalize hfeed hrules
  obtain ⟨grouped, heach, hplans⟩ :=
    DocumentFields.plans_eq_ok (RuleFeed.sound_of_normalize hrules)
  obtain ⟨fragment, hbuild, hf⟩ := DocumentFields.exists_build hrules hdocuments hplans
  exact ⟨rules, fragment, hrules, hbuild, fun d hd proof hproof =>
    ⟨joins_of_absorbs heach hf (RuleFeed.indexed_of_normalize hrules) hunpaired hd hproof,
      honours_of_not_absorbs heach hf hunpaired hd hproof⟩⟩

/-- Two criteria that accept `p` alone, one that accepts `q` or `r`, an optional document rule for
`q` and `p` and a mandatory one for `q`. -/
def mixedRules : Json :=
  .array (requesting [("a", [Text.ofString "p"]), ("b", [Text.ofString "p"]),
      ("c", ["q", "r"].map Text.ofString)]
    ++ [Json.record [("documentType", Json.text "s"),
        ("allowedProofs", Json.ofTexts (["q", "p"].map Text.ofString))],
      Json.record [("documentType", Json.text "t"),
        ("allowedProofs", Json.ofTexts [Text.ofString "q"]), ("isRequired", .bool true)]])

/-- The criteria for `p` are joined, and `q` has a field of its own. -/
theorem document_rule_honoured_of_mixedRules :
    mixedRules.isReadable = true ∧
      ∃ rules fragment, (RuleFeed.normalize mixedRules).outcome = .ok rules ∧
        (DocumentFields.build .standard mixedRules (.documents []) {}).outcome = .ok fragment ∧
        rules.Mandatory (Text.ofString "q") ∧
        fragment.Joins rules (Text.ofString "p") ∧ fragment.Honours rules (Text.ofString "q") := by
  have hfeed : mixedRules.isReadable = true := by decide +kernel
  obtain ⟨rules, fragment, hrules, hbuild, hall⟩ :=
    @document_rule_honoured .standard mixedRules (.documents []) [] hfeed rfl
  have hany : ((RuleFeed.normalize mixedRules).outcome.toOption.any fun rules =>
      rules.Absorbs (Text.ofString "p") ∧ ¬ rules.Absorbs (Text.ofString "q") ∧
      rules.documentRules = [⟨Text.ofString "s", ["q", "p"].map Text.ofString, false⟩,
        ⟨Text.ofString "t", [Text.ofString "q"], true⟩]) = true := by
    decide +kernel
  rw [hrules] at hany
  obtain ⟨hp, hq, hof⟩ := of_decide_eq_true hany
  rw [hof, List.forall_mem_cons, List.forall_mem_singleton] at hall
  have hmandatory : rules.Mandatory (Text.ofString "q") := by
    rw [NormalizedRules.Mandatory, hof]
    exact ⟨_, List.mem_cons_of_mem _ (List.mem_singleton.mpr rfl), rfl,
      List.mem_singleton.mpr rfl⟩
  exact ⟨hfeed, rules, fragment, hrules, hbuild, hmandatory,
    (hall.1 _ (List.mem_cons_of_mem _ (List.mem_singleton.mpr rfl))).1 hp,
    (hall.2 _ (List.mem_singleton.mpr rfl)).2 hq⟩

end BenefitForm
