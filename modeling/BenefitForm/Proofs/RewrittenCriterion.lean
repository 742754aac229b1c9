import BenefitForm.Proofs.FeedOrder
import BenefitForm.Proofs.ProofOrder

/-!
# Other ways to write a criterion

A criterion may list its proofs in any order and any number of times, and may say
what it likes about being required. A feed and another one that writes its criteria
differently (`RuleFeed.Rewritten`) are read and planned side by side: every stage
keeps a relation between what the two runs have so far, and both fail at the same
step or neither does (`EndsAlike`).

The lists of proofs have to be looked at where they decide something: the key of a
group and whether it has more than one proof, the types that back it, and the
documents that a field offers. All of these see the same proofs in some order. What
does show the order are the titles and the proof that a field records, which
`Fragment.untitled` leaves out.

- `Rule.ofJson_alike`, `RuleFeed.normalize_alike`: what is read.
- `ProofGroup.ofCriteria_alike`, `DocumentFields.plans_alike`: what is planned.
- `build_rewritten`: the fragments of two feeds.
-/

namespace BenefitForm

/-! ### Entries and feeds -/

/-- Whether two objects are about a criterion, say the same about it but for `isRequired`, and list
the same proofs. -/
structure Rule.SameCriterion (ms ns : Members) : Prop where
  criterion : namesCriterion ms = true
  others : ∀ key, key ≠ Text.ofString "allowedProofs" → key ≠ Text.ofString "isRequired" →
    Members.get? ms key = Members.get? ns key
  proofs : Members.get? ms (Text.ofString "allowedProofs")
        = Members.get? ns (Text.ofString "allowedProofs") ∨
    ∃ vs ws, Members.get? ms (Text.ofString "allowedProofs") = some (.array vs) ∧
      Members.get? ns (Text.ofString "allowedProofs") = some (.array ws) ∧ ∀ v, v ∈ vs ↔ v ∈ ws

/-- Whether two entries are the same up to how a criterion is written. -/
inductive Rule.Rewritten : Json → Json → Prop
  | same (entry : Json) : Rewritten entry entry
  | criterion {ms ns : Members} (h : SameCriterion ms ns) : Rewritten (.object ms) (.object ns)

/-- Whether two feeds are the same up to how criteria are written. -/
inductive RuleFeed.Rewritten : Json → Json → Prop
  | same (feed : Json) : Rewritten feed feed
  | entries {es fs : List Json} (h : List.Forall₂ Rule.Rewritten es fs) :
      Rewritten (.array es) (.array fs)

/-! ### What is read -/

/-- Whether two criteria have one name and accept the same proofs. -/
structure Criterion.Alike (c d : Criterion) : Prop where
  name : c.name = d.name
  proofSet : c.proofSet = d.proofSet

/-- Whether two rules are one document rule or criteria that are alike. -/
inductive Rule.Alike : Rule → Rule → Prop
  | criterion {c d : Criterion} (h : c.Alike d) : Alike (.criterion c) (.criterion d)
  | document (d : DocumentRule) : Alike (.document d) (.document d)

/-- Whether two feeds have left the same document rules and warnings and criteria that are alike. -/
structure NormalizedRules.Alike (rules rules' : NormalizedRules) : Prop where
  criteria : List.Forall₂ Criterion.Alike rules.criteria rules'.criteria
  documentRules : rules.documentRules = rules'.documentRules
  mandatory : rules.mandatory = rules'.mandatory
  optional : rules.optional = rules'.optional
  warnings : rules.warnings = rules'.warnings

namespace Rule

theorem Alike.refl (rule : Rule) : rule.Alike rule := by
  cases rule with
  | criterion c => exact .criterion ⟨rfl, rfl⟩
  | document d => exact .document d

namespace SameCriterion

variable {ms ns : Members}

theorem member_eq (h : SameCriterion ms ns) (key : String) (hproofs : key ≠ "allowedProofs")
    (hrequired : key ≠ "isRequired") : Json.member ms key = Json.member ns key := by
  rw [Json.member, Json.member, h.others _ (fun e => hproofs (Text.ofString_injective e))
    fun e => hrequired (Text.ofString_injective e)]

theorem namesCriterion_eq (h : SameCriterion ms ns) : namesCriterion ms = namesCriterion ns := by
  rw [namesCriterion, namesCriterion, h.member_eq "criteria" (by decide) (by decide),
    h.member_eq "criterionName" (by decide) (by decide),
    h.member_eq "name" (by decide) (by decide),
    h.member_eq "documentType" (by decide) (by decide)]

theorem criterionName?_eq (h : SameCriterion ms ns) : criterionName? ms = criterionName? ns := by
  rw [criterionName?, criterionName?, h.member_eq "criteria" (by decide) (by decide),
    h.member_eq "criterionName" (by decide) (by decide),
    h.member_eq "name" (by decide) (by decide)]

end SameCriterion

/-- Lists of the same items are read alike: some item is no name, or they give the same proofs. -/
theorem mapM_name?_alike {vs ws : List Json} (h : ∀ v, v ∈ vs ↔ v ∈ ws) :
    Option.Rel (fun ps qs => ps.toFinset = qs.toFinset) (vs.mapM name?) (ws.mapM name?) := by
  have hmem : ∀ {us : List Json} {ps : List ProofType}, us.mapM name? = some ps →
      ∀ proof, proof ∈ ps ↔ ∃ u ∈ us, name? u = some proof := by
    intro us ps hps proof
    have heach := mapM_eq_some_iff.mp hps
    constructor
    · exact exists_of_mem_right heach
    · rintro ⟨u, hu, hproof⟩
      obtain ⟨q, hq, hname⟩ := exists_of_mem_left heach hu
      cases hname.symm.trans hproof
      exact hq
  refine optionRel_of_exists_iff (by simp only [exists_mapM_eq_some_iff, h]) fun ps qs hps hqs => ?_
  ext proof
  rw [List.mem_toFinset, List.mem_toFinset, hmem hps, hmem hqs]
  simp only [h]

/-- Entries about one criterion list the same proofs or are refused for the same reason. -/
theorem allowedProofs_alike {ms ns : Members} (h : SameCriterion ms ns) :
    EndsAlike (fun ps qs => ps.toFinset = qs.toFinset) (allowedProofs ms) (allowedProofs ns) := by
  rcases h.proofs with hsame | ⟨vs, ws, hvs, hws, hitems⟩
  · rw [allowedProofs, allowedProofs, Json.member, Json.member, hsame]
    exact .refl (fun proofs => Eq.refl proofs.toFinset) _
  · rw [allowedProofs, allowedProofs, Json.member, Json.member, hvs, hws]
    -- lists of the same items are empty together
    cases vs with
    | nil =>
      have hnone : ws = [] := List.eq_nil_iff_forall_not_mem.mpr fun w hw => by
        cases (hitems w).mpr hw
      rw [hnone]
      exact .error _
    | cons v vs =>
      cases ws with
      | nil => cases (hitems v).mp List.mem_cons_self
      | cons w ws =>
        have hread := mapM_name?_alike hitems
        dsimp only [Option.getD_some]
        generalize (v :: vs).mapM name? = ps? at hread
        generalize (w :: ws).mapM name? = qs? at hread
        cases hread with
        | none => exact .error _
        | some hset => exact .ok hset

/-- Entries that differ in how a criterion is written are read alike. -/
theorem ofJson_alike {entry entry' : Json} (h : Rewritten entry entry') :
    EndsAlike Alike (ofJson entry) (ofJson entry') := by
  cases h with
  | same => exact .refl Alike.refl _
  | criterion h =>
    rw [ofJson, ofJson, if_pos h.criterion, if_pos (h.namesCriterion_eq ▸ h.criterion),
      h.criterionName?_eq]
    cases criterionName? _ with
    | none => exact .error _
    | some name => exact (allowedProofs_alike h).bind fun _ _ hset => .ok (.criterion ⟨rfl, hset⟩)

end Rule

namespace NormalizedRules.Alike

variable {rules rules' : NormalizedRules}

theorem refl (rules : NormalizedRules) : rules.Alike rules :=
  ⟨List.forall₂_same.mpr fun _ _ => ⟨rfl, rfl⟩, rfl, rfl, rfl, rfl⟩

/-- A further rule. -/
theorem addRule (h : rules.Alike rules') {rule rule' : Rule} (hrule : rule.Alike rule') :
    (rules.addRule rule).Alike (rules'.addRule rule') := by
  cases hrule with
  | criterion hc =>
    exact ⟨List.rel_append h.criteria (.cons hc .nil), h.documentRules, h.mandatory, h.optional,
      h.warnings⟩
  | document d =>
    have hrules : rules.documentRules ++ [d] = rules'.documentRules ++ [d] := by
      rw [h.documentRules]
    cases hkind : d.isRequired with
    | true =>
      simp only [NormalizedRules.addRule, hkind, if_true]
      exact ⟨h.criteria, hrules, congrArg (ProofIndex.addRule · d) h.mandatory, h.optional,
        h.warnings⟩
    | false =>
      simp only [NormalizedRules.addRule, hkind, Bool.false_eq_true, if_false]
      exact ⟨h.criteria, hrules, h.mandatory, congrArg (ProofIndex.addRule · d) h.optional,
        h.warnings⟩

/-- A further warning. -/
theorem warn (h : rules.Alike rules') (w : CompilationWarning) :
    (rules.warn w).Alike (rules'.warn w) :=
  ⟨h.criteria, h.documentRules, h.mandatory, h.optional, congrArg (· ++ [w]) h.warnings⟩

/-- Proofs are backed by the same types. -/
theorem documentType?_eq (h : rules.Alike rules') : rules.documentType? = rules'.documentType? := by
  funext proof
  rw [documentType?, documentType?, h.optional, h.mandatory]

end NormalizedRules.Alike

namespace RuleFeed

/-- Reading on keeps the rules alike. -/
theorem addEntries_alike {es fs : List Json} (h : List.Forall₂ Rule.Rewritten es fs)
    {rules rules' : NormalizedRules} (hrules : rules.Alike rules') (index : Nat) :
    EndsAlike NormalizedRules.Alike (addEntries rules index es).outcome
      (addEntries rules' index fs).outcome := by
  induction h generalizing rules rules' index with
  | nil => exact .ok hrules
  | cons hentry _ ih =>
    have hread := Rule.ofJson_alike hentry
    -- both entries are rules, or are left out for one reason, or end both runs
    unfold addEntries
    generalize Rule.ofJson _ = read at hread
    generalize Rule.ofJson _ = read' at hread
    cases hread with
    | ok hrule => exact ih (hrules.addRule hrule) (index + 1)
    | error e =>
      cases e with
      | malformedRule reason =>
        simp only [Trace.outcome_bind, Trace.outcome_note, ok_bind]
        exact ih (hrules.warn (skipped index reason)) (index + 1)
      | _ => exact .error _

/-- Feeds that differ in how criteria are written leave rules that are alike. -/
theorem normalize_alike {feed feed' : Json} (h : Rewritten feed feed') :
    EndsAlike NormalizedRules.Alike (normalize feed).outcome (normalize feed').outcome := by
  cases h with
  | same => exact .refl NormalizedRules.Alike.refl _
  | entries h =>
    simp only [normalize, Trace.outcome_bind, Trace.outcome_note, Trace.outcome_pure]
    exact (addEntries_alike h (.refl {}) 0).bind fun _ _ hrules => .ok hrules

end RuleFeed

/-! ### Groups -/

/-- Whether two groups have the same names, the same proofs in some order, and criteria that are
alike. -/
structure ProofGroup.Alike (g g' : ProofGroup) : Prop where
  criterionNames : g.criterionNames = g'.criterionNames
  allowedProofs : g.allowedProofs.Perm g'.allowedProofs
  criteria : List.Forall₂ Criterion.Alike g.criteria g'.criteria

theorem Criterion.Alike.proofKey_eq {c d : Criterion} (h : c.Alike d) : c.proofKey = d.proofKey :=
  ProofSet.key_eq_of_toFinset_eq h.proofSet

namespace ProofGroup

/-- The groups of criteria that are alike among others that are. -/
theorem among_alike {cs ds : List Criterion} (h : List.Forall₂ Criterion.Alike cs ds)
    {c d : Criterion} (hc : c.Alike d) : (among cs c).Alike (among ds d) := by
  have hmembers : List.Forall₂ Criterion.Alike (cs.filter fun c' => c'.proofKey = c.proofKey)
      (ds.filter fun d' => d'.proofKey = d.proofKey) := by
    refine forall₂_filter (fun c' d' hmember => ?_) h
    rw [hmember.proofKey_eq, hc.proofKey_eq]
  exact ⟨map_eq_of_forall₂ (fun _ _ hmember => hmember.name) hmembers,
    ProofSet.distinct_perm hc.proofSet, hmembers⟩

/-- Criteria that are alike have groups that are. -/
theorem ofCriteria_alike {cs ds : List Criterion} (h : List.Forall₂ Criterion.Alike cs ds) :
    List.Forall₂ Alike (ofCriteria cs) (ofCriteria ds) := by
  rw [ofCriteria_eq, ofCriteria_eq]
  exact List.rel_map (fun _ _ hc => among_alike h hc)
    (forall₂_firstsBy (fun _ _ hc => hc.proofKey_eq) h)

end ProofGroup

/-- The proofs of document rules are absorbed by groups that are alike alike. -/
theorem DocumentRule.isAbsorbed_alike {groups groups' : List ProofGroup}
    (h : List.Forall₂ ProofGroup.Alike groups groups') (proof : ProofType) :
    isAbsorbed groups proof = isAbsorbed groups' proof := by
  rw [isAbsorbed, isAbsorbed]
  congr 1
  · exact any_eq_of_forall₂ (fun _ _ hg => hg.allowedProofs.contains_eq) h
  · refine congrArg not (any_eq_of_forall₂ (fun _ _ hg => ?_) h)
    rw [hg.allowedProofs.length_eq, hg.allowedProofs.contains_eq]

/-! ### Plans -/

/-- Whether two plans are for one field but for its title and the proof that it records. -/
structure DocumentPlan.Alike (plan plan' : DocumentPlan) : Prop where
  name : plan.name = plan'.name
  proofs : plan.proofs.Perm plan'.proofs
  required : plan.required = plan'.required
  submissionReasons : plan.submissionReasons = plan'.submissionReasons
  documentType : plan.documentType = plan'.documentType

theorem DocumentPlan.Alike.refl (plan : DocumentPlan) : plan.Alike plan :=
  ⟨rfl, .refl _, rfl, rfl, rfl⟩

/-- An order of a list with at most one element is that list. -/
theorem eq_or_several_of_perm {α : Type} {xs ys : List α} (h : xs.Perm ys) :
    xs = ys ∨ ∃ x x' xs' y y' ys', xs = x :: x' :: xs' ∧ ys = y :: y' :: ys' := by
  rcases xs with _ | ⟨x, _ | ⟨x', xs⟩⟩
  · exact .inl (List.nil_perm.mp h).symm
  · exact .inl (List.singleton_perm.mp h)
  · rcases ys with _ | ⟨y, _ | ⟨y', ys⟩⟩
    · cases h.length_eq
    · cases h.length_eq
    · exact .inr ⟨x, x', xs, y, y', ys, rfl, rfl⟩

/-- Criteria that are alike have plans that are. -/
theorem Criterion.plans_alike {c d : Criterion} (h : c.Alike d) :
    List.Forall₂ DocumentPlan.Alike c.plans d.plans := by
  have hperm := ProofSet.distinct_perm h.proofSet
  -- the name of a field shows a proof only where there is no other one
  rcases eq_or_several_of_perm hperm with hsame | ⟨p, p', ps, q, q', qs, hc, hd⟩
  · rw [plans, plans, hsame, h.name]
    exact List.forall₂_same.mpr fun plan _ => .refl plan
  · rw [hc, hd] at hperm
    rw [plans, plans, hc, hd, h.name]
    refine .cons ?_ .nil
    exact ⟨rfl, hperm, rfl, rfl, rfl⟩

namespace ProofGroup

variable {g g' : ProofGroup}

/-- The proofs of groups that are alike have the same types, in the orders of the proofs. -/
theorem coverage?_alike (h : g.Alike g') {rules rules' : NormalizedRules}
    (hrules : rules.Alike rules') :
    Option.Rel List.Perm (g.coverage? rules) (g'.coverage? rules') := by
  rw [coverage?, coverage?, hrules.documentType?_eq]
  refine optionRel_of_exists_iff ?_ fun types types' htypes htypes' => ?_
  · simp only [exists_mapM_eq_some_iff, h.allowedProofs.mem_iff]
  · rw [eq_filterMap_of_mapM htypes, eq_filterMap_of_mapM htypes']
    exact h.allowedProofs.filterMap _

/-- The only element of a list does not depend on the order of the list. -/
theorem single_eq_of_perm {xs ys : List Text} (other : Text) : xs.Perm ys →
    (match xs with | [x] => x | _ => other) = match ys with | [y] => y | _ => other := by
  intro h
  rcases eq_or_several_of_perm h with rfl | ⟨x, x', xs', y, y', ys', rfl, rfl⟩
  · rfl
  · rfl

/-- Groups that are alike have merged plans that are, for the same types in some order. -/
theorem mergedPlan_alike (h : g.Alike g') {types types' : List Text} (htypes : types.Perm types') :
    EndsAlike DocumentPlan.Alike (g.mergedPlan types) (g'.mergedPlan types') := by
  have hperm : (ProofSet.distinct (types.filter fun t => !t.isEmpty)).Perm
      (ProofSet.distinct (types'.filter fun t => !t.isEmpty)) :=
    ProofSet.distinct_perm (List.toFinset_eq_of_perm _ _ (htypes.filter _))
  have hproofs := h.allowedProofs
  unfold mergedPlan
  rcases hg : g.allowedProofs with _ | ⟨first, rest⟩
  · rw [hg] at hproofs
    rw [List.nil_perm.mp hproofs]
    exact .error _
  · rcases hg' : g'.allowedProofs with _ | ⟨first', rest'⟩
    · rw [hg, hg'] at hproofs
      cases hproofs.length_eq
    · rw [hg, hg'] at hproofs
      exact .ok ⟨by rw [h.criterionNames], hproofs, rfl, h.criterionNames,
        single_eq_of_perm eligibilityDocumentType hperm⟩

/-- Groups that are alike have plans that are. -/
theorem plans_alike (h : g.Alike g') {rules rules' : NormalizedRules}
    (hrules : rules.Alike rules') :
    EndsAlike (List.Forall₂ DocumentPlan.Alike) (g.plans rules) (g'.plans rules') := by
  have hown : List.Forall₂ DocumentPlan.Alike (g.criteria.flatMap Criterion.plans)
      (g'.criteria.flatMap Criterion.plans) :=
    List.rel_flatMap h.criteria fun _ _ hc => Criterion.plans_alike hc
  have hcoverage := coverage?_alike h hrules
  unfold plans
  generalize g.coverage? rules = types? at hcoverage
  generalize g'.coverage? rules' = types?' at hcoverage
  cases hcoverage with
  | none => exact .ok hown
  | some htypes =>
    dsimp only
    rw [h.criterionNames]
    split
    · exact .ok hown
    · exact (mergedPlan_alike h htypes).map fun _ _ hplan => .cons hplan .nil

end ProofGroup

/-- Rules that are alike have plans that are. -/
theorem DocumentFields.plans_alike {rules rules' : NormalizedRules} (h : rules.Alike rules') :
    EndsAlike (List.Forall₂ DocumentPlan.Alike) (plans rules) (plans rules') := by
  have hgroups := ProofGroup.ofCriteria_alike h.criteria
  have hown : DocumentRule.plans rules.documentRules (ProofGroup.ofCriteria rules.criteria)
      = DocumentRule.plans rules'.documentRules (ProofGroup.ofCriteria rules'.criteria) := by
    rw [DocumentRule.plans, DocumentRule.plans, h.documentRules]
    simp only [DocumentRule.isAbsorbed_alike hgroups]
  rw [plans, plans]
  have hrun : EndsAlike (List.Forall₂ (List.Forall₂ DocumentPlan.Alike))
      ((ProofGroup.ofCriteria rules.criteria).mapM fun g => g.plans rules)
      ((ProofGroup.ofCriteria rules'.criteria).mapM fun g => g.plans rules') :=
    EndsAlike.mapM (R := ProofGroup.Alike) (fun _ _ hg => ProofGroup.plans_alike hg h) hgroups
  refine hrun.bind fun _ _ hgrouped => .ok ?_
  rw [hown]
  exact List.rel_append (List.rel_flatten hgrouped)
    (List.forall₂_same.mpr fun plan _ => .refl plan)

/-! ### Fragments -/

/-- The record of a document field without the proof. -/
def DocumentMeta.withoutSubtype (d : DocumentMeta) : DocumentMeta :=
  { d with documentSubtype? := none }

/-- A property without its title and the proof that it records. -/
def FormProperty.untitled (p : FormProperty) : FormProperty :=
  { p with title := [], documentMeta? := p.documentMeta?.map DocumentMeta.withoutSubtype }

/-- A fragment without the titles of its properties and the proofs that these record. -/
def Fragment.untitled (f : Fragment) : Fragment :=
  { f with properties := f.properties.map FormProperty.untitled }

/-- Plans that are alike have properties that differ in their titles and recorded proofs. -/
theorem DocumentPlan.Alike.untitled_property {plan plan' : DocumentPlan} (h : plan.Alike plan')
    (settings : Settings) (documents : List WalletDocument) :
    (plan.property settings documents).untitled = (plan'.property settings documents).untitled := by
  have hmatching : Wallet.matching plan.proofs documents = Wallet.matching plan'.proofs documents :=
    List.filter_congr fun d _ => h.proofs.contains_eq
  simp only [FormProperty.untitled, property, Option.map_some, DocumentMeta.withoutSubtype,
    hmatching, h.name, h.required, h.submissionReasons, h.documentType]

/-- What a run of a registry reports does not depend on titles and recorded proofs. -/
theorem reports_untitled (taken : List Text) (ps : List FormProperty) :
    Registry.reports DocumentFields.note taken (ps.map FormProperty.untitled)
      = Registry.reports DocumentFields.note taken ps := by
  induction ps generalizing taken with
  | nil => rfl
  | cons p ps ih =>
    have hname : p.untitled.name = p.name := rfl
    have hnote : DocumentFields.note p.untitled = DocumentFields.note p := rfl
    rw [List.map_cons, Registry.reports, Registry.reports, hname, hnote, ih, ih]

/-- Of properties that differ in their titles and recorded proofs a run leaves fragments that differ
in these. -/
theorem untitled_foldl_offer (ws : List CompilationWarning) (ps : List FormProperty) :
    ((ps.foldl (Registry.offer DocumentFields.note) (Registry.adopt {} ws)).fragment).untitled
      = ((ps.map FormProperty.untitled).foldl (Registry.offer DocumentFields.note)
        (Registry.adopt {} ws)).fragment := by
  have hfirsts : firstsBy FormProperty.name (ps.map FormProperty.untitled)
      = (firstsBy FormProperty.name ps).map FormProperty.untitled :=
    (firstsBy_map FormProperty.name FormProperty.untitled ps).symm
  rw [fragment_foldl_offer, fragment_foldl_offer, hfirsts, reports_untitled, List.filter_map,
    List.map_map]
  rfl

/-- A feed and one that writes some of its criteria with the same proofs in another order or number,
and with or without a mark of being required, fail alike or have fragments that differ in titles
and recorded proofs alone. -/
theorem build_rewritten {feed feed' : Json} (h : RuleFeed.Rewritten feed feed')
    (settings : Settings) (wallet : Wallet.Input) :
    (DocumentFields.build settings feed wallet {}).outcome.map Fragment.untitled
      = (DocumentFields.build settings feed' wallet {}).outcome.map Fragment.untitled := by
  have hends : EndsAlike (fun f g => f.untitled = g.untitled)
      (DocumentFields.build settings feed wallet {}).outcome
      (DocumentFields.build settings feed' wallet {}).outcome := by
    simp only [DocumentFields.outcome_build, DocumentFields.outcome_buildNormalized]
    refine (RuleFeed.normalize_alike h).bind fun rules rules' hrules => ?_
    refine (EndsAlike.refl (fun _ => rfl) wallet.load.outcome).bind fun documents _ hsame => ?_
    cases hsame
    have hplanned := (DocumentFields.plans_alike hrules).mapError Failure.fault
    refine hplanned.bind fun plans plans' hplans => .ok ?_
    have hproperties : (plans.map (DocumentPlan.property settings documents)).map
        FormProperty.untitled = (plans'.map (DocumentPlan.property settings documents)).map
          FormProperty.untitled := by
      rw [List.map_map, List.map_map]
      exact map_eq_of_forall₂ (fun _ _ hplan => hplan.untitled_property settings documents) hplans
    rw [untitled_foldl_offer, untitled_foldl_offer, hproperties, hrules.warnings]
  exact hends.map_eq fun _ _ hsame => hsame

/-- An entry about a criterion that says whether it is required. -/
def markedEntry (name : String) (proofs : List String) (isRequired : Bool) : Json :=
  Json.record [("isRequired", .bool isRequired), ("criterionName", Json.text name),
    ("allowedProofs", Json.ofTexts (proofs.map Text.ofString))]

/-- The proofs of an entry may be listed differently when it is marked. -/
theorem Rule.rewritten_markedEntry {name : String} {proofs proofs' : List String}
    (h : ∀ proof, proof ∈ proofs ↔ proof ∈ proofs') (isRequired : Bool) :
    Rewritten (Json.record [("criterionName", Json.text name),
      ("allowedProofs", Json.ofTexts (proofs.map Text.ofString))])
      (markedEntry name proofs' isRequired) := by
  refine .criterion ⟨?_, fun key hproofs hrequired => ?_, .inr ⟨_, _,
    (Json.get?_literal _ _).trans rfl, (Json.get?_literal _ _).trans rfl, fun v => ?_⟩⟩
  · simp only [namesCriterion, Json.member, Json.get?_literal]
    rfl
  · have hnot : (key == Text.ofString "isRequired") = false := beq_eq_false_iff_ne.mpr hrequired
    have hnot' : (key == Text.ofString "allowedProofs") = false := beq_eq_false_iff_ne.mpr hproofs
    simp only [List.map_cons, List.map_nil, Members.get?_cons, hnot, hnot', Bool.false_eq_true,
      if_false]
  · simp only [List.mem_map, h]

/-- Two criteria and a document rule for the second of them. -/
def plainFeed : Json :=
  .array (requesting [("a", ["p", "q"].map Text.ofString), ("b", ["q"].map Text.ofString)]
    ++ [documentEntry "s" ["q"] true])

/-- The same with the proofs of both criteria listed otherwise, and with marks. -/
def markedFeed : Json :=
  .array [markedEntry "a" ["q", "p", "q"] false, markedEntry "b" ["q", "q"] true,
    documentEntry "s" ["q"] true]

/-- Both feeds have fields, with the same options and reasons. -/
theorem build_rewritten_of_markedFeed :
    RuleFeed.Rewritten plainFeed markedFeed ∧ ∃ f g,
      (DocumentFields.build .standard plainFeed (.documents (holding "q" ["x"])) {}).outcome
        = .ok f ∧
      (DocumentFields.build .standard markedFeed (.documents (holding "q" ["x"])) {}).outcome
        = .ok g ∧
      f.untitled = g.untitled := by
  have hfeeds : RuleFeed.Rewritten plainFeed markedFeed :=
    .entries (.cons (Rule.rewritten_markedEntry (by simp [or_comm]) false)
      (.cons (Rule.rewritten_markedEntry (by simp) true) (.cons (.same _) .nil)))
  have hbuilt : ∀ feed : Json, feed.isReadable = true → ∃ f,
      (DocumentFields.build .standard feed (.documents (holding "q" ["x"])) {}).outcome
        = .ok f := by
    intro feed hfeed
    obtain ⟨rules, hrules⟩ := RuleFeed.exists_normalize hfeed
    obtain ⟨_, -, hplans⟩ := DocumentFields.plans_eq_ok (RuleFeed.sound_of_normalize hrules)
    have hwallet : (Wallet.Input.documents (holding "q" ["x"])).load.outcome
        = .ok (holding "q" ["x"]) := rfl
    obtain ⟨f, hf, -⟩ := DocumentFields.exists_build hrules hwallet hplans
    exact ⟨f, hf⟩
  obtain ⟨f, hf⟩ := hbuilt plainFeed (by decide +kernel)
  obtain ⟨g, hg⟩ := hbuilt markedFeed (by decide +kernel)
  have hsame := build_rewritten hfeeds .standard (.documents (holding "q" ["x"]))
  rw [hf, hg] at hsame
  exact ⟨hfeeds, f, g, hf, hg, Except.ok.inj hsame⟩

end BenefitForm
