import BenefitForm.Proofs.Compilation
import BenefitForm.Proofs.Plan
import BenefitForm.Proofs.ProofKey
import BenefitForm.Proofs.RequiredDocument

/-!
# The fields of criteria

Every criterion has a field planned in which the documents that it accepts may be
selected. The name of the field is put together from names and proofs, so that the
fields of different criteria may have one name; then the first of them is kept, and
the others are reported.

- `property_selectsFor`: a planned field offers the documents of its criteria.
- `exists_first_of_mem`: of candidates of one name the first is kept, and any other
  is reported.
- `criterion_field`: what becomes of the field of each criterion of a feed.
-/

namespace BenefitForm

/-- The documents that a criterion accepts. -/
def Criterion.accepted (c : Criterion) (documents : List WalletDocument) : List WalletDocument :=
  documents.filter fun d => d.subtype ∈ c.allowedProofs

/-- Whether exactly the documents that a criterion accepts may be selected in a property, which is
required and names the criterion. -/
structure FormProperty.SelectsFor (p : FormProperty) (c : Criterion)
    (documents : List WalletDocument) : Prop where
  required : p.required = true
  reason : ∃ recorded, p.documentMeta? = some recorded ∧ c.name ∈ recorded.submissionReasons
  labels : p.valueNames? = some ((c.accepted documents).map (·.subtype))
  options : p.values? = some (if c.accepted documents = [] then [[]]
    else (c.accepted documents).map (·.content))

/-- A planned field offers the documents that its criterion accepts. -/
theorem property_selectsFor (settings : Settings) (documents : List WalletDocument)
    {plan : DocumentPlan} {c : Criterion} (h : plan.Serves c) :
    (plan.property settings documents).SelectsFor c documents := by
  have hmatching : Wallet.matching plan.proofs documents = c.accepted documents := by
    refine List.filter_congr fun d _ => ?_
    rw [List.contains_eq_mem, decide_eq_decide]
    exact h.proofs d.subtype
  refine ⟨h.required, ⟨_, rfl, h.reason⟩, ?_, ?_⟩
  · rw [← hmatching]
    rfl
  · rw [← hmatching]
    show some (if ((Wallet.matching plan.proofs documents).map (·.content)).isEmpty then [[]]
      else (Wallet.matching plan.proofs documents).map (·.content)) = _
    cases Wallet.matching plan.proofs documents <;> rfl

/-! ### Candidates of one name -/

/-- Of candidates of one name the first is kept; a later one is reported. -/
theorem exists_first_of_mem (note : FormProperty → List CompilationWarning)
    {qs : List FormProperty} {q : FormProperty} (h : q ∈ qs) :
    ∃ p ∈ firstsBy FormProperty.name qs, p.name = q.name ∧
      (p = q ∨ .duplicate (.text p.name) ∈ Registry.reports note [] qs) := by
  obtain ⟨p, hp, hname⟩ := List.mem_map.mp
    ((mem_map_firstsBy FormProperty.name).mpr (List.mem_map_of_mem h))
  refine ⟨p, hp, hname, ?_⟩
  obtain ⟨before, after, rfl⟩ := List.append_of_mem h
  by_cases hbefore : q.name ∈ before.map (·.name)
  · right
    rw [hname]
    exact Registry.duplicate_mem_reports note (.inr hbefore)
  · -- the search for the name passes over what comes before
    left
    have hfound := (mem_firstsBy_iff FormProperty.name).mp hp
    have hnone : (before.find? fun r => r.name == p.name) = none := by
      rw [List.find?_eq_none]
      intro r hr he
      exact hbefore (List.mem_map.mpr ⟨r, hr, (beq_iff_eq.mp he).trans hname⟩)
    rw [List.find?_append, hnone, Option.none_or, List.find?_cons, beq_iff_eq.mpr hname.symm]
      at hfound
    exact (Option.some.inj hfound).symm

/-- What a search finds is on the left if something there is to be found. -/
theorem mem_left_of_find?_append {α : Type} {q : α → Bool} {xs ys : List α} {x y : α}
    (hx : (xs ++ ys).find? q = some x) (hy : y ∈ xs) (hq : q y = true) : x ∈ xs := by
  obtain ⟨z, hz⟩ := Option.isSome_iff_exists.mp (List.find?_isSome.mpr ⟨y, hy, hq⟩)
  rw [List.find?_append, hz, Option.some_or] at hx
  exact Option.some.inj hx ▸ List.mem_of_find?_eq_some hz

/-! ### Whole feeds -/

open ProofGroup

/-- Whether a field is planned for criteria. -/
def NormalizedRules.Plans (rules : NormalizedRules) (plan : DocumentPlan) : Prop :=
  ∃ g ∈ ofCriteria rules.criteria, ∃ ps, g.plans rules = .ok ps ∧ plan ∈ ps

/-- Every criterion of a feed has a field planned that serves it. Of the fields planned with its
name the first is kept and required: that very field, or one planned for other criteria, with a
warning that the name was taken. -/
theorem criterion_field {settings : Settings} {feed : Json} {wallet : Wallet.Input}
    {rules : NormalizedRules} {documents : List WalletDocument}
    (hrules : (RuleFeed.normalize feed).outcome = .ok rules)
    (hdocuments : wallet.load.outcome = .ok documents)
    (hunpaired : ∀ c ∈ rules.criteria, ∀ proof ∈ c.allowedProofs, proof.Unpaired) :
    ∃ fragment plans, (DocumentFields.build settings feed wallet {}).outcome = .ok fragment ∧
      DocumentFields.plans rules = .ok plans ∧
      ∀ c ∈ rules.criteria, ∃ plan first, rules.Plans plan ∧ plan.Serves c ∧ rules.Plans first ∧
        plans.find? (fun other => other.name == plan.name) = some first ∧
        first.property settings documents ∈ fragment.properties ∧
        first.name ∈ fragment.required ∧
        ((first.property settings documents).SelectsFor c documents ∨
          first ≠ plan ∧ .duplicate (.text first.name) ∈ fragment.warnings) := by
  have hsound := RuleFeed.sound_of_normalize hrules
  obtain ⟨grouped, heach, hplans⟩ := DocumentFields.plans_eq_ok hsound
  refine ⟨_, _, DocumentFields.build_eq_ok.mpr
    ⟨rules, documents, _, hrules, hdocuments, hplans, rfl⟩, hplans, ?_⟩
  rw [fragment_foldl_offer]
  intro c hc
  -- the group of `c` has the proofs of the criterion that came first, which are those of `c`
  obtain ⟨founder, hfounder, hkey, hg, hmem⟩ := exists_mem_ofCriteria hc
  obtain ⟨ps, hps, hok⟩ := exists_of_mem_left heach hg
  obtain ⟨plan, hplan, hserves⟩ := exists_serves hok hmem (hsound.criteria c hc).2.1
    (ProofSet.mem_iff_of_key_eq (hunpaired founder hfounder) (hunpaired c hc) hkey)
  have hgrouped : plan ∈ grouped.flatten := List.mem_flatten.mpr ⟨ps, hps, hplan⟩
  obtain ⟨p, hp, hname, hkept⟩ := exists_first_of_mem DocumentFields.note
    (List.mem_map_of_mem (f := DocumentPlan.property settings documents)
      (List.mem_append_left (DocumentRule.plans rules.documentRules (ofCriteria rules.criteria))
        hgrouped))
  -- the first field of the name is planned for criteria, hence required
  have hfound := (mem_firstsBy_iff FormProperty.name).mp hp
  rw [hname, List.find?_map] at hfound
  obtain ⟨first, hfirst, rfl⟩ := Option.map_eq_some_iff.mp hfound
  obtain ⟨qs, hqs, hfirstMem⟩ := List.mem_flatten.mp
    (mem_left_of_find?_append hfirst hgrouped (beq_self_eq_true plan.name))
  obtain ⟨g, hg', hokFirst⟩ := exists_of_mem_right heach hqs
  have hrequired : (first.property settings documents).required = true :=
    (plan_of_mem hokFirst hfirstMem).1
  refine ⟨plan, first, ⟨_, hg, ps, hok, hplan⟩, hserves, ⟨g, hg', qs, hokFirst, hfirstMem⟩,
    hfirst, hp, List.mem_map_of_mem (f := FormProperty.name)
      (List.mem_filter.mpr ⟨hp, hrequired⟩), ?_⟩
  by_cases hsame : first = plan
  · left
    rw [hsame]
    exact property_selectsFor settings documents hserves
  · rcases hkept with heq | hreported
    · left
      rw [heq]
      exact property_selectsFor settings documents hserves
    · exact .inr ⟨hsame, List.mem_append_right _ hreported⟩

/-- A feed of criteria with the proofs that each allows. -/
def requesting (criteria : List (String × List Text)) : List Json :=
  criteria.map fun c => Json.record [("criterionName", Json.text c.1),
    ("allowedProofs", Json.ofTexts c.2)]

/-- Two criteria whose fields have one name: `a` with `b_c`, and `a_b` with `c`. -/
def namesakes : Json :=
  .array (requesting [("a", [Text.ofString "b_c"]), ("a_b", [Text.ofString "c"])])

/-- Of the fields of two criteria with one name the first is kept. -/
theorem criterion_field_of_namesakes :
    ∃ rules, (RuleFeed.normalize namesakes).outcome = .ok rules ∧ rules.criteria.length = 2 ∧
      ∃ fragment plans,
        (DocumentFields.build .standard namesakes (.documents (holding "c" ["x"])) {}).outcome
          = .ok fragment ∧
        DocumentFields.plans rules = .ok plans ∧
        ∀ c ∈ rules.criteria, ∃ plan first, rules.Plans plan ∧ plan.Serves c ∧ rules.Plans first ∧
          plans.find? (fun other => other.name == plan.name) = some first ∧
          first.property .standard (holding "c" ["x"]) ∈ fragment.properties ∧
          first.name ∈ fragment.required ∧
          ((first.property .standard (holding "c" ["x"])).SelectsFor c (holding "c" ["x"]) ∨
            first ≠ plan ∧ .duplicate (.text first.name) ∈ fragment.warnings) := by
  have hany : ((RuleFeed.normalize namesakes).outcome.toOption.any fun rules =>
      rules.criteria.length = 2 ∧ ∀ c ∈ rules.criteria, ∀ proof ∈ c.allowedProofs,
        proof.Unpaired) = true := by
    decide +kernel
  obtain ⟨rules, hrules, h⟩ := exists_ok_of_any hany
  have hof := of_decide_eq_true h
  exact ⟨rules, hrules, hof.1, criterion_field hrules rfl hof.2⟩

/-- Whether no field lets exactly the documents that a criterion accepts be selected. -/
def Unserved (feed : Json) (documents : List WalletDocument) : Prop :=
  ∃ rules fragment, (RuleFeed.normalize feed).outcome = .ok rules ∧
    (DocumentFields.build .standard feed (.documents documents) {}).outcome = .ok fragment ∧
    ∃ c ∈ rules.criteria, ∀ p ∈ fragment.properties, ¬ p.SelectsFor c documents

theorem unserved_of_any {feed : Json} {documents : List WalletDocument}
    (h : ((RuleFeed.normalize feed).outcome.toOption.any fun rules =>
      (DocumentFields.build .standard feed (.documents documents) {}).outcome.toOption.any
        fun fragment => ∃ c ∈ rules.criteria, ∀ p ∈ fragment.properties,
          p.valueNames? ≠ some ((c.accepted documents).map (·.subtype))) = true) :
    Unserved feed documents := by
  obtain ⟨rules, hrules, h⟩ := exists_ok_of_any h
  obtain ⟨fragment, hfragment, h⟩ := exists_ok_of_any h
  obtain ⟨c, hc, hnone⟩ := of_decide_eq_true h
  exact ⟨rules, fragment, hrules, hfragment, c, hc, fun p hp hselects =>
    hnone p hp hselects.labels⟩

/-- A high surrogate and a low one. -/
def surrogatePair : Text := [⟨0xD83D, by decide⟩, ⟨0xDE00, by decide⟩]

/-- What a surrogate pair stands for. -/
def pairedPoint : Text := [⟨0x1F600, by decide⟩]

/-- Two criteria in one group, whose proofs a document rule backs for the first only. -/
def confused : Json :=
  .array (requesting [("a", [surrogatePair]), ("b", [pairedPoint])] ++ [Json.record
    [("documentType", Json.text "t"), ("allowedProofs", Json.ofTexts [surrogatePair])]])

/-- The field of a criterion may have the name of another one, and two criteria whose proofs are
written alike share a field for the proofs of the first. -/
theorem criterion_field_taken :
    Unserved namesakes (holding "c" ["x"]) ∧
      Unserved confused [{ id := [], type := [], subtype := pairedPoint, content := [] }] :=
  ⟨unserved_of_any (by decide +kernel), unserved_of_any (by decide +kernel)⟩

end BenefitForm
