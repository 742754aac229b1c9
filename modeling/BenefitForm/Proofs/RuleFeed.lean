import BenefitForm.Rule.Feed
import BenefitForm.Proofs.Members

/-!
# What a rule feed holds

Whatever a feed contains, the rules that are read from it are usable: each has a
name and at least one proof, and no proof is the empty text (`Rule.Usable`).
Reading an entry establishes this (`usable_of_ofJson`), and what the rules that are
read and the warnings keep, entry by entry, holds of the feed (`holds_of_normalize`):

- `all_of_normalize`: what holds of the rule in each entry holds of all rules.
- `sound_of_normalize`: all rules are usable, and all that a feed can be warned
  about is a malformed rule.
- `tellsFirsts_of_normalize`: the index of each kind of document rules has the type
  of the first rule that lists a proof; so it has every proof of the rules
  (`indexed_of_normalize`), and a document type backs each
  (`Indexed.exists_documentType?`).
-/

namespace BenefitForm

/-! ### One rule -/

/-- Proofs that a rule can list: at least one, and none of them empty. -/
def Rule.ProofsUsable (proofs : List ProofType) : Prop := proofs ≠ [] ∧ ∀ p ∈ proofs, p ≠ []

/-- A rule with a name and proofs. -/
def Rule.Usable : Rule → Prop
  | .criterion c => c.name ≠ [] ∧ Rule.ProofsUsable c.allowedProofs
  | .document d => d.documentType ≠ [] ∧ Rule.ProofsUsable d.allowedProofs

namespace Rule

theorem ne_nil_of_name? {v : Json} {t : Text} (h : name? v = some t) : t ≠ [] := by
  unfold name? at h
  split at h
  · cases h
  · rename_i hv
    cases h
    rintro rfl
    exact hv rfl
  · cases h

/-- The name of a criterion is never empty. -/
theorem ne_nil_of_criterionName? {members : Members} {t : Text}
    (h : criterionName? members = some t) : t ≠ [] := by
  unfold criterionName? at h
  split at h
  · exact ne_nil_of_name? h
  · exact ne_nil_of_name? h
  · exact ne_nil_of_name? h

theorem proofsUsable_of_allowedProofs {members : Members} {proofs : List ProofType}
    (h : allowedProofs members = .ok proofs) : ProofsUsable proofs := by
  unfold allowedProofs at h
  split at h
  · rename_i v vs _
    split at h
    · rename_i read hread
      cases h
      have heach : List.Forall₂ (fun v t => name? v = some t) (v :: vs) proofs :=
        mapM_eq_some_iff.mp hread
      constructor
      · rintro rfl
        cases heach
      · intro p hp
        obtain ⟨w, -, hw⟩ := exists_of_mem_right heach hp
        exact ne_nil_of_name? hw
    · cases h
  · cases h

/-- Every rule that is read is usable. -/
theorem usable_of_ofJson {v : Json} {rule : Rule} (h : ofJson v = .ok rule) : rule.Usable := by
  cases v with
  | object members =>
    rw [ofJson] at h
    split at h
    · split at h
      · cases h
      · rename_i name hname
        obtain ⟨proofs, hproofs, hrule⟩ := bind_eq_ok_iff.mp h
        cases hrule
        exact ⟨ne_nil_of_criterionName? hname, proofsUsable_of_allowedProofs hproofs⟩
    · split at h
      · cases h
      · rename_i type htype
        obtain ⟨proofs, hproofs, hrule⟩ := bind_eq_ok_iff.mp h
        cases hrule
        exact ⟨ne_nil_of_name? htype, proofsUsable_of_allowedProofs hproofs⟩
  | _ =>
    obtain ⟨shown, -, hthrow⟩ := bind_eq_ok_iff.mp h
    cases hthrow

end Rule

/-! ### Whole feeds -/

namespace NormalizedRules

/-- The rules are usable, and nothing but malformed rules was left out. -/
structure Sound (rules : NormalizedRules) : Prop where
  criteria : ∀ c ∈ rules.criteria, (Rule.criterion c).Usable
  documentRules : ∀ d ∈ rules.documentRules, (Rule.document d).Usable
  warnings : ∀ w ∈ rules.warnings, w.code = .malformedRule

/-- Whether all rules have a property. -/
structure All (Q : Rule → Prop) (rules : NormalizedRules) : Prop where
  criteria : ∀ c ∈ rules.criteria, Q (.criterion c)
  documentRules : ∀ d ∈ rules.documentRules, Q (.document d)

theorem all_empty (Q : Rule → Prop) : ({} : NormalizedRules).All Q := by
  constructor <;> intro _ h <;> cases h

/-- A further rule with the property. -/
theorem All.addRule {Q : Rule → Prop} {rules : NormalizedRules} (h : rules.All Q) {rule : Rule}
    (hrule : Q rule) : (rules.addRule rule).All Q := by
  cases rule with
  | criterion c =>
    refine ⟨fun c' hc => ?_, h.documentRules⟩
    rcases List.mem_append.mp hc with hc | hc
    · exact h.criteria c' hc
    · exact List.mem_singleton.mp hc ▸ hrule
  | document d =>
    have hall : ∀ d' ∈ rules.documentRules ++ [d], Q (.document d') := by
      intro d' hd
      rcases List.mem_append.mp hd with hd | hd
      · exact h.documentRules d' hd
      · exact List.mem_singleton.mp hd ▸ hrule
    cases hrequired : d.isRequired
    · simp only [NormalizedRules.addRule, hrequired]
      exact ⟨h.criteria, hall⟩
    · simp only [NormalizedRules.addRule, hrequired]
      exact ⟨h.criteria, hall⟩

/-- A rule brings no warning. -/
theorem warnings_addRule (rules : NormalizedRules) (rule : Rule) :
    (rules.addRule rule).warnings = rules.warnings := by
  cases rule with
  | criterion c => rfl
  | document d => cases hrequired : d.isRequired <;> simp [addRule, hrequired]

theorem sound_empty : ({} : NormalizedRules).Sound := by
  constructor <;> intro _ h <;> cases h

/-- A usable rule keeps the rules sound. -/
theorem Sound.addRule {rules : NormalizedRules} (h : rules.Sound) {rule : Rule}
    (hrule : rule.Usable) : (rules.addRule rule).Sound := by
  have hall : (rules.addRule rule).All Rule.Usable := .addRule ⟨h.criteria, h.documentRules⟩ hrule
  exact ⟨hall.criteria, hall.documentRules, rules.warnings_addRule rule ▸ h.warnings⟩

/-- A warning about a malformed rule keeps the rules sound. -/
theorem Sound.warn {rules : NormalizedRules} (h : rules.Sound) {w : CompilationWarning}
    (hw : w.code = .malformedRule) : (rules.warn w).Sound := by
  refine ⟨h.criteria, h.documentRules, fun v hv => ?_⟩
  rcases List.mem_append.mp hv with hv | hv
  · exact h.warnings v hv
  · exact List.mem_singleton.mp hv ▸ hw

/-! ### Indexes -/

/-- The index of mandatory or of optional rules. -/
def index (rules : NormalizedRules) (required : Bool) : ProofIndex :=
  if required then rules.mandatory else rules.optional

/-- Every proof of a document rule is in the index of its kind. -/
def Indexed (rules : NormalizedRules) : Prop :=
  ∀ d ∈ rules.documentRules, ∀ proof ∈ d.allowedProofs,
    proof ∈ Members.keys (rules.index d.isRequired)

/-- The document type of the first rule of a kind that lists a proof. -/
def firstType? (rules : NormalizedRules) (required : Bool) (proof : ProofType) : Option Text :=
  (rules.documentRules.find? fun d =>
    d.isRequired == required && d.allowedProofs.contains proof).map (·.documentType)

/-- The document type of a proof is that of a rule that lists it. -/
theorem exists_of_firstType? {rules : NormalizedRules} {required : Bool} {proof : ProofType}
    {type : Text} (h : rules.firstType? required proof = some type) :
    ∃ d ∈ rules.documentRules, proof ∈ d.allowedProofs ∧ d.documentType = type := by
  obtain ⟨d, hd, htype⟩ := Option.map_eq_some_iff.mp h
  have hlisted := List.find?_some hd
  rw [Bool.and_eq_true, List.contains_iff_mem] at hlisted
  exact ⟨d, List.mem_of_find?_eq_some hd, hlisted.2, htype⟩

/-- Whether the index of each kind of rules tells their first document types. -/
def TellsFirsts (rules : NormalizedRules) : Prop :=
  ∀ required proof, Members.get? (rules.index required) proof = rules.firstType? required proof

/-- A document rule is added to the index of its kind. -/
theorem index_addRule (rules : NormalizedRules) (d : DocumentRule) (required : Bool) :
    (rules.addRule (.document d)).index required
      = if required = d.isRequired then (rules.index required).addRule d
        else rules.index required := by
  cases hkind : d.isRequired <;> cases required <;> simp [addRule, index, hkind]

theorem criteria_addRule (rules : NormalizedRules) (d : DocumentRule) :
    (rules.addRule (.document d)).criteria = rules.criteria := by
  cases hkind : d.isRequired <;> simp [addRule, hkind]

theorem documentRules_addRule (rules : NormalizedRules) (d : DocumentRule) :
    (rules.addRule (.document d)).documentRules = rules.documentRules ++ [d] := by
  cases hkind : d.isRequired <;> simp [addRule, hkind]

/-- A rule gives its document type to those of its proofs that have none. -/
theorem get?_addRule (index : ProofIndex) (d : DocumentRule) (proof : ProofType) :
    Members.get? (index.addRule d) proof = (Members.get? index proof).or
      (if d.allowedProofs.contains proof then some d.documentType else none) := by
  rw [ProofIndex.addRule]
  generalize d.allowedProofs = proofs
  induction proofs generalizing index with
  | nil => simp
  | cons q proofs ih =>
    rw [List.foldl_cons, ih, List.contains_cons]
    by_cases hq : q ∈ Members.keys index
    · -- a proof that is there keeps its type, so this one is passed over
      rw [if_pos (Members.contains_iff.mpr hq)]
      by_cases he : proof = q
      · obtain ⟨type, htype⟩ :=
          Option.ne_none_iff_exists'.mp fun hnone => Members.get?_eq_none_iff.mp hnone hq
        rw [he, htype, Option.some_or, Option.some_or]
      · rw [beq_eq_false_iff_ne.mpr he, Bool.false_or]
    · rw [if_neg fun h => hq (Members.contains_iff.mp h), Members.get?_append, Option.or_assoc,
        Members.get?_cons, Members.get?_nil]
      by_cases he : proof = q
      · simp [he]
      · rw [beq_eq_false_iff_ne.mpr he, Bool.false_or, if_neg Bool.false_ne_true, Option.none_or]

theorem tellsFirsts_empty : ({} : NormalizedRules).TellsFirsts := by
  intro required proof
  cases required <;> rfl

/-- A further rule comes after all others, in the index of its kind as in the list. -/
theorem TellsFirsts.addRule {rules : NormalizedRules} (h : rules.TellsFirsts) (rule : Rule) :
    (rules.addRule rule).TellsFirsts := by
  cases rule with
  | criterion c => exact h
  | document d =>
    intro required proof
    rw [index_addRule, firstType?, documentRules_addRule, List.find?_append, Option.map_or,
      ← firstType?, List.find?_singleton]
    by_cases hkind : required = d.isRequired
    · rw [if_pos hkind, get?_addRule, h required proof, hkind, beq_self_eq_true, Bool.true_and]
      cases d.allowedProofs.contains proof <;> rfl
    · have hother : (d.isRequired == required) = false :=
        beq_eq_false_iff_ne.mpr fun e => hkind e.symm
      rw [if_neg hkind, h required proof, hother, Bool.false_and, if_neg Bool.false_ne_true,
        Option.map_none, Option.or_none]

/-- The indexes have every proof of the document rules. -/
theorem TellsFirsts.indexed {rules : NormalizedRules} (h : rules.TellsFirsts) :
    rules.Indexed := by
  intro d hd proof hproof
  by_contra hnone
  have hfound : rules.firstType? d.isRequired proof = none :=
    (h d.isRequired proof).symm.trans (Members.get?_eq_none_iff.mpr hnone)
  rw [firstType?, Option.map_eq_none_iff, List.find?_eq_none] at hfound
  refine hfound d hd ?_
  rw [beq_self_eq_true, Bool.true_and]
  exact List.contains_iff_mem.mpr hproof

/-- A proof of a document rule is backed by a document type. -/
theorem Indexed.exists_documentType? {rules : NormalizedRules} (h : rules.Indexed)
    {d : DocumentRule} (hd : d ∈ rules.documentRules) {proof : ProofType}
    (hproof : proof ∈ d.allowedProofs) : ∃ type, rules.documentType? proof = some type := by
  have hindexed := h d hd proof hproof
  rw [documentType?]
  cases hoptional : Members.get? rules.optional proof with
  | some type => exact ⟨type, rfl⟩
  | none =>
    -- the rule is no optional one, so the mandatory index has the proof
    have hnone := Members.get?_eq_none_iff.mp hoptional
    cases hkind : d.isRequired with
    | false =>
      rw [hkind] at hindexed
      exact absurd hindexed hnone
    | true =>
      rw [hkind] at hindexed
      exact Option.ne_none_iff_exists'.mp fun he => Members.get?_eq_none_iff.mp he hindexed

end NormalizedRules

namespace RuleFeed

open NormalizedRules

/-! ### Reading on -/

/-- The entries of a feed. -/
def entries (feed : Json) : List Json := feed.asArray?.getD []

/-- What holds of the entries read so far and of what they gave, and is kept by an entry that is a
rule and by one that is none, holds when all are read. -/
theorem holds_of_addEntries {P : List Json → NormalizedRules → Prop}
    (hrule : ∀ before entry rules rule, P before rules → Rule.ofJson entry = .ok rule →
      P (before ++ [entry]) (rules.addRule rule))
    (hwarn : ∀ before entry rules reason, P before rules →
      Rule.ofJson entry = .error (.malformedRule reason) →
      P (before ++ [entry]) (rules.warn (skipped before.length reason)))
    {before rest : List Json} {rules rules' : NormalizedRules} (h : P before rules)
    (hok : (addEntries rules before.length rest).outcome = .ok rules') :
    P (before ++ rest) rules' := by
  induction rest generalizing before rules with
  | nil =>
    cases hok
    rwa [List.append_nil]
  | cons entry rest ih =>
    have hnext : before.length + 1 = (before ++ [entry]).length := by
      rw [List.length_append, List.length_singleton]
    rw [List.append_cons]
    -- an entry is a rule, or is left out with a warning, or ends the run
    unfold addEntries at hok
    split at hok
    · rename_i rule hof
      exact ih (hrule before entry rules rule h hof) (hnext ▸ hok)
    · rename_i reason hof
      rw [Trace.outcome_bind, Trace.outcome_note, ok_bind] at hok
      exact ih (hwarn before entry rules reason h hof) (hnext ▸ hok)
    · cases hok

/-- What holds before the first entry, and is kept by each, holds of all entries of a list. -/
theorem holds_of_normalize_array {P : List Json → NormalizedRules → Prop}
    (hrule : ∀ before entry rules rule, P before rules → Rule.ofJson entry = .ok rule →
      P (before ++ [entry]) (rules.addRule rule))
    (hwarn : ∀ before entry rules reason, P before rules →
      Rule.ofJson entry = .error (.malformedRule reason) →
      P (before ++ [entry]) (rules.warn (skipped before.length reason)))
    (hempty : P [] {}) {items : List Json} {rules : NormalizedRules}
    (h : (normalize (.array items)).outcome = .ok rules) : P items rules := by
  simp only [normalize, Trace.outcome_bind, Trace.outcome_note, Trace.outcome_pure,
    bind_eq_ok_iff] at h
  obtain ⟨rules', hrules, -, -, hpure⟩ := h
  cases hpure
  exact holds_of_addEntries hrule hwarn hempty hrules

/-- What holds without rules, and is kept by the rules that are read and by warnings, holds of the
feed. -/
theorem holds_of_normalize {P : NormalizedRules → Prop} {Q : Rule → Prop}
    (hrule : ∀ rules rule, P rules → Q rule → P (rules.addRule rule))
    (hwarn : ∀ rules w, P rules → w.code = .malformedRule → P (rules.warn w))
    (hempty : P {}) {feed : Json}
    (hread : ∀ entry ∈ entries feed, ∀ rule, Rule.ofJson entry = .ok rule → Q rule)
    {rules : NormalizedRules} (h : (normalize feed).outcome = .ok rules) : P rules := by
  cases feed with
  | array items =>
    -- of the entries read so far only the rules among them count
    refine holds_of_normalize_array
      (P := fun before rules => (∀ entry ∈ before, ∀ rule, Rule.ofJson entry = .ok rule → Q rule) →
        P rules) ?_ ?_ (fun _ => hempty) h hread
    · intro before entry rules rule hbefore hof hall
      rw [List.forall_mem_append, List.forall_mem_singleton] at hall
      exact hrule rules rule (hbefore hall.1) (hall.2 rule hof)
    · intro before entry rules reason hbefore _ hall
      rw [List.forall_mem_append] at hall
      exact hwarn rules _ (hbefore hall.1) rfl
  | null =>
    cases h
    exact hempty
  | _ =>
    cases h
    exact hwarn {} _ hempty rfl

variable {feed : Json} {rules : NormalizedRules} (h : (normalize feed).outcome = .ok rules)

include h

/-- What holds of the rule in each entry holds of all rules. -/
theorem all_of_normalize {Q : Rule → Prop}
    (hread : ∀ entry ∈ entries feed, ∀ rule, Rule.ofJson entry = .ok rule → Q rule) :
    rules.All Q :=
  holds_of_normalize (fun _ _ h hrule => h.addRule hrule)
    (fun _ _ h _ => ⟨h.criteria, h.documentRules⟩) (all_empty Q) hread h

/-- The rules of every feed are sound. -/
theorem sound_of_normalize : rules.Sound :=
  holds_of_normalize (fun _ _ h hrule => h.addRule hrule) (fun _ _ h hw => h.warn hw) sound_empty
    (fun _ _ _ hrule => Rule.usable_of_ofJson hrule) h

/-- The indexes of every feed tell the first document types. -/
theorem tellsFirsts_of_normalize : rules.TellsFirsts :=
  holds_of_normalize (Q := fun _ => True) (fun _ rule h _ => h.addRule rule) (fun _ _ h _ => h)
    tellsFirsts_empty (fun _ _ _ _ => trivial) h

/-- The document rules of every feed are indexed. -/
theorem indexed_of_normalize : rules.Indexed := (tellsFirsts_of_normalize h).indexed

end RuleFeed

end BenefitForm
