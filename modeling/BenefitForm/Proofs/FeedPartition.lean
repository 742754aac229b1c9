import BenefitForm.Proofs.FeedOrder
import BenefitForm.Proofs.Positions

/-!
# Every entry of a feed

A feed is split entry by entry: each is a criterion, a document rule, or nothing
but the cause of a warning, and which of these it is does not depend on the others.
So the positions of the feed fall into three lists, each of them in feed order
(`NormalizedRules.Splits`). Reading one more entry puts its position at the end of
one of them (`Splits.criterion`, `Splits.document`, `Splits.refused`), and this
carries over to the whole feed.

- `documentType?_eq`: the document type that backs a proof is that of the first
  optional rule that lists it, or else of the first mandatory one.
- `isBacked_iff`: a proof is backed iff it has such a type.
- `normalize_splits`: what normalizing a list gives.
-/

namespace BenefitForm

/-! ### What each entry gives -/

namespace NormalizedRules

/-- Whether the positions of a feed fall into those of the criteria, those of the document rules and
those that are warned about, and each entry for itself gives the criterion, the rule or the warning
of its position. -/
structure Splits (rules : NormalizedRules) (entries : List Json)
    (criterionAt documentAt warnedAt : List Nat) : Prop where
  /-- Every position is in one of the lists, once. -/
  once : (criterionAt ++ documentAt ++ warnedAt).Perm (List.range entries.length)
  /-- The criteria, in feed order. -/
  criteria : ReadAt (fun _ entry c => Rule.ofJson entry = .ok (.criterion c)) entries criterionAt
    rules.criteria
  /-- The document rules, in feed order. -/
  documentRules : ReadAt (fun _ entry d => Rule.ofJson entry = .ok (.document d)) entries documentAt
    rules.documentRules
  /-- The warnings, in feed order, each with the position and the reason for it. -/
  warnings : ReadAt (fun i entry w => ∃ reason, Rule.ofJson entry = .error (.malformedRule reason) ∧
    w = RuleFeed.skipped i reason) entries warnedAt rules.warnings

theorem splits_empty : ({} : NormalizedRules).Splits [] [] [] [] := ⟨.nil, .nil, .nil, .nil⟩

namespace Splits

variable {rules : NormalizedRules} {entries : List Json} {criterionAt documentAt warnedAt : List Nat}
  (h : rules.Splits entries criterionAt documentAt warnedAt) {entry : Json}

include h

/-- One more entry that is a criterion. -/
theorem criterion {c : Criterion} (hof : Rule.ofJson entry = .ok (.criterion c)) :
    (rules.addRule (.criterion c)).Splits (entries ++ [entry]) (criterionAt ++ [entries.length])
      documentAt warnedAt := by
  -- the new position comes after those of the criteria, and so into the midst of all
  refine ⟨?_, h.criteria.concat hof, h.documentRules.append entry, h.warnings.append entry⟩
  have honce := h.once
  rw [List.append_assoc] at honce
  rw [List.length_append, List.append_assoc, List.append_assoc]
  exact perm_range_succ honce

/-- One more entry that is a document rule. -/
theorem document {d : DocumentRule} (hof : Rule.ofJson entry = .ok (.document d)) :
    (rules.addRule (.document d)).Splits (entries ++ [entry]) criterionAt
      (documentAt ++ [entries.length]) warnedAt := by
  refine ⟨?_, ?_, ?_, ?_⟩
  · have honce := h.once
    rw [List.length_append, ← List.append_assoc, List.append_assoc _ [_]]
    exact perm_range_succ honce
  · rw [criteria_addRule]
    exact h.criteria.append entry
  · rw [documentRules_addRule]
    exact h.documentRules.concat hof
  · rw [warnings_addRule]
    exact h.warnings.append entry

/-- One more entry that is left out. -/
theorem refused {reason : Text} (hof : Rule.ofJson entry = .error (.malformedRule reason)) :
    (rules.warn (RuleFeed.skipped entries.length reason)).Splits (entries ++ [entry]) criterionAt
      documentAt (warnedAt ++ [entries.length]) := by
  refine ⟨?_, h.criteria.append entry, h.documentRules.append entry,
    h.warnings.concat ⟨reason, hof, rfl⟩⟩
  have honce := h.once
  rw [← List.append_nil (_ ++ warnedAt)] at honce
  rw [List.length_append, ← List.append_assoc]
  exact perm_range_succ honce

end Splits

/-! ### Which document type backs a proof -/

/-- Optional rules are asked first, whatever their place in the feed. -/
theorem documentType?_eq {rules : NormalizedRules} (h : rules.TellsFirsts) (proof : ProofType) :
    rules.documentType? proof
      = (rules.firstType? false proof).or (rules.firstType? true proof) := by
  have hoptional : Members.get? rules.optional proof = rules.firstType? false proof :=
    h false proof
  have hmandatory : Members.get? rules.mandatory proof = rules.firstType? true proof :=
    h true proof
  rw [documentType?, hoptional, hmandatory]
  cases rules.firstType? false proof <;> rfl

/-- A proof is backed iff there is a document type for it. -/
theorem isBacked_iff {rules : NormalizedRules} {proof : ProofType} :
    rules.isBacked proof = true ↔ rules.documentType? proof ≠ none := by
  have hkey : ∀ index : ProofIndex,
      Members.contains index proof = true ↔ Members.get? index proof ≠ none := by
    intro index
    rw [Members.contains_iff, ne_eq, Members.get?_eq_none_iff, not_not]
  rw [isBacked, Bool.or_eq_true, hkey, hkey, documentType?]
  cases Members.get? rules.optional proof <;> simp

end NormalizedRules

/-! ### Whole feeds -/

namespace RuleFeed

open NormalizedRules

/-- The positions of a feed that is normalized fall into criteria, document rules and warnings. -/
theorem splits_of_normalize {items : List Json} {rules : NormalizedRules}
    (h : (normalize (.array items)).outcome = .ok rules) :
    ∃ criterionAt documentAt warnedAt, rules.Splits items criterionAt documentAt warnedAt := by
  -- the invariant: what was read up to an entry falls into the three lists
  refine holds_of_normalize_array (P := fun before rules => ∃ criterionAt documentAt warnedAt,
    rules.Splits before criterionAt documentAt warnedAt) ?_ ?_ ⟨[], [], [], splits_empty⟩ h
  · rintro before entry rules rule ⟨criterionAt, documentAt, warnedAt, hbefore⟩ hof
    cases rule with
    | criterion c => exact ⟨_, _, _, hbefore.criterion hof⟩
    | document d => exact ⟨_, _, _, hbefore.document hof⟩
  · rintro before entry rules reason ⟨criterionAt, documentAt, warnedAt, hbefore⟩ hof
    exact ⟨_, _, _, hbefore.refused hof⟩

/-- A list of values that can be written is normalized. Each position of it is that of one
criterion, one document rule or one warning; all rules have a name and proofs; and the indexes tell
the document type of every proof: that of the first optional rule that lists it, or else of the
first mandatory one. -/
theorem normalize_splits {items : List Json} (h : ∀ item ∈ items, item.isWritable = true) :
    ∃ rules, (normalize (.array items)).outcome = .ok rules ∧
      (∃ criterionAt documentAt warnedAt, rules.Splits items criterionAt documentAt warnedAt) ∧
      rules.All Rule.Usable ∧
      ∀ proof,
        rules.documentType? proof
            = (rules.firstType? false proof).or (rules.firstType? true proof) ∧
          (rules.isBacked proof = true ↔ ∃ d ∈ rules.documentRules, proof ∈ d.allowedProofs) ∧
          (rules.isBacked proof = true ↔ rules.documentType? proof ≠ none) := by
  obtain ⟨rules, hrules⟩ := exists_rules (Json.isWritable_array.mpr h)
  have hsound := sound_of_normalize hrules
  have hfirsts := tellsFirsts_of_normalize hrules
  refine ⟨rules, hrules, splits_of_normalize hrules, ⟨hsound.criteria, hsound.documentRules⟩,
    fun proof => ⟨documentType?_eq hfirsts proof, ?_, isBacked_iff⟩⟩
  rw [isBacked_iff, Option.ne_none_iff_exists']
  exact exists_documentType?_iff hfirsts.indexed hfirsts.grounded

/-- A mandatory rule for `p`, a number, a criterion, and an optional rule for `q` and `p`. -/
def interleaved : List Json :=
  [documentEntry "t" ["p"] true, .int 7, Json.record [("name", Json.text "a"),
    ("allowedProofs", Json.ofTexts [Text.ofString "p"])], documentEntry "s" ["q", "p"] false]

/-- The number is warned about, and the optional rule backs `p` although it comes later. -/
theorem normalize_splits_of_interleaved :
    (∀ item ∈ interleaved, item.isWritable = true) ∧
      ∃ rules, (normalize (.array interleaved)).outcome = .ok rules ∧
        (∃ criterionAt documentAt warnedAt,
          rules.Splits interleaved criterionAt documentAt warnedAt) ∧
        rules.All Rule.Usable ∧ rules.warnings.length = 1 ∧
        rules.isBacked (Text.ofString "p") = true ∧
        rules.documentType? (Text.ofString "p") = some (Text.ofString "s") := by
  have hwritable : ∀ item ∈ interleaved, item.isWritable = true := by decide +kernel
  obtain ⟨rules, hrules, hsplits, hall, hproof⟩ := normalize_splits hwritable
  have hany : ((normalize (.array interleaved)).outcome.toOption.any fun rules =>
      rules.warnings.length = 1 ∧
        rules.documentType? (Text.ofString "p") = some (Text.ofString "s")) = true := by
    decide +kernel
  rw [hrules] at hany
  obtain ⟨hwarnings, htype⟩ := of_decide_eq_true hany
  obtain ⟨-, -, hbacked⟩ := hproof (Text.ofString "p")
  have hsome : rules.documentType? (Text.ofString "p") ≠ none := by
    rw [htype]
    exact Option.some_ne_none _
  exact ⟨hwritable, rules, hrules, hsplits, hall, hwarnings, hbacked.mpr hsome, htype⟩

end RuleFeed

end BenefitForm
