import BenefitForm.Rule.Plan
import BenefitForm.Proofs.Firsts

/-!
# Groups of criteria

Criteria are placed into groups one after another. The groups that come out have a
description without the order of the steps (`ofCriteria_eq`): one group for each
key in order of first appearance, with all criteria of that key in feed order and
the proofs of the first one.
-/

namespace BenefitForm

/-- The key of the proof set of a criterion. -/
def Criterion.proofKey (c : Criterion) : Text := ProofSet.key c.allowedProofs

namespace ProofGroup

/-- The group of a criterion among others: those with its key, and its own proofs. -/
def among (criteria : List Criterion) (c : Criterion) : ProofGroup where
  key := c.proofKey
  criterionNames := (criteria.filter fun d => d.proofKey = c.proofKey).map (·.name)
  allowedProofs := ProofSet.distinct c.allowedProofs
  criteria := criteria.filter fun d => d.proofKey = c.proofKey

/-- The criteria of a group are those with its key. -/
theorem mem_criteria_among {criteria : List Criterion} {c d : Criterion} :
    d ∈ (among criteria c).criteria ↔ d ∈ criteria ∧ d.proofKey = c.proofKey := by
  rw [among, List.mem_filter, decide_eq_true_iff]

/-- A group that a criterion has founded, with its criteria. -/
def founded (c : Criterion) (ds : List Criterion) : ProofGroup where
  key := c.proofKey
  criterionNames := ds.map (·.name)
  allowedProofs := ProofSet.distinct c.allowedProofs
  criteria := ds

theorem among_eq_founded (criteria : List Criterion) (c : Criterion) :
    among criteria c = founded c (criteria.filter fun d => d.proofKey == c.proofKey) := by
  have hfilter : (criteria.filter fun d => d.proofKey = c.proofKey)
      = criteria.filter fun d => d.proofKey == c.proofKey :=
    List.filter_congr fun _ _ => (beq_eq_decide _ _).symm
  rw [among, hfilter, founded]

/-- One group for each key, in order of first appearance. -/
theorem ofCriteria_eq (criteria : List Criterion) :
    ofCriteria criteria = (firstsBy Criterion.proofKey criteria).map (among criteria) := by
  have hplace : place = fun groups c =>
      if groups.any fun g => g.key == c.proofKey then
        groups.map fun g => if g.key == c.proofKey then g.join c else g
      else groups ++ [founded c [c]] := by
    funext groups c
    simp only [beq_iff_eq]
    rfl
  have hjoin : ∀ c d ds, (founded d ds).join c = founded d (ds ++ [c]) := by
    intro c d ds
    rw [join, founded, founded, List.map_append]
    rfl
  rw [ofCriteria, hplace, funext (among_eq_founded criteria)]
  exact foldl_place_eq Criterion.proofKey founded (fun c g => g.key == c.proofKey)
    (fun c g => g.join c) (fun _ _ _ _ _ => rfl) hjoin

/-- The groups are those of criteria of the list. -/
theorem mem_ofCriteria {criteria : List Criterion} {g : ProofGroup} (h : g ∈ ofCriteria criteria) :
    ∃ c ∈ criteria, g = among criteria c := by
  rw [ofCriteria_eq] at h
  obtain ⟨c, hc, rfl⟩ := List.mem_map.mp h
  exact ⟨c, (firstsBy_sublist _ _).mem hc, rfl⟩

/-- Every criterion is in a group, which has the proofs of a criterion with its key. -/
theorem exists_mem_ofCriteria {criteria : List Criterion} {c : Criterion} (h : c ∈ criteria) :
    ∃ first ∈ criteria, first.proofKey = c.proofKey ∧
      among criteria first ∈ ofCriteria criteria ∧ c ∈ (among criteria first).criteria := by
  have hkey : c.proofKey ∈ (firstsBy Criterion.proofKey criteria).map Criterion.proofKey :=
    (mem_map_firstsBy Criterion.proofKey).mpr (List.mem_map_of_mem h)
  obtain ⟨first, hfirst, he⟩ := List.mem_map.mp hkey
  refine ⟨first, (firstsBy_sublist _ _).mem hfirst, he, ?_, ?_⟩
  · rw [ofCriteria_eq]
    exact List.mem_map_of_mem hfirst
  · exact mem_criteria_among.mpr ⟨h, he.symm⟩

end ProofGroup

end BenefitForm
