import BenefitForm.Proofs.Positions
import BenefitForm.Proofs.ProofOrder

/-!
# Criteria are grouped by their proof sets

The key of a list of proofs tells the set of its proofs and nothing else
(`ProofSet.key_eq_iff`): sorted lists without repeats stand for sets, and no two of
them are written alike. So the groups of a list of criteria are the classes of those
that accept the same proofs. Equal criteria may occur in a list more than once, and
each occurrence is to be in its group, so a group is described by its positions in
the list (`ProofGroup.Gathers`).

- `placesOf`: the positions of each group.
- `flatten_placesOf_perm`: every position is one of one group.
- `pairwise_placesOf`: the groups are in the order of their first positions.
- `ofCriteria_gathers`: the groups of every list of criteria.
-/

namespace BenefitForm

namespace ProofSet

/-- Lists of proofs have one key iff they list the same proofs. -/
theorem key_eq_iff {ps qs : List ProofType} (hp : ∀ p ∈ ps, p.Unpaired)
    (hq : ∀ q ∈ qs, q.Unpaired) : key ps = key qs ↔ ps.toFinset = qs.toFinset := by
  constructor
  · intro h
    ext proof
    rw [List.mem_toFinset, List.mem_toFinset]
    exact mem_iff_of_key_eq hp hq h proof
  · exact key_eq_of_toFinset_eq

end ProofSet

/-- Criteria have one key iff they accept the same proofs. -/
theorem Criterion.proofKey_eq_iff {criteria : List Criterion} (h : Unpaired criteria)
    {c d : Criterion} (hc : c ∈ criteria) (hd : d ∈ criteria) :
    c.proofKey = d.proofKey ↔ c.proofSet = d.proofSet :=
  ProofSet.key_eq_iff (h c hc) (h d hd)

namespace ProofGroup

/-- Whether groups are made of the criteria at certain positions of a list, with one list of
positions for each group. -/
structure Gathers (groups : List ProofGroup) (criteria : List Criterion)
    (places : List (List Nat)) : Prop where
  /-- Every position is in one group, once. -/
  once : places.flatten.Perm (List.range criteria.length)
  /-- A group has the criteria at its positions, in feed order. -/
  members : List.Forall₂ (fun is g => ReadAt (fun _ c d => c = d) criteria is g.criteria) places
    groups
  /-- A group has a position before all positions of each later group. -/
  appearance : places.Pairwise fun is js => ∃ i ∈ is, ∀ j ∈ js, i < j
  /-- Two criteria are in one group iff they accept the same proofs. -/
  together : ∀ is ∈ places, ∀ i ∈ is, ∀ c, criteria[i]? = some c →
    ∀ (j : Nat) (d : Criterion), criteria[j]? = some d → (j ∈ is ↔ d.proofSet = c.proofSet)
  /-- The names of a group are those of its criteria. -/
  names : ∀ g ∈ groups, g.criterionNames = g.criteria.map (·.name)
  /-- The proofs of a group are those of its first criterion, once each. -/
  proofs : ∀ g ∈ groups, ∃ first rest, g.criteria = first :: rest ∧
    g.allowedProofs = ProofSet.distinct first.allowedProofs
  /-- The key of a group is that of each of its criteria. -/
  key : ∀ g ∈ groups, ∀ c ∈ g.criteria, g.key = c.proofKey

/-! ### Positions of the groups -/

/-- The criteria whose keys no earlier criterion has, with their positions. -/
def founders (criteria : List Criterion) : List (Criterion × Nat) :=
  firstsBy (fun e => e.1.proofKey) criteria.zipIdx

/-- The positions of the criteria with a key. -/
def placesWith (criteria : List Criterion) (key : Text) : List Nat :=
  (criteria.zipIdx.filter fun e => e.1.proofKey == key).map (·.2)

/-- The positions of each group. -/
def placesOf (criteria : List Criterion) : List (List Nat) :=
  (founders criteria).map fun e => placesWith criteria e.1.proofKey

theorem mem_placesWith {criteria : List Criterion} {key : Text} {i : Nat} :
    i ∈ placesWith criteria key ↔ ∃ c, criteria[i]? = some c ∧ c.proofKey = key := by
  rw [placesWith, List.mem_map]
  constructor
  · rintro ⟨⟨c, j⟩, he, rfl⟩
    obtain ⟨hmem, hkey⟩ := List.mem_filter.mp he
    exact ⟨c, List.mem_zipIdx_iff_getElem?.mp hmem, beq_iff_eq.mp hkey⟩
  · rintro ⟨c, hc, hkey⟩
    exact ⟨(c, i), List.mem_filter.mpr ⟨List.mem_zipIdx_iff_getElem?.mpr hc, beq_iff_eq.mpr hkey⟩,
      rfl⟩

/-- The groups are those of the founders. -/
theorem ofCriteria_eq_founders (criteria : List Criterion) :
    ofCriteria criteria = (founders criteria).map fun e => among criteria e.1 := by
  have hfirsts : firstsBy Criterion.proofKey criteria = (founders criteria).map (·.1) := by
    rw [founders, firstsBy_map Criterion.proofKey, List.zipIdx_map_fst]
  rw [ofCriteria_eq, hfirsts, List.map_map]
  rfl

/-- Every position is one of one group. -/
theorem flatten_placesOf_perm (criteria : List Criterion) :
    (placesOf criteria).flatten.Perm (List.range criteria.length) := by
  have hclasses : ((founders criteria).flatMap fun e =>
      criteria.zipIdx.filter fun f => f.1.proofKey == e.1.proofKey).Perm criteria.zipIdx :=
    flatMap_firstsBy_perm (fun e => e.1.proofKey) criteria.zipIdx
  have hplaces := hclasses.map Prod.snd
  rwa [List.map_flatMap, List.zipIdx_map_snd, ← List.range_eq_range'] at hplaces

/-- A group has the position of its founder, which comes before all positions of later groups. -/
theorem pairwise_placesOf (criteria : List Criterion) :
    (placesOf criteria).Pairwise fun is js => ∃ i ∈ is, ∀ j ∈ js, i < j := by
  have hlist : criteria.zipIdx.Pairwise fun e f => e.2 < f.2 := by
    rw [← List.pairwise_map, List.zipIdx_map_snd]
    exact List.pairwise_lt_range'
  have hsublist : (founders criteria).Sublist criteria.zipIdx := firstsBy_sublist _ _
  rw [placesOf, List.pairwise_map]
  refine (hlist.sublist hsublist).imp_of_mem fun {e f} he hf hlt => ?_
  refine ⟨e.2, mem_placesWith.mpr
    ⟨e.1, List.mem_zipIdx_iff_getElem?.mp (hsublist.mem he), rfl⟩, fun j hj => ?_⟩
  -- no criterion with the key of `f` stands before it
  obtain ⟨d, hd, hkey⟩ := mem_placesWith.mp hj
  have hmem : (d, j) ∈ criteria.zipIdx := List.mem_zipIdx_iff_getElem?.mpr hd
  rcases eq_or_rel_of_mem_firstsBy (fun e : Criterion × Nat => e.1.proofKey) hlist hf hmem hkey with
    rfl | hbefore
  · exact hlt
  · exact hlt.trans hbefore

theorem criteria_among (criteria : List Criterion) (c : Criterion) :
    (among criteria c).criteria = criteria.filter fun d => d.proofKey == c.proofKey := by
  rw [among_eq_founded, founded]

/-- The criteria with the key of another one stand at the positions of its group. -/
theorem readAt_placesWith (criteria : List Criterion) (c : Criterion) :
    ReadAt (fun _ d e => d = e) criteria (placesWith criteria c.proofKey)
      (among criteria c).criteria := by
  rw [criteria_among]
  exact ReadAt.filter criteria fun d => d.proofKey == c.proofKey

/-! ### The groups of a list -/

/-- The first criterion of a group is the one that founds it. -/
theorem exists_criteria_eq_cons {criteria : List Criterion} {c : Criterion}
    (hc : c ∈ firstsBy Criterion.proofKey criteria) :
    ∃ rest, (among criteria c).criteria = c :: rest := by
  rw [criteria_among]
  have hfirst : (criteria.find? fun d => d.proofKey == c.proofKey) = some c :=
    (mem_firstsBy_iff Criterion.proofKey).mp hc
  rw [← List.head?_filter] at hfirst
  exact List.head?_eq_some_iff.mp hfirst

/-- The groups of criteria none of whose proofs has a surrogate pair are the classes of those that
accept the same proofs. -/
theorem gathers_placesOf {criteria : List Criterion} (h : Criterion.Unpaired criteria) :
    Gathers (ofCriteria criteria) criteria (placesOf criteria) := by
  constructor
  case once => exact flatten_placesOf_perm criteria
  case members =>
    rw [ofCriteria_eq_founders, placesOf, List.forall₂_map_left_iff, List.forall₂_map_right_iff,
      List.forall₂_same]
    exact fun e _ => readAt_placesWith criteria e.1
  case appearance => exact pairwise_placesOf criteria
  case together =>
    intro is his i hi c hc j d hd
    obtain ⟨e, -, rfl⟩ := List.mem_map.mp his
    obtain ⟨c', hc', hkey⟩ := mem_placesWith.mp hi
    obtain rfl : c' = c := Option.some.inj (hc'.symm.trans hc)
    -- criteria without pairs have one key iff they accept the same proofs
    rw [← Criterion.proofKey_eq_iff h (List.mem_of_getElem? hd) (List.mem_of_getElem? hc), hkey,
      mem_placesWith]
    constructor
    · rintro ⟨d', hd', hkey'⟩
      rwa [Option.some.inj (hd.symm.trans hd')]
    · intro hkey'
      exact ⟨d, hd, hkey'⟩
  case names =>
    intro g hg
    obtain ⟨c, -, rfl⟩ := mem_ofCriteria hg
    rfl
  case proofs =>
    intro g hg
    rw [ofCriteria_eq] at hg
    obtain ⟨c, hc, rfl⟩ := List.mem_map.mp hg
    obtain ⟨rest, hcriteria⟩ := exists_criteria_eq_cons hc
    exact ⟨c, rest, hcriteria, rfl⟩
  case key =>
    intro g hg d hd
    obtain ⟨c, -, rfl⟩ := mem_ofCriteria hg
    exact (mem_criteria_among.mp hd).2.symm

/-- The criteria of a list fall into groups, one for each set of proofs; and keys are equal iff the
sets of proofs are. -/
theorem ofCriteria_gathers {criteria : List Criterion} (h : Criterion.Unpaired criteria) :
    (∃ places, Gathers (ofCriteria criteria) criteria places) ∧
      ∀ ps qs : List ProofType, (∀ p ∈ ps, p.Unpaired) → (∀ q ∈ qs, q.Unpaired) →
        (ProofSet.key ps = ProofSet.key qs ↔ ps.toFinset = qs.toFinset) :=
  ⟨⟨placesOf criteria, gathers_placesOf h⟩, fun _ _ hp hq => ProofSet.key_eq_iff hp hq⟩

/-- A proof that holds quotes and a comma, two proofs that are written much like it, these two in
another order and with a repeat, and the first criterion once more. -/
def requoted : List Criterion :=
  let p := Text.ofString "p"
  let q := Text.ofString "q"
  let quoted := Text.ofString "p\", \"q"
  [⟨Text.ofString "a", [quoted], none⟩, ⟨Text.ofString "b", [p, q], some true⟩,
    ⟨Text.ofString "c", [q, p, q], none⟩, ⟨Text.ofString "a", [quoted], none⟩]

/-- The keys tell the quoted proof from the two, and not the two from their repeats. -/
theorem ofCriteria_gathers_of_requoted :
    Criterion.Unpaired requoted ∧
      (∃ places, Gathers (ofCriteria requoted) requoted places) ∧
      requoted.map (fun c => requoted.map fun d => decide (c.proofKey = d.proofKey))
        = [[true, false, false, true], [false, true, true, false], [false, true, true, false],
          [true, false, false, true]] := by
  have h : Criterion.Unpaired requoted := by
    have hall : ∀ c ∈ requoted, ∀ proof ∈ c.allowedProofs, proof.Unpaired := by decide +kernel
    exact hall
  obtain ⟨hgathers, hkey⟩ := ofCriteria_gathers h
  have hsets : ∀ c ∈ requoted, ∀ d ∈ requoted,
      decide (c.proofKey = d.proofKey) = decide (c.proofSet = d.proofSet) := fun c hc d hd =>
    decide_eq_decide.mpr (hkey _ _ (h c hc) (h d hd))
  refine ⟨h, hgathers, ?_⟩
  rw [List.map_congr_left fun c hc => List.map_congr_left fun d hd => hsets c hc d hd]
  decide +kernel

end ProofGroup

end BenefitForm
