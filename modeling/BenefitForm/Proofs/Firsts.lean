import BenefitForm.Rule.ProofSet
import BenefitForm.Proofs.Outcome

/-!
# The first of each key

Everywhere in a compilation the first of several things with one name counts.
`firstsBy key xs` keeps, in order, the elements of a list whose key no earlier
element has.

- `firstsBy_append`: of a second list, what the first one has no key for remains.
- `mem_firstsBy_iff`: an element is kept iff a search for its key finds it.
- `foldl_place_eq`: groups that elements join one after another, by their keys.
- `flatMap_firstsBy_perm`: the elements with the keys of the firsts are all elements.
- `distinct_eq_firstsBy_of`: a list without repeats, by what tells its elements apart.
- `map_key_firstsBy`: the keys that are kept are the keys without later repeats.
-/

namespace BenefitForm

variable {α κ : Type} [BEq κ]

/-- The elements whose key no earlier element has, in order. -/
def firstsBy (key : α → κ) : List α → List α
  | [] => []
  | x :: xs => x :: (firstsBy key xs).filter fun y => key y != key x

@[simp] theorem firstsBy_nil (key : α → κ) : firstsBy key [] = [] := rfl

theorem firstsBy_cons (key : α → κ) (x : α) (xs : List α) :
    firstsBy key (x :: xs) = x :: (firstsBy key xs).filter fun y => key y != key x := rfl

variable [LawfulBEq κ]

section

variable (key : α → κ)

/-- What a list adds to the keys that are taken, element by element. -/
theorem filter_firstsBy_cons (taken : List κ) (x : α) (xs : List α) :
    ((firstsBy key (x :: xs)).filter fun y => key y ∉ taken)
      = if key x ∈ taken then (firstsBy key xs).filter fun y => key y ∉ taken
        else x :: (firstsBy key xs).filter fun y => key y ∉ taken ++ [key x] := by
  rw [firstsBy_cons]
  by_cases h : key x ∈ taken
  · rw [if_pos h, List.filter_cons_of_neg (by simpa using h), List.filter_filter]
    refine List.filter_congr fun y _ => ?_
    by_cases hy : key y = key x
    · simp [hy, h]
    · simp [hy]
  · rw [if_neg h, List.filter_cons_of_pos (by simpa using h), List.filter_filter]
    refine congrArg (x :: ·) (List.filter_congr fun y _ => ?_)
    by_cases hy : key y = key x
    · simp [hy]
    · simp [hy]

/-- Of a second list remain the firsts whose keys the first list lacks. -/
theorem firstsBy_append (xs ys : List α) :
    firstsBy key (xs ++ ys)
      = firstsBy key xs ++ (firstsBy key ys).filter fun y => key y ∉ xs.map key := by
  induction xs with
  | nil => simp
  | cons x xs ih =>
    rw [List.cons_append, firstsBy_cons, firstsBy_cons, ih, List.filter_append, List.filter_filter,
      List.cons_append]
    congr 2
    refine List.filter_congr fun y _ => ?_
    by_cases hx : key y = key x
    · simp [hx]
    · have hne : (key y != key x) = true := bne_iff_ne.mpr hx
      simp [hx, hne]

/-- One more element is kept iff its key is new. -/
theorem firstsBy_concat (xs : List α) (x : α) :
    firstsBy key (xs ++ [x])
      = if key x ∈ xs.map key then firstsBy key xs else firstsBy key xs ++ [x] := by
  rw [firstsBy_append]
  by_cases h : key x ∈ xs.map key
  · rw [if_pos h]
    simpa [firstsBy_cons] using h
  · rw [if_neg h]
    simpa [firstsBy_cons] using h

omit [LawfulBEq κ] in
theorem firstsBy_sublist (xs : List α) : (firstsBy key xs).Sublist xs := by
  induction xs with
  | nil => exact .slnil
  | cons x xs ih => exact (List.filter_sublist.trans ih).cons_cons x

/-- The keys that are kept differ. -/
theorem nodup_map_firstsBy (xs : List α) : ((firstsBy key xs).map key).Nodup := by
  induction xs with
  | nil => exact .nil
  | cons x xs ih =>
    rw [firstsBy_cons, List.map_cons, List.nodup_cons]
    constructor
    · simp
    · exact (List.filter_sublist.map key).nodup ih

/-- An element is kept iff it is the first of its key. -/
theorem mem_firstsBy_iff {xs : List α} {x : α} :
    x ∈ firstsBy key xs ↔ (xs.find? fun y => key y == key x) = some x := by
  induction xs with
  | nil => simp
  | cons y ys ih =>
    rw [firstsBy_cons, List.mem_cons, List.mem_filter, List.find?_cons]
    by_cases hx : key y = key x
    · rw [beq_iff_eq.mpr hx]
      constructor
      · rintro (rfl | ⟨-, hne⟩)
        · rfl
        · exact absurd hx.symm (bne_iff_ne.mp hne)
      · intro h
        exact .inl (Option.some.inj h).symm
    · rw [beq_eq_false_iff_ne.mpr hx]
      constructor
      · rintro (rfl | ⟨hmem, -⟩)
        · exact absurd rfl hx
        · exact ih.mp hmem
      · intro h
        exact .inr ⟨ih.mpr h, bne_iff_ne.mpr fun he => hx he.symm⟩

/-- In a list that is in order an element comes before the others of its key, if it is kept. -/
theorem eq_or_rel_of_mem_firstsBy {R : α → α → Prop} {xs : List α} (h : xs.Pairwise R) {x y : α}
    (hx : x ∈ firstsBy key xs) (hy : y ∈ xs) (hkey : key y = key x) : x = y ∨ R x y := by
  induction xs with
  | nil => cases hy
  | cons z zs ih =>
    obtain ⟨hz, hzs⟩ := List.pairwise_cons.mp h
    rw [firstsBy_cons, List.mem_cons, List.mem_filter, bne_iff_ne] at hx
    rcases hx with rfl | ⟨hx, hne⟩
    · rcases List.mem_cons.mp hy with rfl | hy
      · exact .inl rfl
      · exact .inr (hz y hy)
    · rcases List.mem_cons.mp hy with rfl | hy
      · exact absurd hkey.symm hne
      · exact ih hzs hx hy

/-- No key is lost. -/
theorem mem_map_firstsBy {xs : List α} {k : κ} :
    k ∈ (firstsBy key xs).map key ↔ k ∈ xs.map key := by
  constructor
  · intro h
    exact ((firstsBy_sublist key xs).map key).mem h
  · intro h
    -- the element that a search for the key finds is kept
    obtain ⟨y, hy, rfl⟩ := List.mem_map.mp h
    have hfound : (xs.find? fun z => key z == key y).isSome = true :=
      List.find?_isSome.mpr ⟨y, hy, beq_self_eq_true _⟩
    obtain ⟨z, hz⟩ := Option.isSome_iff_exists.mp hfound
    have hkey : key z = key y := beq_iff_eq.mp (List.find?_some (p := fun z => key z == key y) hz)
    rw [← hkey] at hz ⊢
    exact List.mem_map_of_mem ((mem_firstsBy_iff key).mpr hz)

omit [LawfulBEq κ] in
/-- The keys of the firsts are the firsts of the keys. -/
theorem firstsBy_map {β : Type} (f : β → α) (xs : List β) :
    (firstsBy (fun x => key (f x)) xs).map f = firstsBy key (xs.map f) := by
  induction xs with
  | nil => rfl
  | cons x xs ih =>
    rw [firstsBy_cons, List.map_cons, List.map_cons, firstsBy_cons, ← ih, List.filter_map]
    rfl

omit [LawfulBEq κ] in
/-- The firsts of lists that are related, by related keys, are related. -/
theorem forall₂_firstsBy {β : Type} {R : α → β → Prop} {key : α → κ} {key' : β → κ}
    (hkey : ∀ a b, R a b → key a = key' b) {xs : List α} {ys : List β}
    (h : List.Forall₂ R xs ys) : List.Forall₂ R (firstsBy key xs) (firstsBy key' ys) := by
  induction h with
  | nil => exact .nil
  | cons hfirst _ ih =>
    refine .cons hfirst (forall₂_filter (fun a b hab => ?_) ih)
    rw [hkey a b hab, hkey _ _ hfirst]

/-- Elements join the groups of their keys one after another, or found one at the end. What comes
out is one group for each key, in order of first appearance, made of the first element of the key
and of all elements with it. -/
theorem foldl_place_eq {γ : Type} (make : α → List α → γ) (hits : α → γ → Bool) (join : α → γ → γ)
    {xs : List α} (hhits : ∀ x ∈ xs, ∀ y ∈ xs, ∀ ys, hits x (make y ys) = (key y == key x))
    (hjoin : ∀ x y ys, join x (make y ys) = make y (ys ++ [x])) :
    xs.foldl (fun groups x =>
      if groups.any (hits x) then groups.map fun g => if hits x g then join x g else g
      else groups ++ [make x [x]]) []
      = (firstsBy key xs).map fun y => make y (xs.filter fun z => key z == key y) := by
  induction xs using List.reverseRecOn with
  | nil => rfl
  | append_singleton xs x ih =>
    have hfirst : ∀ {y : α}, y ∈ firstsBy key xs → y ∈ xs := (firstsBy_sublist key xs).mem
    have hx : ∀ y ∈ xs, ∀ ys, hits x (make y ys) = (key y == key x) := fun y hy =>
      hhits x (List.mem_append_right _ List.mem_cons_self) y (List.mem_append_left _ hy)
    -- the new element is in the group of its own key and in no other
    have hsame : ∀ y, key y = key x → ((xs ++ [x]).filter fun z => key z == key y)
        = (xs.filter fun z => key z == key y) ++ [x] := fun y hy => by simp [hy]
    have hother : ∀ y, key y ≠ key x → ((xs ++ [x]).filter fun z => key z == key y)
        = xs.filter fun z => key z == key y := fun y hy => by simp [Ne.symm hy]
    have hany : ((firstsBy key xs).map fun y => make y (xs.filter fun z => key z == key y)).any
        (hits x) = true ↔ key x ∈ xs.map key := by
      rw [List.any_map, List.any_eq_true, ← mem_map_firstsBy key, List.mem_map]
      refine exists_congr fun y => and_congr_right fun hy => ?_
      rw [Function.comp_apply, hx y (hfirst hy), beq_iff_eq]
    rw [List.foldl_append, List.foldl_cons, List.foldl_nil, ih fun y hy z hz =>
      hhits y (List.mem_append_left _ hy) z (List.mem_append_left _ hz), firstsBy_concat]
    by_cases h : key x ∈ xs.map key
    · rw [if_pos (hany.mpr h), if_pos h, List.map_map]
      refine List.map_congr_left fun y hy => ?_
      rw [Function.comp_apply, hx y (hfirst hy)]
      by_cases hkey : key y = key x
      · rw [if_pos (beq_iff_eq.mpr hkey), hjoin, hsame y hkey]
      · rw [if_neg fun he => hkey (beq_iff_eq.mp he), hother y hkey]
    · have hnone : (xs.filter fun z => key z == key x) = [] := by
        rw [List.filter_eq_nil_iff]
        exact fun z hz he => h (List.mem_map.mpr ⟨z, hz, beq_iff_eq.mp he⟩)
      rw [if_neg fun hc => h (hany.mp hc), if_neg h, List.map_append, List.map_singleton,
        hsame x rfl, hnone, List.nil_append]
      refine congrArg (· ++ _) (List.map_congr_left fun y hy => ?_)
      rw [hother y fun he => h (he ▸ List.mem_map_of_mem (hfirst hy))]

end

/-! ### Elements taken apart by their keys -/

section

variable {key : α → κ}

/-- Where the keys differ and none is missing, the elements of each key make up the list. -/
theorem flatMap_filter_perm {ks : List κ} (hn : ks.Nodup) {xs : List α}
    (h : ∀ x ∈ xs, key x ∈ ks) : (ks.flatMap fun k => xs.filter fun x => key x == k).Perm xs := by
  induction ks generalizing xs with
  | nil =>
    have hnone : xs = [] :=
      List.eq_nil_iff_forall_not_mem.mpr fun x hx => List.not_mem_nil (h x hx)
    rw [hnone]
    exact .nil
  | cons k ks ih =>
    obtain ⟨hk, hn⟩ := List.nodup_cons.mp hn
    -- the other keys have their elements among those whose key is not `k`
    have hothers : (ks.flatMap fun l => xs.filter fun x => key x == l)
        = ks.flatMap fun l => (xs.filter fun x => !(key x == k)).filter fun x => key x == l := by
      refine List.flatMap_congr fun l hl => ?_
      rw [List.filter_filter]
      refine List.filter_congr fun x _ => ?_
      by_cases hx : key x = l
      · have hne : (key x == k) = false :=
          beq_eq_false_iff_ne.mpr fun he => hk (he ▸ hx ▸ hl)
        rw [hne, Bool.not_false, Bool.and_true]
      · rw [beq_eq_false_iff_ne.mpr hx, Bool.false_and]
    have hrest : (ks.flatMap fun l =>
        (xs.filter fun x => !(key x == k)).filter fun x => key x == l).Perm
          (xs.filter fun x => !(key x == k)) := by
      refine ih hn fun x hx => ?_
      obtain ⟨hmem, hne⟩ := List.mem_filter.mp hx
      exact (List.mem_cons.mp (h x hmem)).resolve_left fun he => by simp [he] at hne
    rw [List.flatMap_cons, hothers]
    exact (hrest.append_left _).trans (List.filter_append_perm _ xs)

variable (key) in
/-- One first at most has a certain key. -/
theorem filter_firstsBy_eq (k : κ) (xs : List α) :
    ((firstsBy key xs).filter fun x => key x == k) = (xs.find? fun x => key x == k).toList := by
  induction xs with
  | nil => rfl
  | cons x xs ih =>
    rw [firstsBy_cons, List.find?_cons]
    by_cases hx : key x = k
    · -- the others have another key
      have hnone : (((firstsBy key xs).filter fun y => key y != key x).filter fun y => key y == k)
          = [] := by
        rw [List.filter_filter, List.filter_eq_nil_iff]
        intro y _
        simp [hx]
      rw [List.filter_cons_of_pos (by simpa using hx), hnone, beq_iff_eq.mpr hx]
      rfl
    · have hall : (((firstsBy key xs).filter fun y => key y != key x).filter fun y => key y == k)
          = (firstsBy key xs).filter fun y => key y == k := by
        rw [List.filter_filter]
        refine List.filter_congr fun y _ => ?_
        by_cases hy : key y = k
        · simp [hy, Ne.symm hx]
        · simp [hy]
      rw [List.filter_cons_of_neg (by simpa using hx), hall, ih, beq_eq_false_iff_ne.mpr hx]

variable (key) in
/-- The first of a key gives all elements with the key. -/
theorem flatMap_filter_firstsBy (k : κ) (xs : List α) :
    (((firstsBy key xs).filter fun x => key x == k).flatMap fun x =>
      xs.filter fun y => key y == key x) = xs.filter fun y => key y == k := by
  rw [filter_firstsBy_eq]
  cases hfound : xs.find? fun x => key x == k with
  | none =>
    rw [eq_comm, Option.toList_none, List.flatMap_nil, List.filter_eq_nil_iff]
    exact List.find?_eq_none.mp hfound
  | some x =>
    have hx : key x = k := beq_iff_eq.mp (List.find?_some (p := fun x => key x == k) hfound)
    rw [Option.toList_some, List.flatMap_singleton, hx]

variable (key) in
/-- The elements with the key of each of the firsts make up the list. -/
theorem flatMap_firstsBy_perm (xs : List α) :
    ((firstsBy key xs).flatMap fun x => xs.filter fun y => key y == key x).Perm xs := by
  have hcover : ∀ x ∈ xs, key x ∈ (firstsBy key xs).map key := fun x hx =>
    (mem_map_firstsBy key).mpr (List.mem_map_of_mem hx)
  have h := flatMap_filter_perm (nodup_map_firstsBy key xs) hcover
  rwa [List.flatMap_map] at h

end

/-! ### Lists without repeats -/

/-- `ProofSet.distinct` keeps the firsts, by each key that tells elements apart as their equality
does. -/
theorem distinct_eq_firstsBy_of (key : α → κ) [BEq α] {xs : List α}
    (h : ∀ x ∈ xs, ∀ y ∈ xs, (x == y) = (key x == key y)) :
    ProofSet.distinct xs = firstsBy key xs := by
  induction xs using List.reverseRecOn with
  | nil => rfl
  | append_singleton xs x ih =>
    have hstep : ProofSet.distinct (xs ++ [x]) = if (ProofSet.distinct xs).contains x
        then ProofSet.distinct xs else ProofSet.distinct xs ++ [x] := by
      rw [ProofSet.distinct, List.foldl_append, List.foldl_cons, List.foldl_nil]
      rfl
    have hseen : (firstsBy key xs).contains x = true ↔ key x ∈ xs.map key := by
      rw [List.contains_eq_any_beq, List.any_eq_true, ← mem_map_firstsBy key, List.mem_map]
      refine exists_congr fun y => and_congr_right fun hy => ?_
      have hmem : y ∈ xs := (firstsBy_sublist key xs).mem hy
      rw [h x (List.mem_append_right _ List.mem_cons_self) y (List.mem_append_left _ hmem),
        beq_iff_eq, eq_comm]
    rw [hstep, firstsBy_concat, ih fun y hy z hz =>
      h y (List.mem_append_left _ hy) z (List.mem_append_left _ hz)]
    by_cases hx : key x ∈ xs.map key
    · rw [if_pos hx, if_pos (hseen.mpr hx)]
    · rw [if_neg hx, if_neg (mt hseen.mp hx)]

theorem distinct_eq_firstsBy (ks : List κ) : ProofSet.distinct ks = firstsBy id ks :=
  distinct_eq_firstsBy_of id fun _ _ _ _ => rfl

/-- The keys that are kept are the keys without later repeats. -/
theorem map_key_firstsBy (key : α → κ) (xs : List α) :
    (firstsBy key xs).map key = ProofSet.distinct (xs.map key) := by
  rw [distinct_eq_firstsBy]
  exact firstsBy_map id key xs

@[simp] theorem mem_distinct {ks : List κ} {k : κ} : k ∈ ProofSet.distinct ks ↔ k ∈ ks := by
  have hmem : k ∈ (firstsBy id ks).map id ↔ k ∈ ks.map id := mem_map_firstsBy id
  rwa [List.map_id, List.map_id, ← distinct_eq_firstsBy] at hmem

end BenefitForm
