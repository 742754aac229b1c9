import BenefitForm.Key
import BenefitForm.Proofs.Outcome

/-!
# Members of an object

`Members.get?` finds the first member of a key. What stands before or after it,
and members of other keys that are taken out, make no difference to it. Where the
keys differ, every member is found under its key.
-/

namespace BenefitForm

namespace Members

variable {κ α : Type} [BEq κ]

@[simp] theorem get?_nil (k : κ) : get? ([] : List (κ × α)) k = none := rfl

theorem get?_cons (m : κ × α) (ms : List (κ × α)) (k : κ) :
    get? (m :: ms) k = if k == m.1 then some m.2 else get? ms k := by
  unfold get?
  rw [List.lookup_cons]
  cases k == m.1 <;> rfl

/-- The members in front count first. -/
theorem get?_append (ms ns : List (κ × α)) (k : κ) :
    get? (ms ++ ns) k = (get? ms k).or (get? ns k) := by
  induction ms with
  | nil => rfl
  | cons m ms ih =>
    rw [List.cons_append, get?_cons, get?_cons, ih]
    cases k == m.1 <;> rfl

variable [LawfulBEq κ]

/-- What is found is a member. -/
theorem mem_of_get? {ms : List (κ × α)} {k : κ} {v : α} (h : get? ms k = some v) :
    (k, v) ∈ ms := by
  induction ms with
  | nil => cases h
  | cons m ms ih =>
    rw [get?_cons] at h
    by_cases hk : k = m.1
    · rw [if_pos (beq_iff_eq.mpr hk)] at h
      cases h
      rw [hk]
      exact List.mem_cons_self
    · rw [if_neg (by simpa using hk)] at h
      exact List.mem_cons_of_mem m (ih h)

/-- Nothing is found iff no member has the key. -/
theorem get?_eq_none_iff {ms : List (κ × α)} {k : κ} : get? ms k = none ↔ k ∉ keys ms := by
  induction ms with
  | nil => simp [keys]
  | cons m ms ih =>
    rw [get?_cons]
    by_cases hk : k = m.1
    · rw [if_pos (beq_iff_eq.mpr hk)]
      simp [keys, hk]
    · rw [if_neg (by simpa using hk), ih]
      simp [keys, hk]

/-- Where the keys differ, every member is found. -/
theorem get?_of_mem {ms : List (κ × α)} (hn : (keys ms).Nodup) {k : κ} {v : α}
    (h : (k, v) ∈ ms) : get? ms k = some v := by
  induction ms with
  | nil => cases h
  | cons m ms ih =>
    rw [keys, List.map_cons, List.nodup_cons] at hn
    rw [get?_cons]
    rcases List.mem_cons.mp h with rfl | hm
    · rw [if_pos (beq_self_eq_true _)]
    · have hk : k ≠ m.1 := fun e => hn.1 (e ▸ List.mem_map_of_mem (f := Prod.fst) hm)
      rw [if_neg (by simpa using hk)]
      exact ih hn.2 hm

/-- A key is present iff it is one of the keys. -/
theorem contains_iff {ms : List (κ × α)} {k : κ} : contains ms k = true ↔ k ∈ keys ms := by
  simp only [contains, keys, List.any_eq_true, List.mem_map, beq_iff_eq]

/-- Taking out the members of a key leaves the others where they are. -/
theorem get?_erase_of_ne {ms : List (κ × α)} {k l : κ} (h : k ≠ l) :
    get? (erase ms l) k = get? ms k := by
  induction ms with
  | nil => rfl
  | cons m ms ih =>
    rw [erase, List.filter_cons]
    by_cases hm : m.1 = l
    · have hk : k ≠ m.1 := fun e => h (e.trans hm)
      rw [if_neg (by simpa using hm), get?_cons, if_neg (by simpa using hk)]
      exact ih
    · rw [if_pos (by simpa using hm), get?_cons, get?_cons]
      exact congrArg (fun r => if k == m.1 then some m.2 else r) ih

/-- What is taken out is not a key any more. -/
theorem not_mem_keys_erase (ms : List (κ × α)) (k : κ) : k ∉ keys (erase ms k) := by
  simp [keys, erase]

omit [LawfulBEq κ] in
theorem set_ne_nil (ms : List (κ × α)) (k : κ) (v : α) : set ms k v ≠ [] := by
  rw [set]
  cases ms with
  | nil => simp [contains]
  | cons m ms => split <;> simp

omit [LawfulBEq κ] in
/-- The entry that is written last leaves a member. -/
theorem ofList_ne_nil {es : List (κ × α)} (h : es ≠ []) : ofList es ≠ [] := by
  rcases List.eq_nil_or_concat es with rfl | ⟨before, e, rfl⟩
  · exact absurd rfl h
  · rw [ofList, List.concat_eq_append, List.foldl_append]
    exact set_ne_nil _ e.1 e.2

omit [LawfulBEq κ] in
/-- What holds of the members and of a further one still holds after it is set. -/
theorem forall_mem_set {K : κ → Prop} {Q : α → Prop} {ms : List (κ × α)} {k : κ} {v : α}
    (h : ∀ m ∈ ms, K m.1 ∧ Q m.2) (hk : K k) (hv : Q v) : ∀ m ∈ set ms k v, K m.1 ∧ Q m.2 := by
  intro m hm
  rw [set] at hm
  split at hm
  · obtain ⟨old, hold, rfl⟩ := List.mem_map.mp hm
    split
    · exact ⟨(h old hold).1, hv⟩
    · exact h old hold
  · rcases List.mem_append.mp hm with hm | hm
    · exact h m hm
    · rw [List.mem_singleton.mp hm]
      exact ⟨hk, hv⟩

omit [LawfulBEq κ] in
theorem forall_mem_ofList {K : κ → Prop} {Q : α → Prop} {es : List (κ × α)}
    (h : ∀ e ∈ es, K e.1 ∧ Q e.2) : ∀ m ∈ ofList es, K m.1 ∧ Q m.2 := by
  induction es using List.reverseRecOn with
  | nil => nofun
  | append_singleton es e ih =>
    rw [ofList, List.foldl_append]
    have he := h e (List.mem_append_right _ List.mem_cons_self)
    exact forall_mem_set (ih fun m hm => h m (List.mem_append_left _ hm)) he.1 he.2

end Members

/-! ### Values and keys that are texts -/

namespace Json

/-- Only a text equals a text. -/
theorem equalBy_string_iff {strict : Bool} {v : Json} {t : Text} :
    equalBy strict v (.string t) = true ↔ v = .string t := by
  cases v with
  | string s =>
    show (s == t) = true ↔ _
    simp
  | bool b =>
    show (!strict && false) = true ↔ _
    simp
  | _ => exact iff_of_false Bool.false_ne_true nofun

/-- Only a text is equal to a text from the left. -/
theorem string_equalBy_iff {strict : Bool} {v : Json} {t : Text} :
    equalBy strict (.string t) v = true ↔ v = .string t := by
  cases v with
  | string s =>
    show (t == s) = true ↔ _
    simpa using eq_comm
  | _ => exact iff_of_false Bool.false_ne_true nofun

@[simp] theorem string_beq (s t : Text) : (Json.string s == Json.string t) = (s == t) := rfl

theorem beq_string_iff {v : Json} {t : Text} : (v == .string t) = true ↔ v = .string t :=
  equalBy_string_iff

end Json

namespace Key

@[simp] theorem text_beq (s t : Text) : ((Key.text s : Key) == .text t) = (s == t) := rfl

/-- A text is among keys iff it is among those that are texts. -/
theorem contains_text (ks : List Key) (t : Text) :
    ks.contains (.text t) = (ks.filterMap asText?).contains t := by
  induction ks with
  | nil => rfl
  | cons k ks ih =>
    rw [List.contains_cons, ih]
    cases k with
    | text s =>
      rw [text_beq]
      exact List.contains_cons.symm
    | _ => rfl

/-- A text is among texts that became keys iff it was among the texts. -/
theorem contains_map_text (ts : List Text) (t : Text) :
    (ts.map Key.text).contains (.text t) = ts.contains t := by
  rw [contains_text, List.filterMap_map]
  exact congrArg (List.contains · t) List.filterMap_some

/-- Keys that became values become keys again. -/
theorem mapM_toJson (ks : List Key) : (ks.map toJson).mapM ofJson = .ok ks := by
  have hkey : ofJson ∘ toJson = Except.ok := by
    funext k
    cases k <;> rfl
  rw [List.mapM_map, hkey]
  exact List.mapM_pure.trans (congrArg _ (List.map_id ks))

end Key

namespace Entries

/-- Members are found under the same texts when the texts become keys. -/
theorem get?_ofMembers (ms : Members) (k : Text) :
    Members.get? (ofMembers ms) (.text k) = Members.get? ms k := by
  induction ms with
  | nil => rfl
  | cons m ms ih =>
    have hcons : ofMembers (m :: ms) = (Key.text m.1, m.2) :: ofMembers ms := rfl
    rw [hcons, Members.get?_cons, Members.get?_cons, Key.text_beq, ih]

/-- Texts that became keys become texts again. -/
@[simp] theorem members_ofMembers (ms : Members) : (ofMembers ms).members = ms := by
  induction ms with
  | nil => rfl
  | cons m ms ih =>
    show (m.1, m.2) :: (ofMembers ms).members = _
    rw [ih]

/-- A text is present among keys iff it is among the texts they came from. -/
theorem contains_ofMembers (ms : Members) (k : Text) :
    Members.contains (ofMembers ms) (.text k) = Members.contains ms k := by
  simp only [Members.contains, ofMembers, List.any_map, Function.comp_def, Key.text_beq]

end Entries

end BenefitForm
