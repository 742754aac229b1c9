import BenefitForm.Proofs.ProofKey
import BenefitForm.Proofs.Writable

/-!
# Values that a document may hold

Reading a JSON document does not give every value: a high surrogate is taken
together with a low one that follows it, and a whole number has at most 4300
digits. `Json.isReadable` says that a value is of this kind.

- `Json.isWritable_of_isReadable`: such a value can be written.
- `RuleFeed.exists_normalize`: a feed of such values is normalized, and the texts of
  its rules are without surrogate pairs (`unpaired_texts_of_normalize`).
-/

namespace BenefitForm

namespace Json

mutual

/-- Whether a document may hold the value: no text in it has a high surrogate directly before a low
one, and no whole number in it has too many digits to be written. -/
def isReadable : Json → Bool
  | .int n => n.natAbs < powerOfTen maxDigits
  | .string t => decide t.Unpaired
  | .array items => areReadable items
  | .object members => membersReadable members
  | _ => true

/-- `isReadable` of every item. -/
def areReadable : List Json → Bool
  | [] => true
  | v :: rest => v.isReadable && areReadable rest

/-- `isReadable` of every member, its key included. -/
def membersReadable : List (Text × Json) → Bool
  | [] => true
  | (k, v) :: rest => decide k.Unpaired && v.isReadable && membersReadable rest

end

theorem areReadable_iff {items : List Json} :
    areReadable items = true ↔ ∀ v ∈ items, v.isReadable = true := by
  induction items with
  | nil => exact iff_of_true rfl (List.forall_mem_nil _)
  | cons v items ih =>
    rw [List.forall_mem_cons, ← ih]
    exact Bool.and_eq_true_iff

theorem membersReadable_iff {members : Members} :
    membersReadable members = true ↔
      ∀ m ∈ members, m.1.Unpaired ∧ m.2.isReadable = true := by
  induction members with
  | nil => exact iff_of_true rfl (List.forall_mem_nil _)
  | cons m members ih =>
    rw [List.forall_mem_cons, ← ih, ← decide_eq_true_iff (p := m.1.Unpaired), ← Bool.and_eq_true]
    exact Bool.and_eq_true_iff

@[simp] theorem isReadable_string {t : Text} : (string t).isReadable = true ↔ t.Unpaired :=
  decide_eq_true_iff

@[simp] theorem isReadable_array {items : List Json} :
    (array items).isReadable = true ↔ ∀ v ∈ items, v.isReadable = true :=
  areReadable_iff

@[simp] theorem isReadable_object {members : Members} :
    (object members).isReadable = true ↔
      ∀ m ∈ members, m.1.Unpaired ∧ m.2.isReadable = true :=
  membersReadable_iff

/-- A member of an object that a document may hold is such a value. -/
theorem isReadable_member {members : Members} (h : (object members).isReadable = true)
    (key : String) : (member members key).isReadable = true := by
  rw [member]
  cases hv : Members.get? members (Text.ofString key) with
  | none => rfl
  | some v => exact (isReadable_object.mp h _ (Members.mem_of_get? hv)).2

mutual

/-- A value that a document may hold can be written. -/
theorem isWritable_of_isReadable : ∀ v : Json, v.isReadable = true → v.isWritable = true
  | .null | .bool _ | .float _ | .string _ => fun _ => rfl
  | .int _ => fun h => h
  | .array items => areWritable_of_areReadable items
  | .object members => membersWritable_of_membersReadable members

theorem areWritable_of_areReadable : ∀ items : List Json, areReadable items = true →
    areWritable items = true
  | [] => fun _ => rfl
  | v :: rest => fun h => by
    obtain ⟨hv, hrest⟩ := Bool.and_eq_true_iff.mp h
    exact Bool.and_eq_true_iff.mpr
      ⟨isWritable_of_isReadable v hv, areWritable_of_areReadable rest hrest⟩

theorem membersWritable_of_membersReadable : ∀ members : List (Text × Json),
    membersReadable members = true → membersWritable members = true
  | [] => fun _ => rfl
  | (_, v) :: rest => fun h => by
    obtain ⟨hm, hrest⟩ := Bool.and_eq_true_iff.mp h
    exact Bool.and_eq_true_iff.mpr
      ⟨isWritable_of_isReadable v (Bool.and_eq_true_iff.mp hm).2,
        membersWritable_of_membersReadable rest hrest⟩

end

end Json

/-! ### Rules -/

namespace Rule

/-- The texts of a rule: the name or the document type, and the proofs that it lists. -/
def texts : Rule → List Text
  | .criterion c => c.name :: c.allowedProofs
  | .document d => d.documentType :: d.allowedProofs

theorem unpaired_of_name? {v : Json} (h : v.isReadable = true) {t : Text}
    (hname : name? v = some t) : t.Unpaired := by
  unfold name? at hname
  split at hname
  · cases hname
  · cases hname
    exact Json.isReadable_string.mp h
  · cases hname

theorem unpaired_of_criterionName? {members : Members}
    (h : (Json.object members).isReadable = true) {name : Text}
    (hname : criterionName? members = some name) : name.Unpaired := by
  have hmember := Json.isReadable_member h
  unfold criterionName? at hname
  split at hname
  · rename_i criteria hcriteria
    exact unpaired_of_name? (Json.isReadable_member (hcriteria ▸ hmember "criteria") "name") hname
  · rename_i t hcriteria
    exact unpaired_of_name? (hcriteria ▸ hmember "criteria") hname
  · refine unpaired_of_name? ?_ hname
    split
    · exact hmember "criterionName"
    · exact hmember "name"

/-- The proofs in an entry that a document may hold are texts without surrogate pairs. -/
theorem unpaired_of_allowedProofs {members : Members}
    (h : (Json.object members).isReadable = true) {proofs : List ProofType}
    (hok : allowedProofs members = .ok proofs) : ∀ proof ∈ proofs, proof.Unpaired := by
  have hmember := Json.isReadable_member h "allowedProofs"
  unfold allowedProofs at hok
  split at hok
  · rename_i v vs hlisted
    rw [hlisted, Json.isReadable_array] at hmember
    split at hok
    · rename_i read hread
      cases hok
      intro proof hproof
      obtain ⟨w, hw, hname⟩ := exists_of_mem_right (mapM_eq_some_iff.mp hread) hproof
      exact unpaired_of_name? (hmember w hw) hname
    · cases hok
  · cases hok

/-- The texts of a rule are such texts. -/
theorem unpaired_of_ofJson {entry : Json} (h : entry.isReadable = true) {rule : Rule}
    (hok : ofJson entry = .ok rule) : ∀ t ∈ rule.texts, t.Unpaired := by
  cases entry with
  | object members =>
    rw [ofJson] at hok
    split at hok
    · split at hok
      · cases hok
      · rename_i name hname
        obtain ⟨proofs, hproofs, hrule⟩ := bind_eq_ok_iff.mp hok
        cases hrule
        exact List.forall_mem_cons.mpr
          ⟨unpaired_of_criterionName? h hname, unpaired_of_allowedProofs h hproofs⟩
    · split at hok
      · cases hok
      · rename_i type htype
        obtain ⟨proofs, hproofs, hrule⟩ := bind_eq_ok_iff.mp hok
        cases hrule
        exact List.forall_mem_cons.mpr ⟨unpaired_of_name? (Json.isReadable_member h _) htype,
          unpaired_of_allowedProofs h hproofs⟩
  | _ =>
    obtain ⟨shown, -, hthrow⟩ := bind_eq_ok_iff.mp hok
    cases hthrow

end Rule

/-! ### Rule feeds -/

namespace RuleFeed

/-- A feed that a document may hold is normalized. -/
theorem exists_normalize {feed : Json} (h : feed.isReadable = true) :
    ∃ rules, (normalize feed).outcome = .ok rules :=
  exists_rules (Json.isWritable_of_isReadable feed h)

/-- The texts in such a feed are without surrogate pairs. -/
theorem unpaired_texts_of_normalize {feed : Json} (hfeed : feed.isReadable = true)
    {rules : NormalizedRules} (h : (normalize feed).outcome = .ok rules) :
    rules.All fun rule => ∀ t ∈ rule.texts, t.Unpaired := by
  refine all_of_normalize h fun entry hentry rule hof => Rule.unpaired_of_ofJson ?_ hof
  cases feed with
  | array items => exact Json.isReadable_array.mp hfeed entry hentry
  | _ => cases hentry

/-- So are the proofs of its criteria. -/
theorem unpaired_of_normalize {feed : Json} (hfeed : feed.isReadable = true)
    {rules : NormalizedRules} (h : (normalize feed).outcome = .ok rules) :
    ∀ c ∈ rules.criteria, ∀ proof ∈ c.allowedProofs, proof.Unpaired :=
  fun c hc proof hproof =>
    (unpaired_texts_of_normalize hfeed h).criteria c hc proof (List.mem_cons_of_mem _ hproof)

end RuleFeed

end BenefitForm
