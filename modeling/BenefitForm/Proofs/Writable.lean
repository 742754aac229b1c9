import BenefitForm.Wallet
import BenefitForm.Proofs.RuleFeed

/-!
# Values that can be written

Naming a value in a message, taking it for a text and writing it as a document
fail for one reason only, a whole number with too many digits. `Json.isWritable`
says that a value has none at any depth.

- `Json.exists_display`, `Json.exists_plain`, `Json.exists_write`: such a value has
  a display form and can be written.
- `RuleFeed.exists_rules`, `Wallet.exists_load`: feeds and wallets of such values
  are read to their end, whatever shape they have.
-/

namespace BenefitForm

namespace Json

mutual

/-- Whether a value can be written: no whole number in it has too many digits. -/
def isWritable : Json → Bool
  | .int n => n.natAbs < powerOfTen maxDigits
  | .array items => areWritable items
  | .object members => membersWritable members
  | _ => true

/-- `isWritable` of every item. -/
def areWritable : List Json → Bool
  | [] => true
  | v :: rest => v.isWritable && areWritable rest

/-- `isWritable` of the value of every member. -/
def membersWritable : List (Text × Json) → Bool
  | [] => true
  | (_, v) :: rest => v.isWritable && membersWritable rest

end

theorem areWritable_iff {items : List Json} :
    areWritable items = true ↔ ∀ v ∈ items, v.isWritable = true := by
  induction items with
  | nil => exact iff_of_true rfl (List.forall_mem_nil _)
  | cons v items ih =>
    rw [List.forall_mem_cons, ← ih]
    exact Bool.and_eq_true_iff

theorem membersWritable_iff {members : Members} :
    membersWritable members = true ↔ ∀ m ∈ members, m.2.isWritable = true := by
  induction members with
  | nil => exact iff_of_true rfl (List.forall_mem_nil _)
  | cons m members ih =>
    rw [List.forall_mem_cons, ← ih]
    exact Bool.and_eq_true_iff

@[simp] theorem isWritable_string (t : Text) : (string t).isWritable = true := rfl

@[simp] theorem isWritable_array {items : List Json} :
    (array items).isWritable = true ↔ ∀ v ∈ items, v.isWritable = true :=
  areWritable_iff

@[simp] theorem isWritable_object {members : Members} :
    (object members).isWritable = true ↔ ∀ m ∈ members, m.2.isWritable = true :=
  membersWritable_iff

/-! ### Parts of a value -/

theorem isWritable_of_get? {members : Members} (h : (object members).isWritable = true) {key : Text}
    {v : Json} (hv : Members.get? members key = some v) : v.isWritable = true :=
  isWritable_object.mp h _ (Members.mem_of_get? hv)

theorem isWritable_member {members : Members} (h : (object members).isWritable = true)
    (key : String) : (member members key).isWritable = true := by
  rw [member]
  cases hv : Members.get? members (Text.ofString key) with
  | none => rfl
  | some v => exact isWritable_of_get? h hv

theorem isWritable_firstOf {members : Members} (h : (object members).isWritable = true)
    (keys : List String) : (firstOf members keys).isWritable = true := by
  rw [firstOf]
  cases hv : (keys.map (member members)).find? fun v => !v.isNull with
  | none => rfl
  | some v =>
    obtain ⟨key, -, rfl⟩ := List.mem_map.mp (List.mem_of_find?_eq_some hv)
    exact isWritable_member h key

/-- The items of a value that can be written can be written. -/
theorem isWritable_of_mem_iterate {v : Json} (h : v.isWritable = true) {items : List Json}
    (hitems : v.iterate = .ok items) : ∀ item ∈ items, item.isWritable = true := by
  cases v with
  | array _ =>
    cases hitems
    exact isWritable_array.mp h
  | string t =>
    cases hitems
    intro item hitem
    obtain ⟨c, -, rfl⟩ := List.mem_map.mp hitem
    rfl
  | object members =>
    cases hitems
    intro item hitem
    obtain ⟨m, -, rfl⟩ := List.mem_map.mp hitem
    rfl
  | _ => cases hitems

theorem isWritable_of_iterate {v : Json} (h : v.isWritable = true) {items : List Json}
    (hitems : v.iterateOrEmpty = .ok items) : ∀ item ∈ items, item.isWritable = true := by
  rw [iterateOrEmpty] at hitems
  split at hitems
  · exact isWritable_of_mem_iterate h hitems
  · cases hitems
    intro item hitem
    cases hitem

/-! ### Display forms and documents -/

theorem exists_ofBoundedInt {n : Int} (h : (int n).isWritable = true) :
    ∃ t, Text.ofBoundedInt n = .ok t := by
  rw [isWritable, decide_eq_true_iff] at h
  exact ⟨Text.ofInt n, by rw [Text.ofBoundedInt, if_pos h]⟩

mutual

/-- A value that can be written has a display form. -/
theorem exists_display : ∀ v : Json, v.isWritable = true → ∃ t, v.display = .ok t
  | .null => fun _ => ⟨_, rfl⟩
  | .bool _ => fun _ => ⟨_, rfl⟩
  | .int _ => fun h => exists_ofBoundedInt h
  | .float _ => fun _ => ⟨_, rfl⟩
  | .string _ => fun _ => ⟨_, rfl⟩
  | .array items => fun h => by
    obtain ⟨shown, hshown⟩ := exists_displayItems items h
    exact ⟨_, by rw [display, hshown]; rfl⟩
  | .object members => fun h => by
    obtain ⟨shown, hshown⟩ := exists_displayMembers members h
    exact ⟨_, by rw [display, hshown]; rfl⟩

theorem exists_displayItems : ∀ items : List Json, areWritable items = true →
    ∃ shown, displayItems items = .ok shown
  | [] => fun _ => ⟨_, rfl⟩
  | v :: rest => fun h => by
    obtain ⟨hv, hrest⟩ := Bool.and_eq_true_iff.mp h
    obtain ⟨shown, hshown⟩ := exists_display v hv
    obtain ⟨others, hothers⟩ := exists_displayItems rest hrest
    exact ⟨_, by rw [displayItems, hshown, hothers]; rfl⟩

theorem exists_displayMembers : ∀ members : List (Text × Json), membersWritable members = true →
    ∃ shown, displayMembers members = .ok shown
  | [] => fun _ => ⟨_, rfl⟩
  | (_, v) :: rest => fun h => by
    obtain ⟨hv, hrest⟩ := Bool.and_eq_true_iff.mp h
    obtain ⟨shown, hshown⟩ := exists_display v hv
    obtain ⟨others, hothers⟩ := exists_displayMembers rest hrest
    exact ⟨_, by rw [displayMembers, hshown, hothers]; rfl⟩

end

/-- Such a value can be taken for a text. -/
theorem exists_plain {v : Json} (h : v.isWritable = true) : ∃ t, v.plain = .ok t := by
  cases v with
  | string t => exact ⟨t, rfl⟩
  | _ => exact exists_display _ h

mutual

/-- A value that can be written is written in every style. -/
theorem exists_writeAt (style : Style) : ∀ (depth : Nat) (v : Json), v.isWritable = true →
    ∃ t, v.writeAt style depth = .ok t
  | _, .null => fun _ => ⟨_, rfl⟩
  | _, .bool _ => fun _ => ⟨_, rfl⟩
  | _, .int _ => fun h => exists_ofBoundedInt h
  | _, .float _ => fun _ => ⟨_, rfl⟩
  | _, .string _ => fun _ => ⟨_, rfl⟩
  | depth, .array items => fun h => by
    obtain ⟨written, hwritten⟩ := exists_writeItems style (depth + 1) items h
    exact ⟨_, by rw [writeAt, hwritten]; rfl⟩
  | depth, .object members => fun h => by
    obtain ⟨written, hwritten⟩ := exists_writeMembers style (depth + 1) members h
    exact ⟨_, by rw [writeAt, hwritten]; rfl⟩

theorem exists_writeItems (style : Style) : ∀ (depth : Nat) (items : List Json),
    areWritable items = true → ∃ written, writeItems style depth items = .ok written
  | _, [] => fun _ => ⟨_, rfl⟩
  | depth, v :: rest => fun h => by
    obtain ⟨hv, hrest⟩ := Bool.and_eq_true_iff.mp h
    obtain ⟨written, hwritten⟩ := exists_writeAt style depth v hv
    obtain ⟨others, hothers⟩ := exists_writeItems style depth rest hrest
    exact ⟨_, by rw [writeItems, hwritten, hothers]; rfl⟩

theorem exists_writeMembers (style : Style) : ∀ (depth : Nat) (members : List (Text × Json)),
    membersWritable members = true → ∃ written, writeMembers style depth members = .ok written
  | _, [] => fun _ => ⟨_, rfl⟩
  | depth, (_, v) :: rest => fun h => by
    obtain ⟨hv, hrest⟩ := Bool.and_eq_true_iff.mp h
    obtain ⟨written, hwritten⟩ := exists_writeAt style depth v hv
    obtain ⟨others, hothers⟩ := exists_writeMembers style depth rest hrest
    exact ⟨_, by rw [writeMembers, hwritten, hothers]; rfl⟩

end

theorem exists_write (style : Style) {v : Json} (h : v.isWritable = true) :
    ∃ t, v.write style = .ok t :=
  exists_writeAt style 0 v h

end Json

/-! ### Rule feeds -/

namespace Rule

/-- The proofs of an entry are refused for their shape alone. -/
theorem allowedProofs_eq_error {members : Members} {e : Failure}
    (h : allowedProofs members = .error e) : ∃ message, e = .malformedRule message := by
  unfold allowedProofs at h
  split at h
  · split at h
    · cases h
    · cases h
      exact ⟨_, rfl⟩
  · cases h
    exact ⟨_, rfl⟩

/-- An entry that can be written is a rule or is refused as one. -/
theorem ofJson_eq_error {entry : Json} (h : entry.isWritable = true) {e : Failure}
    (herror : ofJson entry = .error e) : ∃ message, e = .malformedRule message := by
  -- both kinds of rules read their proofs last
  have hrefused : ∀ {members : Members} {f : List ProofType → Rule},
      (do let proofs ← allowedProofs members; return f proofs) = Except.error e →
      ∃ message, e = .malformedRule message := by
    intro members f hf
    cases hproofs : allowedProofs members with
    | error e' =>
      rw [hproofs] at hf
      cases hf
      exact allowedProofs_eq_error hproofs
    | ok proofs =>
      rw [hproofs] at hf
      cases hf
  have hshown := Json.exists_display entry h
  unfold ofJson at herror
  split at herror
  · split at herror
    · split at herror
      · cases herror
        exact ⟨_, rfl⟩
      · exact hrefused herror
    · split at herror
      · cases herror
        exact ⟨_, rfl⟩
      · exact hrefused herror
  · obtain ⟨shown, hshown⟩ := hshown
    rw [hshown] at herror
    cases herror
    exact ⟨_, rfl⟩

end Rule

namespace RuleFeed

theorem exists_addEntries {entries : List Json} (h : ∀ entry ∈ entries, entry.isWritable = true)
    (rules : NormalizedRules) (index : Nat) :
    ∃ rules', (addEntries rules index entries).outcome = .ok rules' := by
  induction entries generalizing rules index with
  | nil => exact ⟨rules, rfl⟩
  | cons entry rest ih =>
    obtain ⟨hentry, hrest⟩ := List.forall_mem_cons.mp h
    rw [addEntries]
    cases hof : Rule.ofJson entry with
    | ok rule => exact ih hrest _ _
    | error e =>
      obtain ⟨message, rfl⟩ := Rule.ofJson_eq_error hentry hof
      obtain ⟨rules', hok⟩ := ih hrest (rules.warn (skipped index message)) (index + 1)
      exact ⟨rules', by rw [Trace.outcome_bind, Trace.outcome_note, ok_bind, hok]⟩

/-- A feed that can be written is normalized. -/
theorem exists_rules {feed : Json} (h : feed.isWritable = true) :
    ∃ rules, (normalize feed).outcome = .ok rules := by
  cases feed with
  | array entries =>
    obtain ⟨rules, hrules⟩ := exists_addEntries (Json.isWritable_array.mp h) {} 0
    exact ⟨rules, by simp [normalize, hrules]⟩
  | _ => exact ⟨_, rfl⟩

end RuleFeed

/-! ### Wallets -/

namespace WalletDocument

variable {members : Members} (h : (Json.object members).isWritable = true)

include h

theorem exists_textOf (keys : List String) : ∃ t, textOf members keys = .ok t := by
  have hfirst := Json.isWritable_firstOf h keys
  unfold textOf
  split
  · exact ⟨_, rfl⟩
  · exact Json.exists_plain hfirst

theorem exists_contentOf : ∃ t, contentOf members = .ok t := by
  have hfirst := Json.isWritable_firstOf h ["doc_data", "docData"]
  unfold contentOf
  split
  · exact ⟨_, rfl⟩
  · exact ⟨_, rfl⟩
  · exact Json.exists_write .compact hfirst

/-- A record that can be written is a document. -/
theorem exists_ofMembers : ∃ d, ofMembers members = .ok d := by
  refine exists_bind_eq_ok (exists_contentOf h) fun _ _ => ?_
  iterate 9 refine exists_bind_eq_ok (exists_textOf h _) fun _ _ => ?_
  exact ⟨_, rfl⟩

end WalletDocument

namespace Wallet

theorem exists_loadEntries {entries : List Json}
    (h : ∀ entry ∈ entries, entry.isWritable = true) :
    ∃ documents, (loadEntries entries).outcome = .ok documents := by
  induction entries with
  | nil => exact ⟨[], rfl⟩
  | cons entry rest ih =>
    obtain ⟨hentry, hrest⟩ := List.forall_mem_cons.mp h
    obtain ⟨documents, hdocuments⟩ := ih hrest
    cases entry with
    | object members =>
      obtain ⟨d, hd⟩ := WalletDocument.exists_ofMembers hentry
      exact ⟨d :: documents, by simp [loadEntries, hd, hdocuments]⟩
    | _ => exact ⟨documents, by simp [loadEntries, hdocuments]⟩

/-- A list of values that can be written is a wallet. -/
theorem exists_load {items : List Json} (h : ∀ item ∈ items, item.isWritable = true) :
    ∃ documents, (Input.records (.array items)).load.outcome = .ok documents := by
  obtain ⟨documents, hdocuments⟩ := exists_loadEntries h
  refine ⟨documents, ?_⟩
  show (load (.array items)).outcome = .ok documents
  cases items with
  | nil => exact hdocuments
  | cons item items => simpa [load, Json.iterateOrEmpty, Json.truthy, Json.iterate] using hdocuments

end Wallet

end BenefitForm
