import BenefitForm.Property
import BenefitForm.Proofs.Members

/-!
# The members of a property

A property is written as an object whose members stand in a fixed order and are
left out where they are not set. `FormProperty.slots` lists the places in that
order; reading a member back is a look-up among the slots (`get?_ofSlots`), which
are known by their names, so that no other proof opens `FormProperty.members`.

- `FormProperty.formMembers`: what a form keeps of a property, without the mark
  of a required one.
- `member_formMembers`: its members are the slots.
-/

namespace BenefitForm

/-! ### Literal keys -/

theorem CodePoint.ofChar_injective : Function.Injective CodePoint.ofChar := by
  intro c d h
  have hv : c.toNat = d.toNat := congrArg CodePoint.val h
  exact Char.toNat_inj.mp hv

theorem Text.ofString_injective : Function.Injective Text.ofString := by
  intro s t h
  exact String.toList_injective (List.map_injective_iff.mpr CodePoint.ofChar_injective h)

@[simp] theorem Text.ofString_beq (s t : String) :
    (Text.ofString s == Text.ofString t) = (s == t) := by
  by_cases h : s = t
  · simp [h]
  · rw [beq_eq_false_iff_ne.mpr h]
    exact beq_eq_false_iff_ne.mpr fun e => h (Text.ofString_injective e)

namespace Json

/-- A member of an object with literal keys. -/
theorem get?_literal (fields : List (String × Json)) (key : String) :
    Members.get? (fields.map fun f => (Text.ofString f.1, f.2)) (Text.ofString key)
      = fields.lookup key := by
  induction fields with
  | nil => rfl
  | cons f fields ih =>
    rw [List.map_cons, Members.get?_cons, List.lookup_cons, Text.ofString_beq, ih]
    cases key == f.1 <;> rfl

end Json

/-! ### Slots -/

/-- The members of a list of slots: those that are set. -/
def ofSlots (slots : List (String × Option Json)) : Members :=
  slots.flatMap fun s => (s.2.map fun v => (Text.ofString s.1, v)).toList

theorem get?_slot (slot : String × Option Json) (key : String) :
    Members.get? (slot.2.map fun v => (Text.ofString slot.1, v)).toList (Text.ofString key)
      = if key == slot.1 then slot.2 else none := by
  cases hv : slot.2 with
  | none => simp
  | some v =>
    rw [Option.map_some, Option.toList_some, Members.get?_cons, Text.ofString_beq]
    rfl

/-- A member that no slot is named after is absent. -/
theorem get?_ofSlots_of_not_mem {slots : List (String × Option Json)} {key : String}
    (h : key ∉ slots.map Prod.fst) : Members.get? (ofSlots slots) (Text.ofString key) = none := by
  induction slots with
  | nil => rfl
  | cons s slots ih =>
    rw [List.map_cons, List.mem_cons, not_or] at h
    rw [ofSlots, List.flatMap_cons, Members.get?_append, get?_slot,
      if_neg (by simpa using h.1), Option.none_or]
    exact ih h.2

/-- Where the names of the slots differ, a member is what its slot holds. -/
theorem get?_ofSlots {slots : List (String × Option Json)} (hn : (slots.map Prod.fst).Nodup)
    (key : String) :
    Members.get? (ofSlots slots) (Text.ofString key) = (slots.lookup key).join := by
  induction slots with
  | nil => rfl
  | cons s slots ih =>
    rw [List.map_cons, List.nodup_cons] at hn
    rw [ofSlots, List.flatMap_cons, Members.get?_append, get?_slot, List.lookup_cons]
    by_cases h : key = s.1
    · have hrest : Members.get? (ofSlots slots) (Text.ofString key) = none :=
        get?_ofSlots_of_not_mem (h ▸ hn.1)
      rw [beq_iff_eq.mpr h, if_pos rfl]
      rw [show Members.get? (slots.flatMap _) _ = none from hrest, Option.or_none]
      rfl
    · rw [beq_eq_false_iff_ne.mpr h, if_neg Bool.false_ne_true, Option.none_or]
      exact ih hn.2

/-- Without a member the others are the slots with other names. -/
theorem erase_ofSlots (slots : List (String × Option Json)) (key : String) :
    Members.erase (ofSlots slots) (Text.ofString key)
      = ofSlots (slots.filter fun s => s.1 != key) := by
  induction slots with
  | nil => rfl
  | cons s slots ih =>
    obtain ⟨name, value?⟩ := s
    have hkey : (Text.ofString name != Text.ofString key) = (name != key) := by
      rw [bne, bne, Text.ofString_beq]
    rw [ofSlots, List.flatMap_cons, Members.erase, List.filter_append]
    refine (congrArg (_ ++ ·) ih).trans ?_
    rw [List.filter_cons]
    cases h : name != key <;> cases value? <;> simp [hkey, h, ofSlots]

namespace FormProperty

/-- The members that a property may have, in order, each with its value where it is set. -/
def slots (p : FormProperty) : List (String × Option Json) :=
  [("type", some (.string p.type)), ("title", some (.string p.title)),
    ("format", p.format?.map .string), ("pattern", p.pattern?.map .string),
    ("minLength", p.minLength?.map .int), ("maxLength", p.maxLength?.map .int),
    ("enum", p.values?.map Json.ofTexts), ("enumNames", p.valueNames?.map Json.ofTexts),
    ("default", p.default?.map .string),
    ("required", if p.required then some (.bool true) else none),
    ("fieldGroup", if p.groupName.truthy then
      some (Json.record [("groupName", p.groupName), ("groupLabel", p.groupLabel)]) else none),
    ("vcMeta", p.documentMeta?.map DocumentMeta.toJson)]

theorem slotNames_nodup (p : FormProperty) : (p.slots.map Prod.fst).Nodup := by
  show (["type", "title", "format", "pattern", "minLength", "maxLength", "enum", "enumNames",
    "default", "required", "fieldGroup", "vcMeta"] : List String).Nodup
  decide

/-- The members of a property are its slots that are set. -/
theorem members_eq_ofSlots (p : FormProperty) : p.members = ofSlots p.slots := by
  simp only [members, ofSlots, slots, List.flatMap_cons, List.flatMap_nil, Option.map_map,
    Function.comp_def, List.append_nil]
  cases p.required <;> cases p.groupName.truthy <;> simp

/-- What a form keeps of a property: its members without the mark of a required one. -/
def formMembers (p : FormProperty) : Members :=
  Members.erase p.members (Text.ofString "required")

/-- A member of a property other than the mark is what its slot holds. -/
theorem get?_formMembers (p : FormProperty) {key : String} (h : key ≠ "required") :
    Members.get? p.formMembers (Text.ofString key) = (p.slots.lookup key).join := by
  rw [formMembers, Members.get?_erase_of_ne fun e => h (Text.ofString_injective e),
    members_eq_ofSlots, get?_ofSlots p.slotNames_nodup]

/-- The members that a form keeps are the slots that are set, except for the mark. -/
theorem mem_formMembers_iff (p : FormProperty) {m : Text × Json} :
    m ∈ p.formMembers ↔
      ∃ key v, (key, some v) ∈ p.slots ∧ key ≠ "required" ∧ m = (Text.ofString key, v) := by
  have hkey : ∀ key : String, (Text.ofString key != Text.ofString "required") = true ↔
      key ≠ "required" := by
    intro key
    rw [bne_iff_ne, ne_eq, Text.ofString_injective.eq_iff]
  rw [formMembers, members_eq_ofSlots, Members.erase, List.mem_filter, ofSlots, List.mem_flatMap]
  constructor
  · rintro ⟨⟨⟨key, slot⟩, hs, hm⟩, hne⟩
    obtain ⟨v, rfl, rfl⟩ := Option.map_eq_some_iff.mp (Option.mem_toList.mp hm)
    exact ⟨key, v, hs, (hkey key).mp hne, rfl⟩
  · rintro ⟨key, v, hs, hne, rfl⟩
    exact ⟨⟨_, hs, Option.mem_toList.mpr rfl⟩, (hkey key).mpr hne⟩

theorem member_formMembers (p : FormProperty) {key : String} (h : key ≠ "required") :
    Json.member p.formMembers key = ((p.slots.lookup key).join).getD .null := by
  rw [Json.member, p.get?_formMembers h]

@[simp] theorem member_enum (p : FormProperty) :
    Json.member p.formMembers "enum" = (p.values?.map Json.ofTexts).getD .null :=
  p.member_formMembers (by decide)

@[simp] theorem member_enumNames (p : FormProperty) :
    Json.member p.formMembers "enumNames" = (p.valueNames?.map Json.ofTexts).getD .null :=
  p.member_formMembers (by decide)

@[simp] theorem member_vcMeta (p : FormProperty) :
    Json.member p.formMembers "vcMeta" = (p.documentMeta?.map DocumentMeta.toJson).getD .null :=
  p.member_formMembers (by decide)

@[simp] theorem member_fieldGroup (p : FormProperty) :
    Json.member p.formMembers "fieldGroup" = if p.groupName.truthy then
      Json.record [("groupName", p.groupName), ("groupLabel", p.groupLabel)] else .null := by
  have hslot : p.slots.lookup "fieldGroup" = some (if p.groupName.truthy then
      some (Json.record [("groupName", p.groupName), ("groupLabel", p.groupLabel)]) else none) :=
    rfl
  rw [p.member_formMembers (by decide), hslot]
  cases p.groupName.truthy <;> rfl

/-- The mark of a required property is a member of the object that a builder writes. -/
theorem member_required (p : FormProperty) :
    Json.member p.members "required" = if p.required then .bool true else .null := by
  have hslot : p.slots.lookup "required" = some (if p.required then some (.bool true) else none) :=
    rfl
  rw [Json.member, members_eq_ofSlots, get?_ofSlots p.slotNames_nodup, hslot]
  cases p.required <;> rfl

/-- A form keeps no mark. -/
theorem not_contains_required (p : FormProperty) :
    Members.contains p.formMembers (Text.ofString "required") = false := by
  rw [Bool.eq_false_iff, ne_eq, Members.contains_iff]
  exact Members.not_mem_keys_erase _ _

end FormProperty

/-! ### The record of a document field -/

namespace DocumentMeta

/-- The members of the record of a document field. -/
def recordMembers (d : DocumentMeta) : Members :=
  [("submissionReasons", Json.ofTexts d.submissionReasons),
    ("documentType", .string d.documentType), ("documentSubtype", Json.ofText? d.documentSubtype?),
    ("format", .string d.format), ("issuer", .string d.issuer),
    ("isFileUpload", .bool d.isFileUpload)].map fun f => (Text.ofString f.1, f.2)

theorem toJson_eq (d : DocumentMeta) : d.toJson = .object d.recordMembers := rfl

@[simp] theorem member_submissionReasons (d : DocumentMeta) :
    Json.member d.recordMembers "submissionReasons" = Json.ofTexts d.submissionReasons := by
  rw [Json.member, recordMembers, Json.get?_literal]
  rfl

@[simp] theorem member_documentSubtype (d : DocumentMeta) :
    Json.member d.recordMembers "documentSubtype" = Json.ofText? d.documentSubtype? := by
  rw [Json.member, recordMembers, Json.get?_literal]
  rfl

@[simp] theorem member_format (d : DocumentMeta) :
    Json.member d.recordMembers "format" = .string d.format := by
  rw [Json.member, recordMembers, Json.get?_literal]
  rfl

@[simp] theorem get?_isFileUpload (d : DocumentMeta) :
    Members.get? d.recordMembers (Text.ofString "isFileUpload") = some (.bool d.isFileUpload) := by
  rw [recordMembers, Json.get?_literal]
  rfl

end DocumentMeta

end BenefitForm
