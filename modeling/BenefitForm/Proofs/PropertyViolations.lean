import BenefitForm.Proofs.Validation

/-!
# What a property of a form does not allow

Of the members that a form keeps of a property five restrict values: the type, the
pattern, the two lengths and the options. The others say something to the renderer
or to a submission, so the findings about a value are those of the five, in the order
in which a property is written.

- `FormProperty.findingsAt_formMembers`: the findings about a value.
- `FormProperty.violation_cases`: the kinds of violation among them.
- `FormProperty.violations_string_eq_nil_iff`: the texts that a property allows.
-/

namespace BenefitForm

open Json

/-- The findings of a list of slots are those of the slots that are set. -/
theorem keywordFindings_ofSlots (siblings : Members) (slots : List (String × Option Json))
    (s : Subject) :
    keywordFindings siblings (ofSlots slots) s = slots.flatMap fun slot =>
      slot.2.toList.flatMap fun v => argumentFindings siblings (Text.ofString slot.1) v s := by
  rw [keywordFindings_eq_flatMap, ofSlots, List.flatMap_assoc]
  refine List.flatMap_congr fun slot _ => ?_
  cases slot.2 <;> rfl

namespace FormProperty

/-- The places that a form keeps of a property: all but the one of the mark. -/
def formSlots (p : FormProperty) : List (String × Option Json) :=
  p.slots.filter fun s => s.1 != "required"

theorem formMembers_eq_ofSlots (p : FormProperty) : p.formMembers = ofSlots p.formSlots := by
  rw [formMembers, members_eq_ofSlots, erase_ofSlots, formSlots]

/-- What a keyword of a property does not allow about a value, where the property has it. -/
def slotViolations (k : Assertion) (argument? : Option Json) (v : Json) : List Violation :=
  argument?.toList.flatMap fun argument => violations k argument (.json v)

/-- What a property does not allow about a value: its type, its pattern, its lengths and its
options, in this order. -/
def violations (p : FormProperty) (v : Json) : List Violation :=
  slotViolations .type (some (.string p.type)) v
    ++ slotViolations .pattern (p.pattern?.map .string) v
    ++ slotViolations .minLength (p.minLength?.map .int) v
    ++ slotViolations .maxLength (p.maxLength?.map .int) v
    ++ slotViolations .enum (p.values?.map ofTexts) v

/-- A slot that is named after no keyword gives no finding. -/
theorem slotFindings_of_none (name : String) (h : Assertion.ofName? (Text.ofString name) = none)
    (siblings : Members) (argument? : Option Json) (s : Subject) :
    (argument?.toList.flatMap fun v => argumentFindings siblings (Text.ofString name) v s) = [] := by
  cases argument? with
  | none => rfl
  | some argument =>
    simp only [Option.toList_some, List.flatMap_cons, List.flatMap_nil, List.append_nil,
      argumentFindings, h]

/-- A slot that is named after a keyword without subschemas gives what that does not allow. -/
theorem slotFindings_of_isPlain (name : String) {k : Assertion} (hk : isPlain k = true)
    (hname : Assertion.ofName? (Text.ofString name) = some k) (siblings : Members)
    (argument? : Option Json) (v : Json) :
    (argument?.toList.flatMap fun a =>
        argumentFindings siblings (Text.ofString name) a (.json v))
      = (slotViolations k argument? v).map (⟨[], ·⟩) := by
  cases argument? with
  | none => rfl
  | some argument =>
    simp only [slotViolations, Option.toList_some, List.flatMap_cons, List.flatMap_nil,
      List.append_nil, argumentFindings_of_isPlain hk hname]

/-- The findings about the value of a property are its violations, each found at its name. -/
theorem findingsAt_formMembers (p : FormProperty) (step : Text) (v : Json) :
    findingsAt (.object p.formMembers) step v
      = (p.violations v).map fun violation => ⟨[step], violation⟩ := by
  have hkeywords : keywordFindings p.formMembers p.formMembers (.json v)
      = (p.violations v).map (⟨[], ·⟩) := by
    have hslots : p.formSlots = [("type", some (.string p.type)), ("title", some (.string p.title)),
        ("format", p.format?.map .string), ("pattern", p.pattern?.map .string),
        ("minLength", p.minLength?.map .int), ("maxLength", p.maxLength?.map .int),
        ("enum", p.values?.map ofTexts), ("enumNames", p.valueNames?.map ofTexts),
        ("default", p.default?.map .string),
        ("fieldGroup", if p.groupName.truthy then
          some (record [("groupName", p.groupName), ("groupLabel", p.groupLabel)]) else none),
        ("vcMeta", p.documentMeta?.map DocumentMeta.toJson)] := rfl
    rw [formMembers_eq_ofSlots, keywordFindings_ofSlots, hslots]
    simp only [List.flatMap_cons, List.flatMap_nil]
    -- five of the names are keywords, the others are none
    rw [slotFindings_of_isPlain "type" (k := .type) rfl rfl,
      slotFindings_of_isPlain "pattern" (k := .pattern) rfl rfl,
      slotFindings_of_isPlain "minLength" (k := .minLength) rfl rfl,
      slotFindings_of_isPlain "maxLength" (k := .maxLength) rfl rfl,
      slotFindings_of_isPlain "enum" (k := .enum) rfl rfl,
      slotFindings_of_none "title" rfl, slotFindings_of_none "format" rfl,
      slotFindings_of_none "enumNames" rfl, slotFindings_of_none "default" rfl,
      slotFindings_of_none "fieldGroup" rfl, slotFindings_of_none "vcMeta" rfl]
    simp only [violations, List.map_append, List.nil_append, List.append_nil, List.append_assoc]
  rw [findingsAt, hkeywords, List.map_map]
  rfl

/-- What a property does not allow about a value is one of five things. -/
theorem violation_cases {p : FormProperty} {v : Json} {violation : Violation}
    (h : violation ∈ p.violations v) :
    (hasTypeNamed (.json v) (.string p.type) = false ∧
      violation = .type (.json v) [.string p.type]) ∨
      (∃ t pattern, violation = .pattern t pattern) ∨
      (∃ t least, violation = .tooShort t least) ∨ (∃ t most, violation = .tooLong t most) ∨
      ∃ ts : List Text, violation = .unlisted (.json v) (ts.map .string) := by
  have hslot : ∀ {k : Assertion} {argument? : Option Json},
      violation ∈ slotViolations k argument? v →
      ∃ argument ∈ argument?, Breach argument k (.json v) violation := fun hm => by
    obtain ⟨argument, hargument, hm⟩ := List.mem_flatMap.mp hm
    exact ⟨argument, Option.mem_toList.mp hargument, mem_violations_iff.mp hm⟩
  simp only [violations, List.mem_append] at h
  rcases h with (((htype | hpattern) | hleast) | hmost) | henum
  · obtain ⟨_, ⟨⟩, hbreach⟩ := hslot htype
    cases hbreach with
    | type hnamed =>
      -- a property names one type
      have hone : namedTypes (.string p.type) = [.string p.type] := rfl
      rw [hone, List.any_cons, List.any_nil, Bool.or_false] at hnamed
      exact .inl ⟨hnamed, rfl⟩
  · obtain ⟨_, -, hbreach⟩ := hslot hpattern
    cases hbreach with
    | @pattern t q => exact .inr (.inl ⟨t, q, rfl⟩)
  · obtain ⟨least, -, hbreach⟩ := hslot hleast
    cases hbreach with
    | @minLength t => exact .inr (.inr (.inl ⟨t, least, rfl⟩))
  · obtain ⟨most, -, hbreach⟩ := hslot hmost
    cases hbreach with
    | @maxLength t => exact .inr (.inr (.inr (.inl ⟨t, most, rfl⟩)))
  · obtain ⟨_, hargument, hbreach⟩ := hslot henum
    obtain ⟨ts, -, rfl⟩ := Option.map_eq_some_iff.mp hargument
    cases hbreach with
    | enum => exact .inr (.inr (.inr (.inr ⟨ts, rfl⟩)))

theorem slotViolations_map_eq_nil_iff {α : Type} {k : Assertion} {write : α → Json}
    {argument? : Option α} {v : Json} :
    slotViolations k (argument?.map write) v = [] ↔
      ∀ a ∈ argument?, Json.violations k (write a) (.json v) = [] := by
  cases argument? <;> simp [slotViolations]

/-- A text is allowed by a property of the type of texts iff its pattern is found in it, its length
is within the bounds and it is one of the options, as far as the property has any of these. -/
theorem violations_string_eq_nil_iff {p : FormProperty} (htype : p.type = Text.ofString "string")
    {t : Text} :
    p.violations (.string t) = [] ↔
      (∀ q ∈ p.pattern?, (Pattern.read? q).any (·.search t) = true) ∧
      (∀ n ∈ p.minLength?, n ≤ t.length) ∧ (∀ n ∈ p.maxLength?, (t.length : Int) ≤ n) ∧
      ∀ ts ∈ p.values?, t ∈ ts := by
  have hless : ∀ m n : Int, isLess (.int m) (.int n) = true ↔ m < n := by
    intro m n
    have hcompare : isLess (.int m) (.int n) = (some (compare m n) == some Ordering.lt) := rfl
    rw [hcompare, beq_iff_eq, Option.some_inj, compare_lt_iff_lt]
  have hnone : ∀ {c : Bool} {violation : Violation},
      (if c then [violation] else []) = [] ↔ ¬ c = true := by
    intro c _
    cases c <;> simp
  have hsome : ∀ {c : Bool} {violation : Violation},
      (if c then [] else [violation]) = [] ↔ c = true := by
    intro c _
    cases c <;> simp
  have hstring : slotViolations .type (some (.string p.type)) (.string t) = [] := by
    rw [htype]
    rfl
  rw [violations, hstring, List.nil_append]
  simp only [List.append_eq_nil_iff, slotViolations_map_eq_nil_iff, and_assoc,
    violations_enum_eq_nil_iff]
  refine and_congr (forall₂_congr fun q _ => hsome) (and_congr (forall₂_congr fun n _ => ?_)
    (and_congr (forall₂_congr fun n _ => ?_) (forall₂_congr fun ts _ => ?_)))
  · exact hnone.trans ((not_congr (hless _ _)).trans not_lt)
  · exact hnone.trans ((not_congr (hless _ _)).trans not_lt)
  · simp

end FormProperty

end BenefitForm
