import BenefitForm.Proofs.DisplayGroups
import BenefitForm.Proofs.Payload

/-!
# The order in which a form is shown

The hints of a form list its fields in four segments: the groups but that of the
documents, the fields without a group that are no documents, the documents group,
and the other documents. In a compiled form the documents are the documents group,
so the last segment is empty and the third one is all documents. The segments then
have every field once, and no document comes before another field.

- `FormSchema.order`: the segments, as the properties tell them.
- `Arranged.displayOrder_eq`: the order that the program finds is this one.
- `Arranged.order_perm`, `Arranged.pairwise_order`, `isInfix_order`: every field once,
  the documents behind all others, and each group as a whole.
- `Arranged.hints_eq`: the hints are the order and one entry for each grouped field.
- `compileForm_shows`: the order and the hints of every compiled form.
-/

namespace BenefitForm

open FormProperty

/-- A block of a list without repeats has the first of its elements in front. -/
theorem find?_mem_eq_of_isInfix {α : Type} [BEq α] [LawfulBEq α] {x : α} {xs ys : List α}
    (h : x :: xs <:+: ys) (hn : ys.Nodup) : (ys.find? fun y => y ∈ x :: xs) = some x := by
  obtain ⟨before, behind, rfl⟩ := h
  have hbefore : (before.find? fun y => y ∈ x :: xs) = none := by
    rw [List.find?_eq_none]
    intro y hy hmem
    rw [List.append_assoc] at hn
    exact List.disjoint_of_nodup_append hn hy (List.mem_append_left _ (of_decide_eq_true hmem))
  rw [List.append_assoc, List.find?_append, hbefore, Option.none_or, List.cons_append,
    List.find?_cons_of_pos (by simp)]

/-! ### The segments -/

namespace FormSchema

/-- The fields in the order in which they are shown: the groups but that of the documents, in order
of first appearance, the fields without a group, and the documents group. -/
def order (form : FormSchema) : List Text :=
  (form.groupNames.filter fun g => !(g == .string documentsGroup)).flatMap form.fieldsOf
    ++ form.ungrouped ++ form.fieldsOf (.string documentsGroup)

/-- The fields of a group stand together. -/
theorem isInfix_order {form : FormSchema} {g : Json} (hg : g ∈ form.groupNames) :
    form.fieldsOf g <:+: form.order := by
  by_cases hdocuments : (g == .string documentsGroup) = true
  · rw [Json.beq_string_iff.mp hdocuments]
    exact (List.suffix_append _ _).isInfix
  · have hmem : g ∈ form.groupNames.filter fun g => !(g == .string documentsGroup) :=
      List.mem_filter.mpr ⟨hg, by simpa using hdocuments⟩
    have hblock : form.fieldsOf g <:+: (form.groupNames.filter fun g =>
        !(g == .string documentsGroup)).flatMap form.fieldsOf :=
      List.infix_of_mem_flatten (List.mem_map_of_mem hmem)
    refine hblock.trans ?_
    rw [order, List.append_assoc]
    exact (List.prefix_append _ _).isInfix

namespace Arranged

variable {form : FormSchema} {ps : List FormProperty} (h : form.Arranged ps)

include h

/-- A property is a document iff it carries the documents group. -/
theorem mem_documentNames_iff {p : FormProperty} (hp : p ∈ ps) :
    p.name ∈ form.documentNames ↔ p.groupName = .string documentsGroup := by
  rw [h.documentNames, ← Json.beq_string_iff, ← h.submitted p hp]
  exact mem_map_name_filter_iff h.nodup hp (·.isSubmitted)

/-- The fields of a group are documents iff it is the documents group. -/
theorem mem_documentNames_iff_of_mem_fieldsOf {g : Json} (hg : g.canBeKey = true) {name : Text}
    (hname : name ∈ form.fieldsOf g) : name ∈ form.documentNames ↔ g = .string documentsGroup := by
  rw [h.fieldsOf_eq hg] at hname
  obtain ⟨p, hp, rfl⟩ := List.mem_map.mp hname
  obtain ⟨hp, hidentity⟩ := List.mem_filter.mp hp
  have hsame : p.groupName.identity? = g.identity? := beq_iff_eq.mp hidentity
  rw [h.mem_documentNames_iff (List.mem_filter.mp hp).1, ← Json.beq_string_iff,
    ← Json.beq_string_iff, Json.beq_iff_identity (h.keyed_grouped p hp) rfl,
    Json.beq_iff_identity hg rfl, hsame]

/-- A field without a group is no document. -/
theorem not_mem_documentNames_of_mem_ungrouped {name : Text} (hname : name ∈ form.ungrouped) :
    name ∉ form.documentNames := by
  rw [h.ungrouped_eq] at hname
  obtain ⟨p, hp, rfl⟩ := List.mem_map.mp hname
  obtain ⟨hp, hnone⟩ := List.mem_filter.mp hp
  rw [h.mem_documentNames_iff hp]
  intro hdocuments
  rw [isGrouped, hdocuments] at hnone
  exact absurd hnone (by decide)

/-- The fields of the groups whose names pass a test. -/
theorem flatMap_fieldsOf (p : Json → Bool) :
    (form.groupNames.filter p).flatMap form.fieldsOf
      = ((firstsBy groupIdentity? (groupedOf ps)).filter fun q => p q.groupName).flatMap fun q =>
        (DisplayGroup.among (groupedOf ps) q).fields := by
  rw [h.groupNames_eq, List.filter_map, List.flatMap_map]
  refine List.flatMap_congr fun q hq => ?_
  have hmem : q ∈ groupedOf ps := (firstsBy_sublist _ _).mem (List.mem_filter.mp hq).1
  exact h.fieldsOf_eq (h.keyed_grouped q hmem)

/-- The documents group is one of the groups, or there are no documents. -/
theorem flatMap_fieldsOf_documents :
    (form.groupNames.filter fun g => g == .string documentsGroup).flatMap form.fieldsOf
      = form.fieldsOf (.string documentsGroup) := by
  have hidentity : ∀ q ∈ firstsBy groupIdentity? (groupedOf ps),
      (q.groupName == .string documentsGroup)
        = (q.groupIdentity? == (Json.string documentsGroup).identity?) := by
    intro q hq
    exact Json.beq_eq_identity (h.keyed_grouped q ((firstsBy_sublist _ _).mem hq)) rfl
  have hfirst := flatMap_filter_firstsBy groupIdentity? (Json.string documentsGroup).identity?
    (groupedOf ps)
  rw [h.flatMap_fieldsOf, List.filter_congr hidentity, h.fieldsOf_eq rfl, ← hfirst,
    List.map_flatMap]
  rfl

/-- The program shows the fields in the order of the segments. -/
theorem displayOrder_eq :
    displayOrder ((firstsBy groupIdentity? (groupedOf ps)).map (DisplayGroup.among (groupedOf ps)))
      ((ps.filter (!·.isGrouped)).map (·.name)) form.documentNames = form.order := by
  have hpersonal : (form.ungrouped.filter fun name => !form.documentNames.contains name)
      = form.ungrouped := by
    rw [List.filter_eq_self]
    intro name hname
    simpa using h.not_mem_documentNames_of_mem_ungrouped hname
  have hdocuments : (form.ungrouped.filter fun name => form.documentNames.contains name) = [] := by
    rw [List.filter_eq_nil_iff]
    intro name hname
    simpa using h.not_mem_documentNames_of_mem_ungrouped hname
  rw [displayOrder, ← h.ungrouped_eq, hpersonal, hdocuments, List.append_nil, order,
    ← h.flatMap_fieldsOf_documents, h.flatMap_fieldsOf, h.flatMap_fieldsOf, List.filter_map,
    List.filter_map, List.flatMap_map, List.flatMap_map]
  rfl

/-! ### What the order has -/

/-- Every field is shown once. -/
theorem order_perm : form.order.Perm (Members.keys form.properties) := by
  have hall : (form.groupNames.flatMap form.fieldsOf).Perm ((groupedOf ps).map (·.name)) := by
    have hfields := h.flatMap_fieldsOf fun _ => true
    rw [List.filter_true, List.filter_true] at hfields
    rw [hfields]
    exact DisplayGroup.flatMap_fields_perm (groupedOf ps)
  -- the groups are those of the documents and the others
  have hsplit := ((List.filter_append_perm (fun g => g == .string documentsGroup)
    form.groupNames).flatMap_right form.fieldsOf).trans hall
  rw [List.flatMap_append, h.flatMap_fieldsOf_documents] at hsplit
  have hnames := (List.filter_append_perm (·.isGrouped) ps).map (·.name)
  rw [List.map_append, ← h.ungrouped_eq] at hnames
  rw [order, h.properties, keys_map_formMember]
  refine List.Perm.trans ?_ ((hsplit.append_right form.ungrouped).trans hnames)
  rw [List.append_assoc (form.fieldsOf _)]
  exact List.perm_append_comm

theorem nodup_order : form.order.Nodup := by
  refine h.order_perm.nodup_iff.mpr ?_
  rw [h.properties, keys_map_formMember]
  exact h.nodup

/-- The documents come behind all other fields. -/
theorem pairwise_order :
    form.order.Pairwise fun a b => a ∈ form.documentNames → b ∈ form.documentNames := by
  have hpersonal : ∀ name ∈ (form.groupNames.filter fun g =>
      !(g == .string documentsGroup)).flatMap form.fieldsOf ++ form.ungrouped,
      name ∉ form.documentNames := by
    intro name hname
    rcases List.mem_append.mp hname with hname | hname
    · obtain ⟨g, hg, hname⟩ := List.mem_flatMap.mp hname
      obtain ⟨hg, hother⟩ := List.mem_filter.mp hg
      rw [h.mem_documentNames_iff_of_mem_fieldsOf (h.canBeKey_of_mem_groupNames hg) hname]
      rintro rfl
      simp at hother
    · exact h.not_mem_documentNames_of_mem_ungrouped hname
  have hdocuments : ∀ name ∈ form.fieldsOf (.string documentsGroup), name ∈ form.documentNames :=
    fun name hname => (h.mem_documentNames_iff_of_mem_fieldsOf rfl hname).mpr rfl
  rw [order, List.pairwise_append]
  refine ⟨?_, ?_, fun a _ b hb _ => hdocuments b hb⟩
  · exact List.pairwise_of_forall_mem_list fun a ha b _ hdocument =>
      absurd hdocument (hpersonal a ha)
  · exact List.pairwise_of_forall_mem_list fun a _ b hb _ => hdocuments b hb

end Arranged

end FormSchema

/-! ### The hints for the fields -/

namespace DisplayGroup

theorem keys_hints (g : DisplayGroup Text) : Members.keys g.hints = g.fields := by
  rw [hints]
  cases g.fields with
  | nil => rfl
  | cons first rest => simp [Members.keys, Function.comp_def]

/-- Each field of a group has the group's hint, in which the first one is marked. -/
theorem mem_hints {g : DisplayGroup Text} (hn : g.fields.Nodup) {first : Text} {rest : List Text}
    (hfields : g.fields = first :: rest) {name : Text} (hname : name ∈ g.fields) :
    (name, g.hint (decide (name = first))) ∈ g.hints := by
  rw [hfields] at hn hname
  rw [hints, hfields]
  rcases List.mem_cons.mp hname with rfl | hrest
  · rw [decide_eq_true rfl]
    exact List.mem_cons_self
  · have hne : name ≠ first := fun he => (List.nodup_cons.mp hn).1 (he ▸ hrest)
    rw [decide_eq_false hne]
    exact List.mem_cons_of_mem _ (List.mem_map_of_mem hrest)

/-- A hint is an object. -/
theorem exists_object_of_mem_hints {g : DisplayGroup Text} {m : Text × Json} (hm : m ∈ g.hints) :
    ∃ entry, m.2 = .object entry := by
  rw [hints] at hm
  split at hm
  · cases hm
  · rcases List.mem_cons.mp hm with rfl | hm
    · exact ⟨_, rfl⟩
    · obtain ⟨name, -, rfl⟩ := List.mem_map.mp hm
      exact ⟨_, rfl⟩

/-- The hints for the fields of all groups among properties. -/
def entries (ps : List FormProperty) : List (Text × Json) :=
  (firstsBy groupIdentity? ps).flatMap fun p => (among ps p).hints

/-- Every property has one entry. -/
theorem keys_entries_perm (ps : List FormProperty) :
    (Members.keys (entries ps)).Perm (ps.map (·.name)) := by
  have hfields := flatMap_fields_perm ps
  simp only [← keys_hints] at hfields
  rwa [Members.keys, entries, List.map_flatMap]

end DisplayGroup

/-- The hints for properties are the order, and then the entries for those that carry a group. -/
theorem displayHints_formMember_eq {ps : List FormProperty}
    (h : ∀ p ∈ ps, p.groupName.isGroupName = true) (documents : List Text) :
    displayHints (ps.map formMember) documents
      = .ok ((DisplayGroup.entries (groupedOf ps)).foldl (fun hints e => Members.set hints e.1 e.2)
        [(Text.ofString "ui:order", namesJson (displayOrder
          ((firstsBy groupIdentity? (groupedOf ps)).map (DisplayGroup.among (groupedOf ps)))
          ((ps.filter (!·.isGrouped)).map (·.name)) documents))]) := by
  rw [displayHints, displayGroups_formMember_eq h, ok_bind,
    DisplayGroup.foldl_placeProperty (groupsKeyed_groupedOf h), DisplayGroup.entries]
  dsimp only
  rw [List.flatMap_map, List.nil_append]
  rfl

namespace FormSchema

/-- Whether no field that carries a group is named like the list of the order, in whose place its
hint would be. -/
def KeepsOrder (form : FormSchema) : Prop :=
  ∀ m ∈ form.properties, (fieldGroupName? m.2).isSome = true → m.1 ≠ Text.ofString "ui:order"

namespace Arranged

variable {form : FormSchema} {ps : List FormProperty} (h : form.Arranged ps)
  (hkeeps : form.KeepsOrder)

include h hkeeps

/-- The list and the entries have different names. -/
theorem nodup_names :
    (Text.ofString "ui:order" :: Members.keys (DisplayGroup.entries (groupedOf ps))).Nodup := by
  rw [((DisplayGroup.keys_entries_perm (groupedOf ps)).cons _).nodup_iff, List.nodup_cons]
  constructor
  · intro hmem
    obtain ⟨p, hp, hname⟩ := List.mem_map.mp hmem
    obtain ⟨hp, hgrouped⟩ := List.mem_filter.mp hp
    refine hkeeps (formMember p) (h.properties ▸ List.mem_map_of_mem hp) ?_ hname
    rw [fieldGroupName?_formMember, if_pos hgrouped]
    rfl
  · exact (List.filter_sublist.map _).nodup h.nodup

/-- The hints are the order and the entries. -/
theorem hints_eq :
    form.hints = (Text.ofString "ui:order", namesJson form.order)
      :: DisplayGroup.entries (groupedOf ps) := by
  have hdistinct : Members.Distinct ([(Text.ofString "ui:order", namesJson form.order)]
      ++ DisplayGroup.entries (groupedOf ps)) := by
    rw [Members.distinct_iff]
    exact (h.nodup_names hkeeps).imp fun hne => beq_eq_false_iff_ne.mpr hne
  have hhints := h.hints
  rw [displayHints_formMember_eq h.keyed, h.displayOrder_eq, Members.foldl_set hdistinct] at hhints
  exact (Except.ok.inj hhints).symm

/-- A hint is found under its name. -/
theorem get?_hints {name : Text} {hint : Json} (hmem : (name, hint) ∈ form.hints) :
    Members.get? form.hints name = some hint := by
  refine Members.get?_of_mem ?_ hmem
  rw [h.hints_eq hkeeps]
  exact h.nodup_names hkeeps

/-- The fields of a group have one hint, but for the mark of the first one in the order. -/
theorem exists_first {g : Json} (hg : g ∈ form.groupNames) :
    ∃ first label, (form.order.find? fun name => name ∈ form.fieldsOf g) = some first ∧
      ∀ name ∈ form.fieldsOf g, Members.get? form.hints name
        = some (Json.record [("ui:group", g), ("ui:groupLabel", label),
          ("ui:groupFirst", .bool (decide (name = first)))]) := by
  have hblock := isInfix_order hg
  rw [h.groupNames_eq] at hg
  obtain ⟨p, hp, rfl⟩ := List.mem_map.mp hg
  have hmem : p ∈ groupedOf ps := (firstsBy_sublist _ _).mem hp
  have hfields : (DisplayGroup.among (groupedOf ps) p).fields = form.fieldsOf p.groupName :=
    (h.fieldsOf_eq (h.keyed_grouped p hmem)).symm
  -- the property itself is one of its group
  have hsome : form.fieldsOf p.groupName ≠ [] := by
    rw [← hfields]
    exact List.ne_nil_of_mem (List.mem_map_of_mem
      (List.mem_filter.mpr ⟨hmem, beq_self_eq_true _⟩))
  obtain ⟨first, rest, hcons⟩ := List.exists_cons_of_ne_nil hsome
  have hnodup : (form.fieldsOf p.groupName).Nodup := hblock.sublist.nodup h.nodup_order
  refine ⟨first, p.groupLabel, ?_, fun name hname => h.get?_hints hkeeps ?_⟩
  · rw [hcons] at hblock ⊢
    exact find?_mem_eq_of_isInfix hblock h.nodup_order
  · rw [h.hints_eq hkeeps]
    refine List.mem_cons_of_mem _ (List.mem_flatMap.mpr ⟨p, hp, ?_⟩)
    exact DisplayGroup.mem_hints (hfields ▸ hnodup) (hfields.trans hcons) (hfields ▸ hname)

/-- A property has an entry iff it carries a group. -/
theorem exists_entry_iff {m : Text × Json} (hm : m ∈ form.properties) :
    (∃ entry, Members.get? form.hints m.1 = some (.object entry)) ↔
      (fieldGroupName? m.2).isSome = true := by
  rw [h.properties] at hm
  obtain ⟨p, hp, rfl⟩ := List.mem_map.mp hm
  have hkey : p.name ∈ Members.keys (DisplayGroup.entries (groupedOf ps)) ↔
      p.isGrouped = true := by
    rw [(DisplayGroup.keys_entries_perm (groupedOf ps)).mem_iff]
    exact mem_map_name_filter_iff h.nodup hp (·.isGrouped)
  have hgroup : (fieldGroupName? (formMember p).2).isSome = p.isGrouped := by
    rw [fieldGroupName?_formMember]
    cases p.isGrouped <;> rfl
  rw [hgroup, ← hkey]
  constructor
  · rintro ⟨entry, hentry⟩
    have hmem := Members.mem_of_get? hentry
    rw [h.hints_eq hkeeps] at hmem
    rcases List.mem_cons.mp hmem with hlist | hmem
    · -- the order is a list and no object
      have hvalue : Json.object entry = namesJson form.order := congrArg Prod.snd hlist
      rw [namesJson] at hvalue
      cases hvalue
    · exact List.mem_map_of_mem (f := Prod.fst) hmem
  · intro hmem
    obtain ⟨⟨name, hint⟩, hmem, rfl⟩ := List.mem_map.mp hmem
    obtain ⟨q, -, hhint⟩ := List.mem_flatMap.mp hmem
    obtain ⟨entry, rfl⟩ := DisplayGroup.exists_object_of_mem_hints hhint
    refine ⟨entry, h.get?_hints hkeeps ?_⟩
    rw [h.hints_eq hkeeps]
    exact List.mem_cons_of_mem _ hmem

end Arranged

/-- Whether the hints of a form list its fields in order and tell the groups. -/
structure Shows (form : FormSchema) : Prop where
  /-- The order is the list that the hints have. -/
  listed : Members.get? form.hints (Text.ofString "ui:order") = some (namesJson form.order)
  /-- Every field is in it, once. -/
  once : form.order.Perm (Members.keys form.properties)
  /-- A document is followed by documents only. -/
  documentsLast : form.order.Pairwise fun a b => a ∈ form.documentNames → b ∈ form.documentNames
  /-- The fields of a group stand together, in the order of the properties. -/
  together : ∀ g ∈ form.groupNames, form.fieldsOf g <:+: form.order
  /-- Of each group the field that comes first in the order is marked, and no other. -/
  marked : ∀ g ∈ form.groupNames, ∃ first label,
    (form.order.find? fun name => name ∈ form.fieldsOf g) = some first ∧
    ∀ name ∈ form.fieldsOf g, Members.get? form.hints name
      = some (Json.record [("ui:group", g), ("ui:groupLabel", label),
        ("ui:groupFirst", .bool (decide (name = first)))])
  /-- A property has an entry of its own, beside the list, iff it carries a group. -/
  entries : ∀ m ∈ form.properties,
    (∃ entry, Members.get? form.hints m.1 = some (.object entry)) ↔
      (fieldGroupName? m.2).isSome = true

end FormSchema

/-- The hints of a compiled form show every field once, unless a field that carries a group is named
like the list of the order. -/
theorem compileForm_shows {settings : Settings} {fields : FieldInput} {feed : Json}
    {wallet : Wallet.Input} {title benefitId : Json} {form : FormSchema}
    (h : (compileForm settings fields feed wallet title benefitId).outcome = .ok form)
    (hkeeps : form.KeepsOrder) : form.Shows := by
  obtain ⟨ps, harranged⟩ := FormSchema.exists_arranged h
  constructor
  case listed =>
    refine harranged.get?_hints hkeeps ?_
    rw [harranged.hints_eq hkeeps]
    exact List.mem_cons_self
  case once => exact harranged.order_perm
  case documentsLast => exact harranged.pairwise_order
  case together => exact fun g hg => FormSchema.isInfix_order hg
  case marked => exact fun g hg => harranged.exists_first hkeeps hg
  case entries => exact fun m hm => harranged.exists_entry_iff hkeeps hm

/-- Fields of which the first and the fourth one carry equal group names, one without a group, one
among the documents, and one of a group of its own. -/
def mixedGroups : FieldInput :=
  .flat ([("a", .int 1), ("b", .null), ("c", .string documentsGroup), ("d", .bool true),
    ("e", Json.text "g")].map fun e => .declared { name := Text.ofString e.1, groupName := e.2 })

/-- The two groups come first, and the documents of the rules last. -/
theorem compileForm_shows_of_mixedGroups :
    ∃ form, (compileForm .standard mixedGroups clashingRules (.documents []) .null
        .null).outcome = .ok form ∧ form.KeepsOrder ∧ form.Shows ∧
      form.order = ["a", "d", "e", "b", "c", "p", "q"].map Text.ofString := by
  have hany : ((compileForm .standard mixedGroups clashingRules (.documents []) .null
      .null).outcome.toOption.any fun form =>
        (∀ m ∈ form.properties, (fieldGroupName? m.2).isSome = true →
          m.1 ≠ Text.ofString "ui:order") ∧
        form.order = ["a", "d", "e", "b", "c", "p", "q"].map Text.ofString) = true := by
    decide +kernel
  obtain ⟨form, hform, hof⟩ := exists_ok_of_any hany
  obtain ⟨hkeeps, horder⟩ := of_decide_eq_true hof
  exact ⟨form, hform, hkeeps, compileForm_shows hform hkeeps, horder⟩

end BenefitForm
