import BenefitForm.Proofs.Compilation
import BenefitForm.Proofs.KeyIdentity

/-!
# The groups of a form

A form says of each property in which group it is shown. The groups are told by the
names that properties carry (`FormSchema.groupNames`, `FormSchema.fieldsOf`), and
names are equal as keys are: `1` and `true` name one group. The program collects the
groups property by property instead; what it ends with has a description without
the order of the steps (`displayGroups_formMember_eq`).

- `DisplayGroup.among`: the group of a property among others.
- `FormSchema.Arranged`: what is known of the properties and hints of a form.
- `Arranged.groupNames_eq`, `Arranged.fieldsOf_eq`: the groups that the properties
  tell are those that are collected.
-/

namespace BenefitForm

open FormProperty

/-! ### What the properties tell -/

/-- The name of the group that a property carries. -/
def fieldGroupName? : Json → Option Json
  | .object members =>
    match Json.member members "fieldGroup" with
    | .object group => some (Json.member group "groupName")
    | _ => none
  | _ => none

namespace FormSchema

/-- The names of the groups, in order of first appearance. -/
def groupNames (form : FormSchema) : List Json :=
  ProofSet.distinct (form.properties.filterMap fun m => fieldGroupName? m.2)

/-- The names of the fields that carry a group, in the order of the properties. -/
def fieldsOf (form : FormSchema) (group : Json) : List Text :=
  Members.keys (form.properties.filter fun m => (fieldGroupName? m.2).any (· == group))

/-- The names of the fields that carry no group, in the order of the properties. -/
def ungrouped (form : FormSchema) : List Text :=
  Members.keys (form.properties.filter fun m => (fieldGroupName? m.2).isNone)

end FormSchema

/-! ### Properties of one group -/

namespace FormProperty

/-- Whether the property carries a group. -/
def isGrouped (p : FormProperty) : Bool := p.groupName.truthy

/-- What tells the group of the property from others. -/
def groupIdentity? (p : FormProperty) : Option KeyIdentity := p.groupName.identity?

theorem fieldGroupName?_formMember (p : FormProperty) :
    fieldGroupName? (formMember p).2 = if p.isGrouped then some p.groupName else none := by
  rw [formMember, fieldGroupName?, member_fieldGroup, isGrouped]
  cases p.groupName.truthy with
  | false => rfl
  | true => exact congrArg some (member_groupName p.groupName p.groupLabel)

/-- Where the names differ, a name tells whether its property is among those that pass a test. -/
theorem mem_map_name_filter_iff {ps : List FormProperty}
    (hn : (ps.map (·.name)).Nodup) {p : FormProperty} (hp : p ∈ ps) (test : FormProperty → Bool) :
    p.name ∈ (ps.filter test).map (·.name) ↔ test p = true := by
  rw [List.mem_map]
  constructor
  · rintro ⟨q, hq, hname⟩
    obtain ⟨hq, htest⟩ := List.mem_filter.mp hq
    rwa [← List.inj_on_of_nodup_map hn hq hp hname]
  · intro htest
    exact ⟨p, List.mem_filter.mpr ⟨hp, htest⟩, rfl⟩

end FormProperty

/-- Whether the names of the groups that properties carry are keys. -/
def GroupsKeyed (ps : List FormProperty) : Prop := ∀ p ∈ ps, p.groupName.canBeKey = true

/-- The properties that carry a group. -/
def groupedOf (ps : List FormProperty) : List FormProperty := ps.filter (·.isGrouped)

theorem filterMap_fieldGroupName? (ps : List FormProperty) :
    (ps.map formMember).filterMap (fun m => fieldGroupName? m.2)
      = (groupedOf ps).map (·.groupName) := by
  induction ps with
  | nil => rfl
  | cons p ps ih =>
    rw [List.map_cons, List.filterMap_cons, fieldGroupName?_formMember, ih, groupedOf, groupedOf,
      List.filter_cons]
    cases p.isGrouped <;> rfl

theorem groupsKeyed_groupedOf {ps : List FormProperty}
    (h : ∀ p ∈ ps, p.groupName.isGroupName = true) : GroupsKeyed (groupedOf ps) := by
  intro p hp
  obtain ⟨hmem, hgrouped⟩ := List.mem_filter.mp hp
  have hname := h p hmem
  rw [Json.isGroupName, Bool.or_eq_true, Bool.not_eq_true'] at hname
  exact hname.resolve_left fun hfalse => Bool.false_ne_true (hfalse.symm.trans hgrouped)

/-! ### Collecting the groups -/

namespace DisplayGroup

/-- The group of a property among others. -/
def among (ps : List FormProperty) (p : FormProperty) : DisplayGroup Text where
  name := p.groupName
  label := p.groupLabel
  fields := (ps.filter fun q => q.groupIdentity? == p.groupIdentity?).map (·.name)

/-- Put a property into its group. -/
def placeProperty (groups : List (DisplayGroup Text)) (p : FormProperty) :
    List (DisplayGroup Text) := place groups p.groupName p.groupLabel p.name

/-- A group that a property has founded, with its properties. -/
def founded (p : FormProperty) (qs : List FormProperty) : DisplayGroup Text :=
  ⟨p.groupName, p.groupLabel, qs.map (·.name)⟩

/-- One group for each group name, in order of first appearance. -/
theorem foldl_placeProperty {ps : List FormProperty} (h : GroupsKeyed ps) :
    ps.foldl placeProperty [] = (firstsBy groupIdentity? ps).map (among ps) := by
  have hhits : ∀ p ∈ ps, ∀ q ∈ ps, ∀ qs,
      ((founded q qs).name == p.groupName) = (q.groupIdentity? == p.groupIdentity?) :=
    fun p hp q hq _ => Json.beq_eq_identity (h q hq) (h p hp)
  have hjoin : ∀ p q qs, { founded q qs with fields := (founded q qs).fields ++ [p.name] }
      = founded q (qs ++ [p]) := by
    intro p q qs
    rw [founded, founded, List.map_append]
    rfl
  exact foldl_place_eq groupIdentity? founded (fun p g => g.name == p.groupName)
    (fun p g => { g with fields := g.fields ++ [p.name] }) hhits hjoin

/-- The groups have every property once. -/
theorem flatMap_fields_perm (ps : List FormProperty) :
    ((firstsBy groupIdentity? ps).flatMap fun p => (among ps p).fields).Perm
      (ps.map (·.name)) := by
  have hfirsts := (flatMap_firstsBy_perm groupIdentity? ps).map (·.name)
  rwa [List.map_flatMap] at hfirsts

end DisplayGroup

/-- The groups and the other fields of properties, where the names of the groups are keys. -/
theorem displayGroups_formMember_eq {ps : List FormProperty}
    (h : ∀ p ∈ ps, p.groupName.isGroupName = true) (groups : List (DisplayGroup Text))
    (names : List Text) :
    displayGroups (ps.map formMember) groups names
      = .ok ((groupedOf ps).foldl DisplayGroup.placeProperty groups,
        names ++ (ps.filter (!·.isGrouped)).map (·.name)) := by
  -- the groups and names that were collected before are arbitrary, for the induction on the rest
  induction ps generalizing groups names with
  | nil => simp [displayGroups, groupedOf]
  | cons p ps ih =>
    obtain ⟨hp, hps⟩ := List.forall_mem_cons.mp h
    rw [List.map_cons, displayGroups_formMember_cons, groupedOf, List.filter_cons,
      List.filter_cons, isGrouped]
    cases hgrouped : p.groupName.truthy with
    | false =>
      rw [if_neg Bool.false_ne_true, ih hps, List.append_assoc]
      rfl
    | true =>
      have hkey : p.groupName.canBeKey = true := by
        rwa [Json.isGroupName, hgrouped] at hp
      rw [if_pos rfl, if_pos hkey, ih hps]
      rfl

/-! ### Compiled forms -/

namespace FormSchema

/-- What is known of the hints of a form: the form has certain properties with different names, the
names of their groups are keys, and its documents are the documents group. -/
structure Arranged (form : FormSchema) (ps : List FormProperty) : Prop where
  properties : form.properties = ps.map formMember
  documentNames : form.documentNames = (ps.filter (·.isSubmitted)).map (·.name)
  hints : displayHints (ps.map formMember) form.documentNames = .ok form.hints
  nodup : (ps.map (·.name)).Nodup
  keyed : ∀ p ∈ ps, p.groupName.isGroupName = true
  submitted : ∀ p ∈ ps, p.isSubmitted = (p.groupName == .string documentsGroup)

/-- Every compiled form is of this kind. -/
theorem exists_arranged {settings : Settings} {fields : FieldInput} {feed : Json}
    {wallet : Wallet.Input} {title benefitId : Json} {form : FormSchema}
    (h : (compileForm settings fields feed wallet title benefitId).outcome = .ok form) :
    ∃ ps, form.Arranged ps := by
  obtain ⟨rules, documents, plans, -, -, -, -, hform⟩ := compileForm_eq_ok_iff.mp h
  refine ⟨formProperties settings fields.read.fields documents plans, ?_⟩
  have hkeyed := map_ofProperties (formProperties settings fields.read.fields documents plans) title
    (compilationWarnings settings fields.read rules documents plans)
  rw [hform] at hkeyed
  obtain ⟨hints, hhints, hpure⟩ := bind_eq_ok_iff.mp hform
  cases hpure
  constructor
  case properties => rfl
  case documentNames => rfl
  case hints => exact mapError_eq_ok_iff.mp hhints
  case nodup => exact nodup_formProperties _ _ _ _
  -- a group with another name would have been a fault
  case keyed =>
    split at hkeyed
    · rename_i hall
      exact List.all_eq_true.mp hall
    · cases hkeyed
  case submitted =>
    refine forall_mem_formProperties (Q := fun p => p.isSubmitted =
      (p.groupName == .string documentsGroup)) (fun f => ?_) fun plan => ?_
    · rw [isSubmitted, isDocument, DeclaredField.property]
      rfl
    · -- a document field carries the documents group
      rw [isSubmitted, isDocument]
      rfl

end FormSchema

/-! ### The groups of a form -/

namespace FormSchema.Arranged

variable {form : FormSchema} {ps : List FormProperty} (h : form.Arranged ps)

include h

theorem keyed_grouped : GroupsKeyed (groupedOf ps) := groupsKeyed_groupedOf h.keyed

/-- The groups are named as by the properties that appear first. -/
theorem groupNames_eq :
    form.groupNames = (firstsBy groupIdentity? (groupedOf ps)).map (·.groupName) := by
  have hkeys : ∀ g ∈ (groupedOf ps).map (·.groupName), g.canBeKey = true := by
    rintro g hg
    obtain ⟨p, hp, rfl⟩ := List.mem_map.mp hg
    exact h.keyed_grouped p hp
  -- names that are keys are equal iff their identities are
  have hbeq : ∀ g ∈ (groupedOf ps).map (·.groupName), ∀ g' ∈ (groupedOf ps).map (·.groupName),
      (g == g') = (g.identity? == g'.identity?) :=
    fun g hg g' hg' => Json.beq_eq_identity (hkeys g hg) (hkeys g' hg')
  rw [groupNames, h.properties, filterMap_fieldGroupName?, distinct_eq_firstsBy_of Json.identity? hbeq]
  exact (firstsBy_map Json.identity? (·.groupName) (groupedOf ps)).symm

theorem canBeKey_of_mem_groupNames {g : Json} (hg : g ∈ form.groupNames) : g.canBeKey = true := by
  rw [h.groupNames_eq] at hg
  obtain ⟨p, hp, rfl⟩ := List.mem_map.mp hg
  exact h.keyed_grouped p ((firstsBy_sublist _ _).mem hp)

/-- The fields of a group are the properties of its name. -/
theorem fieldsOf_eq {g : Json} (hg : g.canBeKey = true) :
    form.fieldsOf g
      = ((groupedOf ps).filter fun p => p.groupIdentity? == g.identity?).map (·.name) := by
  rw [fieldsOf, h.properties, List.filter_map, keys_map_formMember, groupedOf, List.filter_filter]
  refine congrArg (List.map FormProperty.name) (List.filter_congr fun p hp => ?_)
  rw [Function.comp_apply, fieldGroupName?_formMember]
  by_cases hgrouped : p.isGrouped = true
  · have hkey : p.groupName.canBeKey = true :=
      h.keyed_grouped p (List.mem_filter.mpr ⟨hp, hgrouped⟩)
    rw [if_pos hgrouped, hgrouped, Bool.and_true, Option.any_some]
    exact Json.beq_eq_identity hkey hg
  · rw [if_neg hgrouped, Bool.eq_false_iff.mpr hgrouped, Bool.and_false]
    rfl

theorem ungrouped_eq : form.ungrouped = (ps.filter (!·.isGrouped)).map (·.name) := by
  rw [ungrouped, h.properties, List.filter_map, keys_map_formMember]
  refine congrArg (List.map FormProperty.name) (List.filter_congr fun p _ => ?_)
  rw [Function.comp_apply, fieldGroupName?_formMember]
  cases p.isGrouped <;> rfl

end FormSchema.Arranged

end BenefitForm
