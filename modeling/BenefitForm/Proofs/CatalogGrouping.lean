import BenefitForm.Proofs.CatalogFeed
import BenefitForm.Proofs.DisplayGroups
import BenefitForm.Proofs.Gathered
import BenefitForm.Proofs.GroupedInput

/-!
# Catalog fields of one name

The field records of a catalog are gathered by their fieldsets before they are compiled,
so the first record of a name among the gathered ones becomes the property, which need
not be the first one in the catalog.

- `FieldGroup.ofRecords_eq_ok_iff`: the fieldsets of records.
- `FieldGroup.fields_read_input`: the fields that the fieldsets hold.
- `Compiled.keeps`: the property of a declared name.
- `compileCatalog_keeps`: which record a property of a catalog's form is built from, and
  when it is the one that the records without their fieldsets give.
-/

namespace BenefitForm

/-! ### Fieldsets of records -/

namespace FieldGroup

/-- The name of the fieldset of a record. -/
def nameOf (record : Members) : Json :=
  valueOr defaultGroup (Json.member record "fieldsGroupName")

/-- The label that a record gives its fieldset. -/
def labelOf (record : Members) : Json :=
  valueOr defaultGroupLabel (Json.member record "fieldsGroupLabel")

/-- What tells the fieldset of a record from others. -/
def identityOf (record : Members) : Option KeyIdentity := (nameOf record).identity?

/-- Put a record into its fieldset. -/
def placeRecord (groups : List FieldGroup) (record : Members) : List FieldGroup :=
  place groups (nameOf record) (labelOf record) (.object record)

/-- A fieldset that a record has founded, with its records. -/
def founded (record : Members) (rs : List Members) : FieldGroup :=
  ⟨nameOf record, labelOf record, rs.map .object⟩

/-- The fieldset of a record among others, with the label of the record. -/
def among (records : List Members) (record : Members) : FieldGroup :=
  founded record (records.filter fun r => identityOf r == identityOf record)

variable {records : List Members}

/-- Records are gathered iff the names of their fieldsets are keys. -/
theorem gather_eq_ok_iff {groups groups' : List FieldGroup} :
    gather groups (records.map .object) = .ok groups' ↔
      (∀ r ∈ records, (nameOf r).canBeKey = true) ∧ groups' = records.foldl placeRecord groups := by
  induction records generalizing groups with
  | nil =>
    constructor
    · rintro ⟨⟩
      exact ⟨List.forall_mem_nil _, rfl⟩
    · rintro ⟨-, rfl⟩
      rfl
  | cons r rest ih =>
    rw [List.map_cons, gather, List.forall_mem_cons, List.foldl_cons]
    show (if (nameOf r).canBeKey then gather (placeRecord groups r) _ else _) = _ ↔ _
    by_cases hkey : (nameOf r).canBeKey = true
    · rw [if_pos hkey, ih, and_assoc]
      simp only [hkey, true_and]
    · rw [if_neg hkey]
      simp [hkey]

/-- One fieldset for each name, in order of first appearance. -/
theorem foldl_placeRecord (h : ∀ r ∈ records, (nameOf r).canBeKey = true) :
    records.foldl placeRecord [] = (firstsBy identityOf records).map (among records) := by
  have hhits : ∀ r ∈ records, ∀ q ∈ records, ∀ qs,
      ((founded q qs).name == nameOf r) = (identityOf q == identityOf r) :=
    fun r hr q hq _ => Json.beq_eq_identity (h q hq) (h r hr)
  have hjoin : ∀ r q qs, { founded q qs with records := (founded q qs).records ++ [.object r] }
      = founded q (qs ++ [r]) := by
    intro r q qs
    rw [founded, founded, List.map_append]
    rfl
  exact foldl_place_eq identityOf founded (fun r g => g.name == nameOf r)
    (fun r g => { g with records := g.records ++ [.object r] }) hhits hjoin

/-- The fieldsets of a list of records. -/
theorem ofRecords_eq_ok_iff {groups : List FieldGroup} :
    ofRecords (.array (records.map .object)) = .ok groups ↔
      (∀ r ∈ records, (nameOf r).canBeKey = true) ∧
        groups = (firstsBy identityOf records).map (among records) := by
  show gather [] (records.map .object) = .ok groups ↔ _
  rw [gather_eq_ok_iff]
  refine and_congr_right fun hkeys => ?_
  rw [foldl_placeRecord hkeys]

/-! ### The fields of fieldsets -/

/-- The entries of a fieldset, in its place. -/
def placedOf (g : FieldGroup) : List PlacedEntry :=
  g.records.map fun r => ⟨.record r, g.name, g.label⟩

/-- The members of a fieldset in a field mapping. -/
def entryMembers (g : FieldGroup) : Members :=
  [(Text.ofString "label", g.label), (Text.ofString "fields", .array g.records)]

theorem contents_entry (g : FieldGroup) :
    g.entry.2.contents = .ok (some (g.label, g.records.map .record)) := by
  have hrecords : (Json.array g.records).iterateOrEmpty = .ok g.records := by
    cases hg : g.records <;> rfl
  have hfields : Json.member g.entryMembers "fields" = .array g.records := rfl
  have hlabel : Members.get? g.entryMembers (Text.ofString "label") = some g.label := rfl
  show FieldGroupEntry.contents (.record (.object g.entryMembers)) = _
  rw [FieldGroupEntry.contents, hfields, hrecords, hlabel]
  rfl

theorem placed_entries (groups : List FieldGroup) :
    FieldInput.placed (groups.map entry) = .ok (groups.flatMap placedOf) := by
  induction groups with
  | nil => rfl
  | cons g groups ih =>
    rw [List.map_cons, FieldInput.placed, contents_entry, ok_bind, ih, ok_bind, List.flatMap_cons]
    show Except.ok
      ((g.records.map FieldEntry.record).map (PlacedEntry.mk · g.name g.label) ++ _) = _
    rw [List.map_map]
    rfl

/-- The field that a record declares, if it is well-formed. -/
def declared? (record : Members) : Option DeclaredField :=
  (DeclaredField.ofJson (.object record)).toOption

/-- The first record of the fieldset of a record. -/
def headOf (records : List Members) (record : Members) : Members :=
  (records.find? fun r => identityOf r == identityOf record).getD record

/-- The field that a record declares, in the fieldset of the record: the first record of the
fieldset gives the name and the label. -/
def placedField? (records : List Members) (record : Members) : Option DeclaredField :=
  (declared? record).map
    (DeclaredField.inGroup (nameOf (headOf records record)) (labelOf (headOf records record)))

/-- The fields that are read from the fieldsets of records are those of the gathered records. -/
theorem fields_read_input {groups : List FieldGroup}
    (hgroups : groups = (firstsBy identityOf records).map (among records))
    (hread : (input groups).read.failure? = none) :
    (input groups).read.fields
      = (gathered identityOf records).filterMap (placedField? records) := by
  have htagged := FieldInput.readGroups_eq_tagged (placed_entries groups) 0
  change (input groups).read = _ at htagged
  rw [htagged] at hread ⊢
  rw [FieldReading.fields_tagged hread, hgroups, List.filterMap_flatMap, List.flatMap_map, gathered,
    List.filterMap_flatMap]
  refine List.flatMap_congr fun x hx => ?_
  rw [placedOf, among, founded, List.map_map, List.filterMap_map]
  refine List.filterMap_congr fun r hr => ?_
  -- the records of a fieldset have one head
  have hkey : identityOf r = identityOf x := beq_iff_eq.mp (List.mem_filter.mp hr).2
  have hhead : headOf records r = x := by
    rw [headOf, hkey, (mem_firstsBy_iff identityOf).mp hx, Option.getD_some]
  rw [placedField?, hhead]
  rfl

end FieldGroup

/-! ### Properties of declared names -/

/-- A form has the property of a field under a name, and requires the name if the field is
required. -/
structure FormSchema.Keeps (form : FormSchema) (name : Text) (f : DeclaredField) : Prop where
  property : Members.get? form.properties name = some (.object f.property.formMembers)
  required : name ∈ form.required ↔ f.required = true

namespace Compiled

variable {settings : Settings} {fields : FieldInput} {feed : Json} {wallet : Wallet.Input}
  {form : FormSchema} {rules : NormalizedRules} {documents : List WalletDocument}
  {plans : List DocumentPlan}

/-- Of a name that is declared the first field is kept. -/
theorem keeps (h : Compiled settings fields feed wallet form rules documents plans)
    {name : Text} {f : DeclaredField}
    (hf : fields.read.fields.find? (fun f => f.name == name) = some f) : form.Keeps name f := by
  have hname : f.name = name :=
    beq_iff_eq.mp (List.find?_some (p := fun f : DeclaredField => f.name == name) hf)
  subst hname
  have hp : f.property ∈ formProperties settings fields.read.fields documents plans := by
    rw [formProperties, mem_firstsBy_iff, candidates, List.find?_append, List.find?_map]
    show (Option.map DeclaredField.property
      (fields.read.fields.find? fun g => g.name == f.name)).or _ = _
    rw [hf]
    rfl
  refine ⟨h.get?_properties hp, ?_⟩
  rw [h.required]
  exact FormProperty.mem_map_name_filter_iff (nodup_formProperties ..) hp (·.required)

/-- A property that is no document is that of a declared field. -/
theorem exists_declared (h : Compiled settings fields feed wallet form rules documents plans)
    {name : Text} (hname : name ∈ Members.keys form.properties)
    (hdocument : name ∉ form.documentNames) : ∃ f ∈ fields.read.fields, f.name = name := by
  rw [h.keys_properties] at hname
  obtain ⟨p, hp, rfl⟩ := List.mem_map.mp hname
  rcases List.mem_append.mp ((firstsBy_sublist _ _).mem hp) with hdeclared | hplanned
  · obtain ⟨f, hf, rfl⟩ := List.mem_map.mp hdeclared
    exact ⟨f, hf, rfl⟩
  · obtain ⟨plan, -, rfl⟩ := List.mem_map.mp hplanned
    have hsubmitted : (plan.property settings documents).isSubmitted = true := by
      rw [FormProperty.isSubmitted, FormProperty.isDocument]
      rfl
    exact absurd (h.mem_documentNames_iff.mpr ⟨_, hp, hsubmitted, rfl⟩) hdocument

end Compiled

namespace FieldGroup

/-- Whether a record declares a field of the name. -/
def declares (name : Text) (record : Members) : Bool :=
  (declared? record).any fun f => f.name == name

variable {records : List Members} {name : Text} {r : Members}

theorem exists_of_declares (h : declares name r = true) :
    ∃ f, DeclaredField.ofJson (.object r) = .ok f ∧ declared? r = some f := by
  rw [declares, declared?] at h
  cases hof : DeclaredField.ofJson (.object r) with
  | error e =>
    rw [hof] at h
    cases h
  | ok f => exact ⟨f, rfl, by rw [declared?, hof]; rfl⟩

/-- The fieldset of a record does not tell which name it declares. -/
theorem any_placedField? (records : List Members) (name : Text) (r : Members) :
    (placedField? records r).any (fun f => f.name == name) = declares name r := by
  rw [placedField?, Option.any_map]
  rfl

/-- The first field of a name among the gathered ones. -/
theorem find?_gathered (hr : (gathered identityOf records).find? (declares name) = some r) :
    ((gathered identityOf records).filterMap (placedField? records)).find?
      (fun f => f.name == name) = placedField? records r := by
  rw [List.find?_filterMap]
  simp only [any_placedField?]
  rw [hr, Option.bind_some]

/-- The first field of a name in the order of the records. -/
theorem find?_declared (hr : records.find? (declares name) = some r) :
    (records.filterMap declared?).find? (fun f => f.name == name) = declared? r := by
  rw [List.find?_filterMap]
  show (records.find? (declares name)).bind declared? = _
  rw [hr, Option.bind_some]

end FieldGroup

open FieldGroup

/-! ### The form of a catalog -/

theorem Catalog.exists_records {response : Json} {item : CatalogItem}
    (h : (parse response).outcome = .ok item) :
    ∃ records : List Members, item.fields = records.map .object := by
  have hform : item.fields = _ := ((parse_eq_ok_iff.mp h).2 .form).2
  have hobject : ∀ v ∈ item.fields, v ∈ Set.range Json.object := by
    intro v hv
    rw [hform] at hv
    obtain ⟨entry, -, hvalue⟩ := List.mem_filterMap.mp hv
    have hkept : v.asObject?.isSome = true := (Option.filter_eq_some_iff.mp hvalue).2
    obtain ⟨members, hmembers⟩ := Option.isSome_iff_exists.mp hkept
    exact ⟨members, (asObject?_eq_some_iff.mp hmembers).symm⟩
  obtain ⟨records, hrecords⟩ : item.fields ∈ Set.range (List.map Json.object) := by
    rw [Set.range_list_map]
    exact hobject
  exact ⟨records, hrecords.symm⟩

/-- The records of one name: `r` is the one that a form keeps, `first` the first in the order of
the catalog. -/
structure KeptRecord (records : List Members) (form : FormSchema) (name : Text)
    (r first : Members) : Prop where
  /-- The kept one is the first of its fieldset, and the name has no record in a fieldset that
  starts earlier. -/
  gathered : FirstGathered identityOf (declares name) records r
  /-- The form has its field; the first record of the fieldset gives its name and label. -/
  kept : ∃ head f, records.find? (fun q => identityOf q == identityOf r) = some head ∧
    DeclaredField.ofJson (.object r) = .ok f ∧
    form.Keeps name (f.inGroup (nameOf head) (labelOf head))
  /-- The first one is the first that declares the name at all. -/
  ungrouped : records.find? (declares name) = some first
  /-- Every form of the records without their fieldsets has its field. -/
  flat : ∃ f, DeclaredField.ofJson (.object first) = .ok f ∧
    ∀ settings feed wallet title benefitId form',
      (compileForm settings (.flat ((records.map .object).map .record)) feed wallet title
        benefitId).outcome = .ok form' → form'.Keeps name f
  /-- They are one record iff no fieldset with a record of the name starts before that of the
  first. -/
  same : r = first ↔ ∀ q ∈ records, declares name q = true →
    startOf identityOf records (identityOf first) ≤ startOf identityOf records (identityOf q)

/-- Every property of a catalog's form that is no document is declared by a record, and is built
from the first record of the name in the order of the fieldsets. -/
theorem compileCatalog_keeps {settings : Settings} {catalog prefill benefitId : Json}
    {compiled : CompiledForm}
    (h : (compileCatalog settings catalog prefill benefitId).outcome = .ok compiled) :
    ∃ (item : CatalogItem) (records : List Members), (Catalog.parse catalog).outcome = .ok item ∧
      item.fields = records.map .object ∧
      (∀ name ∈ Members.keys compiled.form.properties, name ∉ compiled.form.documentNames →
        records.any (declares name) = true) ∧
      ∀ name, records.any (declares name) = true →
        ∃ r first, KeptRecord records compiled.form name r first := by
  simp only [compileCatalog, Trace.outcome_bind, Trace.outcome_liftFault, bind_eq_ok_iff,
    mapError_eq_ok_iff] at h
  obtain ⟨item, hparse, payload, -, groups, hgroups, form, hform, data, -, hpure⟩ := h
  cases hpure
  obtain ⟨records, hrecords⟩ := Catalog.exists_records hparse
  rw [hrecords] at hgroups
  obtain ⟨rules, documents, plans, hc⟩ := compileForm_ok hform
  have hfields := fields_read_input (ofRecords_eq_ok_iff.mp hgroups).2 hc.fields_read
  refine ⟨item, records, hparse, hrecords, fun name hname hdocument => ?_, fun name hany => ?_⟩
  · obtain ⟨f, hf, hfname⟩ := hc.exists_declared hname hdocument
    rw [hfields] at hf
    obtain ⟨r, hr, hplaced⟩ := List.mem_filterMap.mp hf
    refine List.any_eq_true.mpr ⟨r, mem_gathered.mp hr, ?_⟩
    rw [← any_placedField? records, hplaced]
    exact beq_iff_eq.mpr hfname
  obtain ⟨q, hq, hdeclares⟩ := List.any_eq_true.mp hany
  have hsome : ((gathered identityOf records).find? (declares name)).isSome = true :=
    List.find?_isSome.mpr ⟨q, mem_gathered.mpr hq, hdeclares⟩
  obtain ⟨r, hr⟩ := Option.isSome_iff_exists.mp hsome
  obtain ⟨first, hfirst⟩ := Option.isSome_iff_exists.mp (List.find?_isSome.mpr ⟨q, hq, hdeclares⟩)
  have hgathered := firstGathered_of_find? hr
  refine ⟨r, first, hgathered, ?_, hfirst, ?_, hgathered.eq_iff hfirst⟩
  · obtain ⟨f, hof, hf⟩ := exists_of_declares hgathered.test_eq
    have hsome : (records.find? fun q => identityOf q == identityOf r).isSome = true :=
      List.find?_isSome.mpr ⟨r, hgathered.mem, beq_self_eq_true (identityOf r)⟩
    obtain ⟨head, hhead⟩ := Option.isSome_iff_exists.mp hsome
    refine ⟨head, f, hhead, hof, hc.keeps ?_⟩
    rw [hfields, find?_gathered hr, placedField?, hf, headOf, hhead]
    rfl
  · obtain ⟨f, hof, hf⟩ := exists_of_declares (List.find?_some hfirst)
    refine ⟨f, hof, fun settings feed wallet title benefitId form' hform' => ?_⟩
    obtain ⟨rules', documents', plans', hc'⟩ := compileForm_ok hform'
    refine hc'.keeps ?_
    rw [FieldInput.read, FieldReading.fields_ofRecords hc'.fields_read, List.map_id, declaredFields,
      List.filterMap_map]
    exact (find?_declared hfirst).trans hf

/-- A catalog whose item has the given field records. -/
def catalogWith (records : List Json) : Json :=
  let list := records.map fun r =>
    Json.record [("value", .string ((Json.write .compact r).toOption.getD []))]
  let tag := Json.record [("descriptor", Json.record [("code", Json.text "applicationForm")]),
    ("list", .array list)]
  let provider := Json.record [("items", .array [Json.record [("tags", .array [tag])]])]
  let message := Json.record [("catalog", Json.record [("providers", .array [provider])])]
  Json.record [("responses", .array [Json.record [("message", message)]])]

/-- A field record with a fieldset. -/
def catalogRecord (name label group : String) : Json :=
  Json.record [("name", Json.text name), ("label", Json.text label),
    ("fieldsGroupName", Json.text group)]

/-- Two records of one name: the second is of the fieldset that starts first. -/
def crossedCatalog : Json :=
  catalogWith [catalogRecord "b" "other" "g", catalogRecord "a" "first" "h",
    catalogRecord "a" "second" "g"]

/-- Whether a form has a field with this title. -/
def FormSchema.hasTitle (form : FormSchema) (name title : String) : Bool :=
  match Members.get? form.properties (Text.ofString name) with
  | some (.object members) => Json.member members "title" == Json.text title
  | _ => false

theorem compileCatalog_keeps_of_crossed :
    ∃ compiled, (compileCatalog .standard crossedCatalog .null .null).outcome = .ok compiled ∧
      ∃ (item : CatalogItem) (records : List Members),
        (Catalog.parse crossedCatalog).outcome = .ok item ∧ item.fields = records.map .object ∧
        (∀ name ∈ Members.keys compiled.form.properties, name ∉ compiled.form.documentNames →
          records.any (declares name) = true) ∧
        ∀ name, records.any (declares name) = true →
          ∃ r first, KeptRecord records compiled.form name r first := by
  have hcompiled : ((compileCatalog .standard crossedCatalog .null .null).outcome.toOption.any
      fun _ => true) = true := by decide +kernel
  obtain ⟨compiled, h, -⟩ := exists_ok_of_any hcompiled
  exact ⟨compiled, h, compileCatalog_keeps h⟩

/-- The record that is kept need not be the first one of its name, which the records without their
fieldsets would give. -/
theorem compileCatalog_crosses :
    ∃ compiled item form, (compileCatalog .standard crossedCatalog .null .null).outcome
        = .ok compiled ∧
      (Catalog.parse crossedCatalog).outcome = .ok item ∧
      (compileForm .standard (.flat (item.fields.map .record)) .null (.documents []) .null
        .null).outcome = .ok form ∧
      compiled.form.hasTitle "a" "second" = true ∧ compiled.form.hasTitle "a" "first" = false ∧
      form.hasTitle "a" "first" = true := by
  have hcompiled : ((compileCatalog .standard crossedCatalog .null .null).outcome.toOption.any
      fun compiled => compiled.form.hasTitle "a" "second" && !compiled.form.hasTitle "a" "first")
        = true := by decide +kernel
  have hflat : ((Catalog.parse crossedCatalog).outcome.toOption.any fun item =>
      (compileForm .standard (.flat (item.fields.map .record)) .null (.documents []) .null
        .null).outcome.toOption.any fun form => form.hasTitle "a" "first") = true := by
    decide +kernel
  obtain ⟨compiled, hof, htitles⟩ := exists_ok_of_any hcompiled
  obtain ⟨item, hitem, hform⟩ := exists_ok_of_any hflat
  obtain ⟨form, hform, hfirst⟩ := exists_ok_of_any hform
  rw [Bool.and_eq_true, Bool.not_eq_true'] at htitles
  exact ⟨compiled, item, form, hof, hitem, hform, htitles.1, htitles.2, hfirst⟩

end BenefitForm
