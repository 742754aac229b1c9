import BenefitForm.Schema
import BenefitForm.Proofs.Property
import BenefitForm.Proofs.Registry

/-!
# Joining the parts of a form

The application fields come first and keep their names; of the document fields
those with a free name follow (`mergeProperties_of_nodup`). Then the marks of
required properties move into a list of names (`hoistRequired_toJson`). Both are
stated for properties as the builders write them, so that the later stages know
each property of a form as a `FormProperty` without its mark.

- `formMember`: a property as a form holds it.
- `documentNames_formMember`: the names of the document fields.
- `missingDocuments_formMember`: those whose selector has no real option.
- `FormSchema.outcome_assemble`: what two parts are joined to, the form of certain
  properties (`FormSchema.ofProperties`).
-/

namespace BenefitForm

namespace FormProperty

/-- A property as a builder hands it on. -/
def builtMember (p : FormProperty) : Text × Json := (p.name, p.toJson)

/-- A property as a form holds it. -/
def formMember (p : FormProperty) : Text × Json := (p.name, .object p.formMembers)

/-- The properties of a form are found under their names. -/
theorem keys_map_formMember (ps : List FormProperty) :
    Members.keys (ps.map formMember) = ps.map (·.name) := by
  rw [Members.keys, List.map_map]
  rfl

/-- The name in the record of a group. -/
theorem member_groupName (name label : Json) :
    Json.member [(Text.ofString "groupName", name), (Text.ofString "groupLabel", label)]
      "groupName" = name := rfl

/-- The label in the record of a group. -/
theorem member_groupLabel (name label : Json) :
    Json.member [(Text.ofString "groupName", name), (Text.ofString "groupLabel", label)]
      "groupLabel" = label := rfl

/-- Whether a property is submitted as a document. -/
def isSubmitted (p : FormProperty) : Bool :=
  p.isDocument || p.groupName == .string documentsGroup

/-- Whether a property is a selector without a real option. -/
def hasNoOption (p : FormProperty) : Bool := p.values?.any fun vs => vs.all (·.isEmpty)

end FormProperty

open FormProperty

/-! ### Merging -/

namespace FormSchema

/-- Of further properties with different names those with a free name are added, and the others
are reported. -/
theorem mergeProperties_of_nodup {κ : Type} [BEq κ] [LawfulBEq κ] (ms : List (κ × Json))
    {ns : List (κ × Json)} (hn : (Members.keys ns).Nodup) :
    mergeProperties ms ns
      = (ms ++ ns.filter fun m => m.1 ∉ Members.keys ms,
        Members.keys (ns.filter fun m => m.1 ∈ Members.keys ms)) := by
  induction ns generalizing ms with
  | nil => simp [mergeProperties, Members.keys]
  | cons m ns ih =>
    rw [Members.keys, List.map_cons, List.nodup_cons] at hn
    obtain ⟨k, v⟩ := m
    rw [mergeProperties]
    by_cases h : k ∈ Members.keys ms
    · rw [if_pos (Members.contains_iff.mpr h), ih ms hn.2,
        List.filter_cons_of_neg (by simpa using h), List.filter_cons_of_pos (by simpa using h)]
      rfl
    · -- the new name is no name of the rest, so it takes none of theirs
      have hrest : ∀ n ∈ ns, n.1 ∈ Members.keys (ms ++ [(k, v)]) ↔ n.1 ∈ Members.keys ms := by
        intro n hmem
        have hne : n.1 ≠ k := fun e => hn.1 (List.mem_map.mpr ⟨n, hmem, e⟩)
        simp [Members.keys, hne]
      rw [if_neg (fun hc => h (Members.contains_iff.mp hc)), ih (ms ++ [(k, v)]) hn.2,
        List.filter_cons_of_pos (by simpa using h), List.filter_cons_of_neg (by simpa using h),
        List.append_assoc, List.singleton_append]
      refine Prod.ext ?_ ?_
      · exact congrArg (ms ++ (k, v) :: ·) (List.filter_congr fun n hmem => by simp [hrest n hmem])
      · exact congrArg Members.keys (List.filter_congr fun n hmem => by simp [hrest n hmem])

/-- The marks of required properties become the list of required names. -/
theorem hoistRequired_toJson (ps : List FormProperty) :
    hoistRequired (ps.map builtMember)
      = .ok (ps.map formMember, (ps.filter (·.required)).map (·.name)) := by
  induction ps with
  | nil => rfl
  | cons p ps ih =>
    have hmark : ((Json.member p.members "required").asBool? == some true) = p.required := by
      rw [p.member_required]
      cases p.required <;> rfl
    rw [List.map_cons]
    show hoistRequired ((p.name, .object p.members) :: ps.map builtMember) = _
    rw [hoistRequired, ih, ok_bind]
    simp only [hmark, pure_eq_ok, List.map_cons, List.filter_cons]
    cases p.required <;> rfl

end FormSchema

/-! ### Document fields of a form -/

/-- The members of an object are its members, also where it is empty. -/
@[simp] theorem Upload.membersOrEmpty_object (ms : Members) :
    membersOrEmpty (.object ms) = .ok ms := by
  cases ms <;> rfl

theorem isDocumentProperty_formMembers (p : FormProperty) :
    isDocumentProperty (.object p.formMembers) = .ok p.isSubmitted := by
  rw [isDocumentProperty, member_vcMeta, member_fieldGroup, isSubmitted, isDocument]
  cases hmeta : p.documentMeta? with
  | some d => rfl
  | none =>
    rw [Option.map_none, Option.getD_none, if_neg (by decide), Option.isSome_none, Bool.false_or]
    by_cases hg : p.groupName.truthy = true
    · rw [if_pos hg, Json.record, Upload.membersOrEmpty_object, ok_bind]
      exact congrArg (fun v => Except.ok (Json.equal v (.string documentsGroup)))
        (member_groupName p.groupName p.groupLabel)
    · -- the name of the documents group is not empty
      have hother : (p.groupName == .string documentsGroup) = false := by
        rw [Bool.eq_false_iff]
        intro he
        exact hg (Json.beq_string_iff.mp he ▸ by decide)
      rw [if_neg hg, hother]
      rfl

/-- The names of the document fields of a form. -/
theorem documentNames_formMember (ps : List FormProperty) :
    documentNames (ps.map formMember) = .ok ((ps.filter (·.isSubmitted)).map (·.name)) := by
  induction ps with
  | nil => rfl
  | cons p ps ih =>
    rw [List.map_cons]
    show documentNames ((p.name, .object p.formMembers) :: ps.map formMember) = _
    rw [documentNames, isDocumentProperty_formMembers, ok_bind, ih, ok_bind, List.filter_cons]
    cases p.isSubmitted <;> rfl

/-! ### Selectors without an option -/

theorem any_truthy_texts (ts : List Text) :
    (ts.map Json.string).any Json.truthy = !ts.all (·.isEmpty) := by
  induction ts with
  | nil => rfl
  | cons t ts ih =>
    rw [List.map_cons, List.any_cons, ih, List.all_cons, Json.truthy]
    cases t.isEmpty <;> rfl

theorem lacksDocument_formMember {ps : List FormProperty} (hn : (ps.map (·.name)).Nodup)
    {p : FormProperty} (hp : p ∈ ps) :
    lacksDocument (ps.map formMember) p.name = .ok p.hasNoOption := by
  have hkeys : (Members.keys (ps.map formMember)).Nodup := by
    rw [keys_map_formMember]
    exact hn
  have hfound : Members.get? (ps.map formMember) p.name = some (.object p.formMembers) :=
    Members.get?_of_mem hkeys (List.mem_map_of_mem (f := formMember) hp)
  rw [lacksDocument, hfound]
  show BenefitForm.hasNoOption (Json.member p.formMembers "enum") = _
  rw [member_enum, FormProperty.hasNoOption, BenefitForm.hasNoOption]
  cases p.values? with
  | none => rfl
  | some vs =>
    show (do
      let items ← Json.iterate (.array (vs.map .string))
      return !items.any Json.truthy) = _
    rw [Json.iterate, ok_bind, any_truthy_texts, Bool.not_not]
    rfl

/-- The document fields of a form whose selector has no real option. -/
theorem missingDocuments_formMember {ps qs : List FormProperty} (hn : (ps.map (·.name)).Nodup)
    (hq : ∀ q ∈ qs, q ∈ ps) :
    missingDocuments (ps.map formMember) (qs.map (·.name))
      = .ok ((qs.filter (·.hasNoOption)).map (·.name)) := by
  induction qs with
  | nil => rfl
  | cons q qs ih =>
    rw [List.map_cons, missingDocuments, lacksDocument_formMember hn (hq q List.mem_cons_self),
      ok_bind, ih fun r hr => hq r (List.mem_cons_of_mem q hr), ok_bind, List.filter_cons]
    cases q.hasNoOption <;> rfl

/-! ### Groups -/

/-- Whether a value names a group by a key, or counts as empty and names none. -/
def Json.isGroupName (v : Json) : Bool := !v.truthy || v.canBeKey

/-- A property goes into its group, or to the fields without one; the name of the group has to be
a key. -/
theorem displayGroups_formMember_cons (p : FormProperty) (rest : List (Text × Json))
    (groups : List (DisplayGroup Text)) (ungrouped : List Text) :
    displayGroups (formMember p :: rest) groups ungrouped
      = if p.groupName.truthy then
          if p.groupName.canBeKey then
            displayGroups rest (DisplayGroup.place groups p.groupName p.groupLabel p.name) ungrouped
          else .error .wrongKind
        else displayGroups rest groups (ungrouped ++ [p.name]) := by
  rw [formMember, displayGroups]
  simp only [member_fieldGroup]
  by_cases h : p.groupName.truthy = true
  · rw [if_pos h, if_pos h, if_pos (by rfl)]
    simp only [Json.record, List.map_cons, List.map_nil, member_groupName, member_groupLabel]
    rfl
  · rw [if_neg h, if_neg h]
    rfl

/-- The groups of properties are gathered if their names are keys, and not otherwise. -/
theorem displayGroups_formMember (ps : List FormProperty) (groups : List (DisplayGroup Text))
    (ungrouped : List Text) :
    (displayGroups (ps.map formMember) groups ungrouped).map (fun _ => ())
      = if ps.all (·.groupName.isGroupName) then .ok () else .error .wrongKind := by
  induction ps generalizing groups ungrouped with
  | nil => rfl
  | cons p ps ih =>
    rw [List.map_cons, displayGroups_formMember_cons, List.all_cons, Json.isGroupName]
    cases p.groupName.truthy with
    | false => exact ih groups _
    | true =>
      cases p.groupName.canBeKey with
      | false => rfl
      | true => exact ih _ ungrouped

/-- The hints for properties are found if the names of their groups are keys, and not otherwise. -/
theorem displayHints_formMember (ps : List FormProperty) (documents : List Text) :
    (displayHints (ps.map formMember) documents).map (fun _ => ())
      = if ps.all (·.groupName.isGroupName) then .ok () else .error .wrongKind := by
  rw [← displayGroups_formMember ps [] [], displayHints]
  cases displayGroups (ps.map formMember) [] [] <;> rfl

/-! ### The joined form -/

/-- The form of properties with different names, which comes with the given warnings. Finding the
hints is all that can fail. -/
def FormSchema.ofProperties (ps : List FormProperty) (title : Json)
    (warnings : List CompilationWarning) : Except Failure FormSchema := do
  let hints ← (displayHints (ps.map formMember)
    ((ps.filter (·.isSubmitted)).map (·.name))).mapError Failure.fault
  return {
    title, hints, warnings
    properties := ps.map formMember
    required := (ps.filter (·.required)).map (·.name)
    documentNames := (ps.filter (·.isSubmitted)).map (·.name)
    missing := ((ps.filter (·.isSubmitted)).filter (·.hasNoOption)).map (·.name) }

/-- There is a form of properties if the names of their groups are keys, and not otherwise. -/
theorem FormSchema.map_ofProperties (ps : List FormProperty) (title : Json)
    (ws : List CompilationWarning) :
    (ofProperties ps title ws).map (fun _ => ())
      = if ps.all (·.groupName.isGroupName) then .ok () else .error (.fault .wrongKind) := by
  have hhints := displayHints_formMember ps ((ps.filter (·.isSubmitted)).map (·.name))
  rw [ofProperties]
  split
  · rename_i hall
    rw [if_pos hall] at hhints
    obtain ⟨hints, hok⟩ := exists_ok_of_map hhints
    rw [hok]
    rfl
  · rename_i hall
    rw [if_neg hall] at hhints
    rw [eq_error_of_map hhints]
    rfl

/-- Two parts with different names in each are joined to the properties of the first one and those
of the second one whose names are free. -/
theorem FormSchema.outcome_assemble {ps qs : List FormProperty} (hp : (ps.map (·.name)).Nodup)
    (hq : (qs.map (·.name)).Nodup) (vs ws : List CompilationWarning) (title : Json) :
    (assemble ⟨ps.map builtMember, vs⟩ ⟨qs.map builtMember, ws⟩ title).outcome
      = ofProperties (ps ++ qs.filter fun q => q.name ∉ ps.map (·.name)) title
        (vs ++ ws ++ (qs.filter fun q => q.name ∈ ps.map (·.name)).map
          fun q => .duplicate (.text q.name)) := by
  have hkeys : ∀ rs : List FormProperty,
      Members.keys (rs.map builtMember) = rs.map (·.name) := by
    intro rs
    rw [Members.keys, List.map_map]
    rfl
  have hmerged : mergeProperties (ps.map builtMember) (qs.map builtMember)
      = ((ps ++ qs.filter fun q => q.name ∉ ps.map (·.name)).map builtMember,
        (qs.filter fun q => q.name ∈ ps.map (·.name)).map (·.name)) := by
    rw [mergeProperties_of_nodup _ (by rwa [hkeys]), hkeys, List.filter_map, List.filter_map,
      hkeys, List.map_append]
    rfl
  generalize hkept : ps ++ qs.filter (fun q => q.name ∉ ps.map (·.name)) = kept at hmerged ⊢
  -- the names of the second part that are kept are none of the first
  have hn : (kept.map (·.name)).Nodup := by
    rw [← hkept, List.map_append, List.nodup_append]
    refine ⟨hp, (List.filter_sublist.map _).nodup hq, ?_⟩
    rintro n hn m hm rfl
    obtain ⟨q, hq, rfl⟩ := List.mem_map.mp hm
    exact absurd hn (by simpa using (List.mem_filter.mp hq).2)
  rw [assemble, ofProperties]
  simp only [hmerged, Trace.outcome_bind, Trace.outcome_notes, ok_bind, Trace.outcome_liftFault,
    hoistRequired_toJson, mapError_ok, documentNames_formMember,
    missingDocuments_formMember hn fun q hq => (List.mem_filter.mp hq).1, Trace.outcome_pure,
    List.map_map]
  rfl

end BenefitForm
