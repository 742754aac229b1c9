import BenefitForm.Proofs.RequiredDocument

/-!
# Forms are well-formed schemas

A schema is well formed if the argument of each of its keywords has the form that
the keyword asks for, in the schema itself and in those of its properties. The
builders write few keywords with few kinds of arguments (`FormProperty.WellFormed`);
the patterns and lengths are those of the field templates, of which there are
finitely many. The marks of required properties would be misplaced, and a form
has none. The list of required names is no list of different texts by itself, but
that of a form is, since its properties have different names.

- `Json.schemaProblems_object_of_forall`: a schema, keyword by keyword.
- `Compiled.problemsOf_schema_iff`: the title is all that can be wrong with a form.
- `checkSchema_compileForm`: every compiled form with a text for a title passes.
-/

namespace BenefitForm

open FormProperty

/-! ### One schema -/

namespace Json

open SchemaFinding

/-- Why the argument that goes with a name has not the form that it should have. -/
def argumentProblems (name : Text) (argument : Json) : List SchemaFinding :=
  match keywordForm name with
  | .schema => schemaProblems argument
  | .schemas => schemaListProblems argument
  | .schemaOrSchemas => either argument (schemaProblems argument) (schemaListProblems argument)
  | .schemaMap => schemaMapProblems argument
  | .patternMap => schemaMapProblems argument ++ keyProblems argument
  | .schemaOrNamesMap => dependenciesProblems argument
  | form => plainProblems form argument

theorem keywordProblems_eq_map (keywords : Members) :
    keywordProblems keywords
      = keywords.map fun m => (m.1, (argumentProblems m.1 m.2).map (within (.name m.1))) := by
  induction keywords with
  | nil => rfl
  | cons m keywords ih =>
    obtain ⟨name, argument⟩ := m
    rw [keywordProblems, ih, List.map_cons]
    rfl

/-- An object is a schema if the argument of each name has its form. -/
theorem schemaProblems_object_of_forall {keywords : Members}
    (h : ∀ m ∈ keywords, argumentProblems m.1 m.2 = []) :
    (object keywords).schemaProblems = [] := by
  rw [schemaProblems, inVocabularyOrder, List.flatMap_eq_nil_iff]
  intro k _
  cases hget : Members.get? (keywordProblems keywords) (Text.ofString k.1) with
  | none => rfl
  | some problems =>
    have hmem := Members.mem_of_get? hget
    rw [keywordProblems_eq_map] at hmem
    obtain ⟨m, hm, heq⟩ := List.mem_map.mp hmem
    obtain ⟨-, rfl⟩ := Prod.mk.inj heq
    -- a name that is written twice has the problems of either place, and there are none
    rw [h m hm]
    rfl

/-- The argument of a keyword of a schema has its form, where no other has the same name. -/
theorem argumentProblems_of_schemaProblems {keywords : Members}
    (hn : (Members.keys keywords).Nodup) (h : (object keywords).schemaProblems = [])
    {key : String} {argument : Json} (hm : (Text.ofString key, argument) ∈ keywords)
    (hkey : key ∈ schemaVocabulary.map Prod.fst) :
    argumentProblems (Text.ofString key) argument = [] := by
  obtain ⟨k, hk, rfl⟩ := List.mem_map.mp hkey
  rw [schemaProblems, inVocabularyOrder, List.flatMap_eq_nil_iff] at h
  have hkeys : Members.keys (keywordProblems keywords) = Members.keys keywords := by
    rw [keywordProblems_eq_map, Members.keys, List.map_map]
    rfl
  have hget := Members.get?_of_mem (hkeys ▸ hn) (by
    rw [keywordProblems_eq_map]
    exact List.mem_map_of_mem hm)
  have hnone := h k hk
  rw [hget] at hnone
  exact List.map_eq_nil_iff.mp hnone

/-- The problems of an object of schemas are those of the schemas. -/
theorem schemaMapProblems_object_of_forall {members : Members}
    (h : ∀ m ∈ members, m.2.schemaProblems = []) : schemaMapProblems (.object members) = [] := by
  rw [schemaMapProblems]
  induction members with
  | nil => rfl
  | cons m members ih =>
    obtain ⟨name, v⟩ := m
    rw [List.forall_mem_cons] at h
    rw [memberProblems, h.1, ih h.2]
    rfl

/-- Different texts have no repeats. -/
theorem hasRepeats_texts {ts : List Text} (hn : ts.Nodup) :
    hasRepeats (ts.map Json.string) = false := by
  induction ts with
  | nil => rfl
  | cons t ts ih =>
    rw [List.nodup_cons] at hn
    rw [List.map_cons, hasRepeats, ih hn.2, Bool.or_false, List.any_map, List.any_eq_false]
    intro u hu hsame
    have hsame : equalBy true (.string t) (.string u) = true := hsame
    cases string_equalBy_iff.mp hsame
    exact hn.1 hu

theorem atPositions_textProblems (ts : List Text) (n : Nat) :
    atPositions textProblems n (ts.map Json.string) = [] := by
  induction ts generalizing n with
  | nil => rfl
  | cons t ts ih =>
    rw [List.map_cons, atPositions, ih]
    rfl

theorem namesProblems_texts {ts : List Text} (hn : ts.Nodup) : namesProblems (ofTexts ts) = [] := by
  rw [ofTexts, namesProblems, atPositions_textProblems, hasRepeats_texts hn]
  rfl

end Json

/-- Nothing is reported of a schema iff it has no problems. -/
theorem problemsOf_eq_nil_iff {schema : Json} :
    problemsOf schema = .ok [] ↔ schema.schemaProblems = [] := by
  rw [problemsOf, Json.schemaProblem?]
  cases hproblems : schema.schemaProblems with
  | nil => simp [SchemaFinding.mostRelevant?]
  | cons f rest =>
    simp only [SchemaFinding.mostRelevant?, Option.map_some, reduceCtorEq, iff_false]
    cases (f :: rest).findSome? (·.problem.fault?) with
    | some fault => nofun
    | none =>
      rw [ok_bind]
      intro h
      obtain ⟨message, -, hpure⟩ := bind_eq_ok_iff.mp h
      cases hpure

/-! ### Properties -/

/-- Whether what a property is given to write makes a schema: the values are texts, and the pattern
and the lengths are such. -/
structure FormProperty.WellFormed (p : FormProperty) : Prop where
  type : p.type = Text.ofString "string"
  pattern : ∀ t, p.pattern? = some t → Json.patternProblems t = []
  minLength : ∀ n, p.minLength? = some n → 0 ≤ n
  maxLength : ∀ n, p.maxLength? = some n → 0 ≤ n

/-- A number from zero on is a count. -/
theorem plainProblems_count {n : Int} (h : 0 ≤ n) :
    Json.plainProblems .count (.int n) = [] := by
  have hless : Json.isLess (.int n) (.int 0) = false := by
    show (some (Ord.compare n 0) == some Ordering.lt) = false
    rw [Option.some_beq_some, beq_eq_false_iff_ne, ne_eq, compare_lt_iff_lt]
    omega
  rw [Json.plainProblems, hless]
  rfl

/-- Each member that a form keeps of a property has its form. -/
theorem argumentProblems_formMembers {p : FormProperty} (h : p.WellFormed) {m : Text × Json}
    (hm : m ∈ p.formMembers) : Json.argumentProblems m.1 m.2 = [] := by
  obtain ⟨key, v, hslot, hkey, rfl⟩ := p.mem_formMembers_iff.mp hm
  simp only [slots, List.mem_cons, List.not_mem_nil, or_false, Prod.mk.injEq] at hslot
  rcases hslot with ⟨rfl, hv⟩ | ⟨rfl, hv⟩ | ⟨rfl, hv⟩ | ⟨rfl, hv⟩ | ⟨rfl, hv⟩ | ⟨rfl, hv⟩ |
    ⟨rfl, hv⟩ | ⟨rfl, -⟩ | ⟨rfl, -⟩ | ⟨rfl, -⟩ | ⟨rfl, -⟩ | ⟨rfl, -⟩
  · cases hv
    rw [h.type]
    rfl
  · cases hv
    rfl
  · obtain ⟨t, -, rfl⟩ := Option.map_eq_some_iff.mp hv.symm
    rfl
  · obtain ⟨t, ht, rfl⟩ := Option.map_eq_some_iff.mp hv.symm
    exact congrArg (List.map SchemaFinding.here) (h.pattern t ht)
  · obtain ⟨n, hn, rfl⟩ := Option.map_eq_some_iff.mp hv.symm
    exact plainProblems_count (h.minLength n hn)
  · obtain ⟨n, hn, rfl⟩ := Option.map_eq_some_iff.mp hv.symm
    exact plainProblems_count (h.maxLength n hn)
  · obtain ⟨ts, -, rfl⟩ := Option.map_eq_some_iff.mp hv.symm
    rfl
  -- the rest are no keywords, but for the default, which may be anything
  · rfl
  · rfl
  · exact absurd rfl hkey
  · rfl
  · rfl

/-- The properties of well-formed ones are schemas. -/
theorem schemaProblems_formMembers {p : FormProperty} (h : p.WellFormed) :
    (Json.object p.formMembers).schemaProblems = [] :=
  Json.schemaProblems_object_of_forall fun _ hm => argumentProblems_formMembers h hm

/-! ### What the builders make -/

namespace FieldTemplate

/-- Whether the pattern of a template is one and its lengths are counts. -/
def isSound (t : FieldTemplate) : Bool :=
  t.pattern?.all (fun p => (Json.patternProblems (Text.ofString p)).isEmpty)
    && t.minLength?.all (fun n => decide (0 ≤ n)) && t.maxLength?.all (fun n => decide (0 ≤ n))

theorem isSound_of_mem_table : ∀ e ∈ table, e.2.isSound = true := by
  decide +kernel

theorem isSound_of_find? {name : Text} {t : FieldTemplate} (h : find? name = some t) :
    t.isSound = true := by
  obtain ⟨e, he, rfl⟩ := Option.map_eq_some_iff.mp h
  exact isSound_of_mem_table e (List.mem_of_find?_eq_some he)

end FieldTemplate

/-- A declared field has no other pattern and lengths than those of the template of its name. -/
theorem DeclaredField.wellFormed_property (f : DeclaredField) : f.property.WellFormed := by
  have hsound : ∀ t, FieldTemplate.find? f.name = some t →
      (∀ p, t.pattern? = some p → Json.patternProblems (Text.ofString p) = []) ∧
        (∀ n, t.minLength? = some n → 0 ≤ n) ∧ ∀ n, t.maxLength? = some n → 0 ≤ n := by
    intro t ht
    have h := FieldTemplate.isSound_of_find? ht
    rw [FieldTemplate.isSound, Bool.and_eq_true, Bool.and_eq_true] at h
    refine ⟨fun p hp => ?_, fun n hn => ?_, fun n hn => ?_⟩
    · simpa [hp] using h.1.1
    · simpa [hn] using h.1.2
    · simpa [hn] using h.2
  constructor
  case type => rfl
  case pattern =>
    intro text htext
    obtain ⟨t, ht, hpattern⟩ := Option.bind_eq_some_iff.mp htext
    obtain ⟨p, hp, rfl⟩ := Option.map_eq_some_iff.mp hpattern
    exact (hsound t ht).1 p hp
  case minLength =>
    intro n hn
    obtain ⟨t, ht, hlength⟩ := Option.bind_eq_some_iff.mp hn
    exact (hsound t ht).2.1 n hlength
  case maxLength =>
    intro n hn
    obtain ⟨t, ht, hlength⟩ := Option.bind_eq_some_iff.mp hn
    exact (hsound t ht).2.2 n hlength

/-- A document field has neither. -/
theorem DocumentPlan.wellFormed_property (settings : Settings) (documents : List WalletDocument)
    (plan : DocumentPlan) : (plan.property settings documents).WellFormed := by
  constructor
  case type => rfl
  all_goals nofun

theorem wellFormed_of_mem_formProperties {settings : Settings} {fields : List DeclaredField}
    {documents : List WalletDocument} {plans : List DocumentPlan} {p : FormProperty}
    (hp : p ∈ formProperties settings fields documents plans) : p.WellFormed :=
  forall_mem_formProperties DeclaredField.wellFormed_property
    (DocumentPlan.wellFormed_property settings documents) p hp

/-! ### Forms -/

namespace Compiled

variable {settings : Settings} {fields : FieldInput} {feed : Json} {wallet : Wallet.Input}
  {form : FormSchema} {rules : NormalizedRules} {documents : List WalletDocument}
  {plans : List DocumentPlan}

/-- The required names of a form differ, as its properties do. -/
theorem nodup_required (h : Compiled settings fields feed wallet form rules documents plans) :
    form.required.Nodup := by
  rw [h.required]
  exact (List.filter_sublist.map _).nodup (nodup_formProperties settings _ documents plans)

/-- Nothing is reported of a form iff its title is a text. -/
theorem problemsOf_schema_iff
    (h : Compiled settings fields feed wallet form rules documents plans) :
    problemsOf form.schema = .ok [] ↔ ∃ t, form.title = .string t := by
  rw [problemsOf_eq_nil_iff]
  constructor
  · intro hnone
    have hkeys : (["title", "type", "required", "properties"].map Text.ofString).Nodup :=
      List.Nodup.map Text.ofString_injective (by decide)
    have htitle : Json.argumentProblems (Text.ofString "title") form.title = [] := by
      refine Json.argumentProblems_of_schemaProblems ?_ hnone List.mem_cons_self (by decide)
      simpa only [Members.keys, List.map_cons, List.map_nil] using hkeys
    have htext : Json.textProblems form.title = [] := List.map_eq_nil_iff.mp htitle
    cases hcase : form.title with
    | string t => exact ⟨t, rfl⟩
    | _ =>
      rw [hcase] at htext
      cases htext
  · rintro ⟨t, ht⟩
    have hproperties : Json.schemaMapProblems (.object form.properties) = [] := by
      refine Json.schemaMapProblems_object_of_forall fun m hm => ?_
      obtain ⟨p, hp, rfl⟩ := h.mem_properties_iff.mp hm
      exact schemaProblems_formMembers (wellFormed_of_mem_formProperties hp)
    refine Json.schemaProblems_object_of_forall fun m hm => ?_
    simp only [List.map_cons, List.map_nil, List.mem_cons, List.not_mem_nil, or_false] at hm
    rcases hm with rfl | rfl | rfl | rfl
    · rw [ht]
      rfl
    · rfl
    · exact Json.namesProblems_texts h.nodup_required
    · exact hproperties

end Compiled

/-- The title of a form is the one that it is compiled with. -/
theorem title_of_compileForm {settings : Settings} {fields : FieldInput} {feed : Json}
    {wallet : Wallet.Input} {title benefitId : Json} {form : FormSchema}
    (hform : (compileForm settings fields feed wallet title benefitId).outcome = .ok form) :
    form.title = title := by
  obtain ⟨rules, documents, plans, -, -, -, -, hmade⟩ := compileForm_eq_ok_iff.mp hform
  obtain ⟨hints, -, hpure⟩ := bind_eq_ok_iff.mp hmade
  cases hpure
  rfl

/-- Every form that is compiled with a text for its title is a well-formed schema. -/
theorem checkSchema_compileForm {settings : Settings} {fields : FieldInput} {feed : Json}
    {wallet : Wallet.Input} {title : Text} {benefitId : Json} {form : FormSchema}
    (hform : (compileForm settings fields feed wallet (.string title) benefitId).outcome
      = .ok form) : checkSchema (.form form) = .ok [] := by
  obtain ⟨rules, documents, plans, hc⟩ := compileForm_ok hform
  exact hc.problemsOf_schema_iff.mpr ⟨title, title_of_compileForm hform⟩

/-- A field with a pattern and a choice with the same option twice. -/
def patternAndRepeat : List DeclaredField :=
  [{ name := Text.ofString "phone" },
    { name := Text.ofString "c", type := Text.ofString "select", required := true
      options := [⟨Text.ofString "x", []⟩, ⟨Text.ofString "x", []⟩] }]

/-- The schema of such fields and of a document selector without a document is well formed. -/
theorem checkSchema_compileForm_of_patternAndRepeat :
    ∃ form, (compileForm .standard (.flat (patternAndRepeat.map .declared)) (requiring "p")
        (.documents []) (.string []) .null).outcome = .ok form ∧
      form.required = ["c", "p"].map Text.ofString ∧ checkSchema (.form form) = .ok [] := by
  have hany : ((compileForm .standard (.flat (patternAndRepeat.map .declared)) (requiring "p")
      (.documents []) (.string []) .null).outcome.toOption.any fun form =>
        form.required = ["c", "p"].map Text.ofString) = true := by
    decide +kernel
  obtain ⟨form, hform, hrequired⟩ := exists_ok_of_any hany
  exact ⟨form, hform, of_decide_eq_true hrequired, checkSchema_compileForm hform⟩

end BenefitForm
