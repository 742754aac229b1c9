import BenefitForm.Validation
import BenefitForm.Proofs.Property

/-!
# What passes validation

The findings about a value are those of the keywords of its schema, one after
another, so a value passes iff every keyword passes it. For a form this says that
every required name is present and that every value that is given conforms to the
property of its name.

- `Json.Breach`, `Json.mem_violations_iff`: what a keyword without subschemas does not allow.
- `findings_eq_nil_iff`: the objects that a form allows, their keys texts or not.
- `exists_toEntries_of_validate`: values that are reported nothing about are allowed.
- `FormProperty.text_of_findingsAt`, `FormProperty.mem_values_of_findingsAt`: a
  value that a property allows is a text, and one of the options where these are
  listed.
-/

namespace BenefitForm

namespace Json

/-- What one keyword of a schema does not allow about a value. -/
def argumentFindings (siblings : Members) (name : Text) (argument : Json) (s : Subject) :
    List Finding :=
  match Assertion.ofName? name with
  | none => []
  | some .properties =>
    match argument, s.entries? with
    | .object schemas, some entries => propertyFindings schemas entries
    | _, _ => []
  | some .items =>
    match s with
    | .json (.array items) =>
      (match argument with
        | .array schemas => leadingFindings schemas (positioned 0 items)
        | _ => []) ++ (positioned 0 items).flatMap fun i => findingsAt argument i.1 i.2
    | _ => []
  | some .additionalProperties =>
    match s.entries? with
    | some entries =>
      let extras := undeclared siblings entries
      match argument.asBool? with
      | some allowed =>
        if allowed || extras.isEmpty then []
        else [⟨[], .unexpected (Members.keys extras)⟩]
      | none => extras.flatMap fun e => findingsAt argument e.1.label e.2
    | none => []
  | some k => (violations k argument s).map (⟨[], ·⟩)

/-- The findings are those of the keywords, in order. -/
theorem keywordFindings_eq_flatMap (siblings keywords : Members) (s : Subject) :
    keywordFindings siblings keywords s
      = keywords.flatMap fun m => argumentFindings siblings m.1 m.2 s := by
  induction keywords with
  | nil => rfl
  | cons m keywords ih =>
    obtain ⟨name, argument⟩ := m
    rw [List.flatMap_cons, ← ih, keywordFindings.eq_def]
    refine congrArg (· ++ keywordFindings siblings keywords s) ?_
    unfold argumentFindings
    cases Assertion.ofName? name with
    | none => rfl
    | some k => cases k <;> rfl

/-- A value passes the schemas of properties iff each value that it has passes the schema of its
name. -/
theorem propertyFindings_eq_nil_iff {schemas : Members} {entries : Entries} :
    propertyFindings schemas entries = [] ↔ ∀ m ∈ schemas, ∀ v,
      Members.get? entries (.text m.1) = some v → findingsAt m.2 m.1 v = [] := by
  induction schemas with
  | nil => simp [propertyFindings]
  | cons m schemas ih =>
    obtain ⟨name, schema⟩ := m
    rw [propertyFindings, List.append_eq_nil_iff, ih, List.forall_mem_cons]
    cases Members.get? entries (.text name) with
    | none => simp
    | some v => simp

/-- Whether a keyword has no subschemas. -/
def isPlain : Assertion → Bool
  | .properties | .items | .additionalProperties => false
  | _ => true

theorem argumentFindings_of_isPlain {name : Text} {k : Assertion} (hk : isPlain k = true)
    (hname : Assertion.ofName? name = some k) (siblings : Members) (argument : Json)
    (s : Subject) :
    argumentFindings siblings name argument s = (violations k argument s).map (⟨[], ·⟩) := by
  cases k with
  | properties => cases hk
  | items => cases hk
  | additionalProperties => cases hk
  | _ => simp only [argumentFindings, hname]

theorem argumentFindings_properties {name : Text}
    (hname : Assertion.ofName? name = some .properties) (siblings schemas : Members) {s : Subject}
    {entries : Entries} (hs : s.entries? = some entries) :
    argumentFindings siblings name (.object schemas) s = propertyFindings schemas entries := by
  simp only [argumentFindings, hname, hs]

/-- The types that an argument names: those of a list, or the one that it is. -/
def namedTypes : Json → List Json
  | .array types => types
  | type => [type]

/-- When a plain keyword does not allow a subject, and what is said about it then. -/
inductive Breach (argument : Json) : Assertion → Subject → Violation → Prop where
  | type {s : Subject} (h : (namedTypes argument).any (hasTypeNamed s) = false) :
    Breach argument .type s (.type s (namedTypes argument))
  | enum {s : Subject} (h : (argument.asArray?.getD []).any (isConstant s) = false) :
    Breach argument .enum s (.unlisted s (argument.asArray?.getD []))
  | const {s : Subject} (h : isConstant s argument = false) :
    Breach argument .const s (.constant argument)
  | pattern {t p : Text} (hp : argument = .string p)
    (h : (Pattern.read? p).any (·.search t) = false) :
    Breach argument .pattern (.json (.string t)) (.pattern t p)
  | minLength {t : Text} (h : isLess (.int t.length) argument = true) :
    Breach argument .minLength (.json (.string t)) (.tooShort t argument)
  | maxLength {t : Text} (h : isLess argument (.int t.length) = true) :
    Breach argument .maxLength (.json (.string t)) (.tooLong t argument)
  | minimum {v : Json} (h : (ValueType.number.holds v && isLess v argument) = true) :
    Breach argument .minimum (.json v) (.tooSmall v argument)
  | maximum {v : Json} (h : (ValueType.number.holds v && isLess argument v) = true) :
    Breach argument .maximum (.json v) (.tooGreat v argument)
  | required {s : Subject} {entries : Entries} {name : Text} (hs : s.entries? = some entries)
    (hname : name ∈ (argument.asArray?.getD []).filterMap asText?)
    (h : Members.contains entries (.text name) = false) :
    Breach argument .required s (.missing name)

theorem mem_ite_nil_left {c : Bool} {v w : Violation} :
    w ∈ (if c then [] else [v]) ↔ c = false ∧ w = v := by
  cases c <;> simp

theorem mem_ite_nil_right {c : Bool} {v w : Violation} :
    w ∈ (if c then [v] else []) ↔ c = true ∧ w = v := by
  cases c <;> simp

theorem breach_of_mem_violations {k : Assertion} {argument : Json} {s : Subject}
    {violation : Violation} (hv : violation ∈ violations k argument s) :
    Breach argument k s violation := by
  unfold violations at hv
  -- the keywords in order, each for the subjects that it says something about, and all else
  split at hv
  case h_1 =>
    obtain ⟨h, rfl⟩ := mem_ite_nil_left.mp hv
    exact .type h
  case h_2 =>
    obtain ⟨h, rfl⟩ := mem_ite_nil_left.mp hv
    exact .enum h
  case h_3 =>
    obtain ⟨h, rfl⟩ := mem_ite_nil_left.mp hv
    exact .const h
  case h_4 =>
    split at hv
    · obtain ⟨h, rfl⟩ := mem_ite_nil_left.mp hv
      exact .pattern rfl h
    · cases hv
  case h_5 =>
    obtain ⟨h, rfl⟩ := mem_ite_nil_right.mp hv
    exact .minLength h
  case h_6 =>
    obtain ⟨h, rfl⟩ := mem_ite_nil_right.mp hv
    exact .maxLength h
  case h_7 =>
    obtain ⟨h, rfl⟩ := mem_ite_nil_right.mp hv
    exact .minimum h
  case h_8 =>
    obtain ⟨h, rfl⟩ := mem_ite_nil_right.mp hv
    exact .maximum h
  case h_9 =>
    split at hv
    · cases hv
    · rename_i entries hs
      obtain ⟨name, hname, hmissing⟩ := List.mem_filterMap.mp hv
      cases hhas : Members.contains entries (.text name) with
      | true =>
        rw [hhas] at hmissing
        cases hmissing
      | false =>
        rw [hhas] at hmissing
        cases hmissing
        exact .required hs hname hhas
  case h_10 => cases hv

/-- A plain keyword says about a subject what there is to say about breaches of it, and no more. -/
theorem mem_violations_iff {k : Assertion} {argument : Json} {s : Subject} {violation : Violation} :
    violation ∈ violations k argument s ↔ Breach argument k s violation := by
  refine ⟨breach_of_mem_violations, fun h => ?_⟩
  cases h with
  | type h => exact mem_ite_nil_left.mpr ⟨h, rfl⟩
  | enum h => exact mem_ite_nil_left.mpr ⟨h, rfl⟩
  | const h => exact mem_ite_nil_left.mpr ⟨h, rfl⟩
  | pattern hp h =>
    subst hp
    exact mem_ite_nil_left.mpr ⟨h, rfl⟩
  | minLength h => exact mem_ite_nil_right.mpr ⟨h, rfl⟩
  | maxLength h => exact mem_ite_nil_right.mpr ⟨h, rfl⟩
  | minimum h => exact mem_ite_nil_right.mpr ⟨h, rfl⟩
  | maximum h => exact mem_ite_nil_right.mpr ⟨h, rfl⟩
  | required hs hname h =>
    rw [violations, hs]
    exact List.mem_filterMap.mpr ⟨_, hname, by rw [h]; rfl⟩

/-- What a schema allows breaks no plain keyword of it. -/
theorem violations_of_findingsAt {keywords : Members} {step : Text} {v : Json}
    (h : findingsAt (.object keywords) step v = []) {name : Text} {argument : Json}
    (hm : (name, argument) ∈ keywords) {k : Assertion} (hk : isPlain k = true)
    (hname : Assertion.ofName? name = some k) : violations k argument (.json v) = [] := by
  rw [findingsAt, List.map_eq_nil_iff, keywordFindings_eq_flatMap, List.flatMap_eq_nil_iff] at h
  have hfindings := h (name, argument) hm
  rw [argumentFindings_of_isPlain hk hname] at hfindings
  exact List.map_eq_nil_iff.mp hfindings

/-- A value passes the keyword of listed texts iff it is one of them. -/
theorem violations_enum_eq_nil_iff {ts : List Text} {v : Json} :
    violations .enum (ofTexts ts) (.json v) = [] ↔ ∃ t ∈ ts, v = .string t := by
  have hlisted : (ts.map Json.string).any (isConstant (.json v)) = true ↔
      ∃ t ∈ ts, v = .string t := by
    rw [List.any_map, List.any_eq_true]
    exact exists_congr fun t => and_congr_right fun _ => string_equalBy_iff
  rw [← hlisted]
  show (if (ts.map Json.string).any (isConstant (.json v)) = true then []
    else [Violation.unlisted (.json v) (ts.map Json.string)]) = [] ↔ _
  split <;> simp [*]

/-- The keyword of required names does not allow the names that are missing. -/
theorem violations_required {names : List Text} {s : Subject} {entries : Entries}
    (hs : s.entries? = some entries) :
    violations .required (ofTexts names) s = names.filterMap fun name =>
      if Members.contains entries (.text name) then none else some (.missing name) := by
  have hnames : ((ofTexts names).asArray?.getD []).filterMap asText? = names := by
    show (names.map Json.string).filterMap asText? = names
    rw [List.filterMap_map]
    exact List.filterMap_some
  rw [violations, hs]
  simp only [hnames]

/-- An object passes the keyword of required names iff it has them all. -/
theorem violations_required_eq_nil_iff {names : List Text} {s : Subject} {entries : Entries}
    (hs : s.entries? = some entries) :
    violations .required (ofTexts names) s = [] ↔
      ∀ name ∈ names, Members.contains entries (.text name) = true := by
  rw [violations_required hs, List.filterMap_eq_nil_iff]
  refine forall₂_congr fun name _ => ?_
  cases Members.contains entries (.text name) <;> simp

/-- An object passes the keyword of the type of objects. -/
theorem violations_type_object {s : Subject} {entries : Entries}
    (hs : s.entries? = some entries) : violations .type (Json.text "object") s = [] := by
  cases s with
  | keyed _ => rfl
  | json v =>
    cases v with
    | object _ => rfl
    | _ => cases hs

end Json

open Json

/-! ### Forms -/

/-- The findings of a form are the required names that are missing and those of the properties. -/
theorem findings_schema (form : FormSchema) {s : Subject} {entries : Entries}
    (hs : s.entries? = some entries) :
    form.schema.findings s
      = (violations .required (ofTexts form.required) s).map (⟨[], ·⟩)
        ++ propertyFindings form.properties entries := by
  have hsplit : form.schema.findings s
      = (violations .type (Json.text "object") s).map (⟨[], ·⟩)
        ++ ((violations .required (ofTexts form.required) s).map (⟨[], ·⟩)
        ++ propertyFindings form.properties entries) := by
    rw [FormSchema.schema, record, findings, keywordFindings_eq_flatMap]
    simp only [List.map_cons, List.map_nil, List.flatMap_cons, List.flatMap_nil, List.append_nil]
    rw [argumentFindings_properties rfl _ form.properties hs]
    rfl
  rw [hsplit, violations_type_object hs, List.map_nil, List.nil_append]

/-- A form allows the objects that have all required names and conform to the properties. -/
theorem findings_eq_nil_iff (form : FormSchema) {s : Subject} {entries : Entries}
    (hs : s.entries? = some entries) :
    form.schema.findings s = [] ↔
      (∀ name ∈ form.required, Members.contains entries (.text name) = true) ∧
      ∀ m ∈ form.properties, ∀ v, Members.get? entries (.text m.1) = some v →
        findingsAt m.2 m.1 v = [] := by
  rw [findings_schema form hs, List.append_eq_nil_iff, List.map_eq_nil_iff,
    violations_required_eq_nil_iff hs, propertyFindings_eq_nil_iff]

/-- A form allows the values that have all required names and conform to the properties. -/
theorem findings_schema_eq_nil_iff (form : FormSchema) (data : Members) :
    form.schema.findings (.json (.object data)) = [] ↔
      (∀ name ∈ form.required, Members.contains data name = true) ∧
      ∀ m ∈ form.properties, ∀ v, Members.get? data m.1 = some v → findingsAt m.2 m.1 v = [] := by
  rw [findings_eq_nil_iff form (s := .json (.object data)) rfl]
  simp only [Entries.contains_ofMembers, Entries.get?_ofMembers]

/-- An object of filled values is the subject of its validation. -/
theorem Subject.ofEntries_ofMembers (data : Members) :
    Subject.ofEntries (Entries.ofMembers data) = .json (.object data) := by
  have htexts : ((Entries.ofMembers data).all fun e => e.1.asText?.isSome) = true := by
    rw [List.all_eq_true]
    intro e he
    obtain ⟨m, -, rfl⟩ := List.mem_map.mp he
    rfl
  rw [Subject.ofEntries, if_pos htexts, Entries.members_ofMembers]

theorem Entries.ofMembers_members {entries : Entries}
    (h : (entries.all fun e => e.1.asText?.isSome) = true) :
    Entries.ofMembers entries.members = entries := by
  induction entries with
  | nil => rfl
  | cons e entries ih =>
    rw [List.all_cons, Bool.and_eq_true] at h
    obtain ⟨k, v⟩ := e
    cases k with
    | text t => exact congrArg ((.text t, v) :: ·) (ih h.2)
    | _ => cases h.1

/-- The subject that filled values are has them for its entries. -/
theorem Subject.entries?_ofEntries (entries : Entries) :
    (Subject.ofEntries entries).entries? = some entries := by
  rw [Subject.ofEntries]
  split
  · rename_i htexts
    exact congrArg some (Entries.ofMembers_members htexts)
  · rfl

/-- Reports that are given are not taken back. -/
theorem prefix_collect (limit : ReportLimit) (errors reports : List Text) :
    errors <+: collect limit errors reports := by
  induction reports generalizing errors with
  | nil => exact List.prefix_rfl
  | cons report reports ih =>
    rw [collect]
    split
    · exact List.prefix_append errors _
    · exact (List.prefix_append errors [report]).trans (ih _)

/-- A limit may cut reports off, but it leaves at least the entry that says so. -/
theorem bounded_ne_nil {limit : ReportLimit} {reports : List Text} (h : reports ≠ []) :
    bounded limit reports ≠ [] := by
  cases reports with
  | nil => exact absurd rfl h
  | cons report reports =>
    rw [bounded, collect]
    split
    · exact List.cons_ne_nil _ _
    · exact (prefix_collect limit _ reports).ne_nil (List.cons_ne_nil _ _)

/-- Where no report is given there is no finding. -/
theorem findings_of_sortedReports {schema : Json} {s : Subject}
    (h : sortedReports schema s = .ok []) : schema.findings s = [] := by
  obtain ⟨reports, hreports, hsorted⟩ := bind_eq_ok_iff.mp h
  have hlength : reports.length = 0 := by
    rw [← List.length_mergeSort reports, Except.ok.inj hsorted, List.length_nil]
  rw [List.length_eq_zero_iff] at hlength
  subst hlength
  have hfindings := (mapM_eq_ok_iff.mp hreports).length_eq
  exact List.length_eq_zero_iff.mp hfindings

/-- Noting that there are reports changes nothing about them. -/
theorem outcome_noted (errors : List Text) :
    (if (!errors.isEmpty) = true then do
        Trace.note (invalidRecord errors)
        pure errors
      else pure errors : Trace (List Text)).outcome = .ok errors := by
  split <;> rfl

/-- What is said of reports that are there is never nothing. -/
theorem outcome_of_reports_ne {limit : ReportLimit} {reports : List Text} (h : reports ≠ []) :
    (if (!(bounded limit reports).isEmpty) = true then do
        Trace.note (invalidRecord (bounded limit reports))
        pure (bounded limit reports)
      else pure (bounded limit reports) : Trace (List Text)).outcome ≠ .ok [] := by
  rw [outcome_noted]
  intro he
  exact bounded_ne_nil h (Except.ok.inj he)

/-- Values that are reported nothing about can be read and are allowed, whatever the limit. -/
theorem exists_toEntries_of_validate {settings : Settings} {form : FormSchema} {data limit : Json}
    (h : (validate settings (.form form) data limit).outcome = .ok []) :
    ∃ entries, data.toEntries = .ok entries ∧ form.schema.findings (.ofEntries entries) = [] := by
  rw [validate] at h
  simp only [SchemaInput.schema, Trace.outcome_bind, Trace.outcome_liftFault, mapError_ok, ok_bind,
    bind_eq_ok_iff, mapError_eq_ok_iff] at h
  obtain ⟨problems, -, h⟩ := h
  cases problems with
  | cons problem problems => cases h
  | nil =>
    rw [List.isEmpty_nil, Bool.not_true, if_neg Bool.false_ne_true, Trace.outcome_bind,
      Trace.outcome_liftFault] at h
    obtain ⟨entries, hentries, h⟩ := bind_eq_ok_iff.mp h
    rw [Trace.outcome_bind, Trace.outcome_liftFault] at h
    obtain ⟨reports, hreports, h⟩ := bind_eq_ok_iff.mp h
    refine ⟨entries, mapError_eq_ok_iff.mp hentries, ?_⟩
    cases reports with
    | nil => exact findings_of_sortedReports (mapError_eq_ok_iff.mp hreports)
    | cons r rs =>
      -- with a report there is something to say
      exfalso
      have htexts : (r :: rs).map Report.toText ≠ [] := List.cons_ne_nil _ _
      rw [List.isEmpty_cons, if_neg Bool.false_ne_true] at h
      split at h
      · exact outcome_of_reports_ne htexts h
      · rw [Trace.outcome_bind] at h
        obtain ⟨l, -, h⟩ := bind_eq_ok_iff.mp h
        exact outcome_of_reports_ne htexts h

/-- Members that are reported nothing about are allowed, whatever the limit. -/
theorem findings_of_validate {settings : Settings} {form : FormSchema} {data : Members}
    {limit : Json} (h : (validate settings (.form form) (.object data) limit).outcome = .ok []) :
    form.schema.findings (.json (.object data)) = [] := by
  obtain ⟨entries, hentries, hfindings⟩ := exists_toEntries_of_validate h
  cases hentries
  rwa [Subject.ofEntries_ofMembers] at hfindings

/-! ### Properties -/

namespace FormProperty

variable {p : FormProperty} {step : Text} {v : Json}

/-- A value that a property with the type of texts allows is a text. -/
theorem text_of_findingsAt (htype : p.type = Text.ofString "string")
    (h : findingsAt (.object p.formMembers) step v = []) : ∃ t, v = .string t := by
  have hslot : Members.get? p.formMembers (Text.ofString "type")
      = some (.string (Text.ofString "string")) := by
    rw [p.get?_formMembers (by decide), ← htype]
    rfl
  have hviolations := violations_of_findingsAt h (Members.mem_of_get? hslot) (k := .type) rfl rfl
  cases v with
  | string t => exact ⟨t, rfl⟩
  | _ => cases hviolations

/-- A value that a property with listed options allows is one of them. -/
theorem mem_values_of_findingsAt {ts : List Text} (hvalues : p.values? = some ts)
    (h : findingsAt (.object p.formMembers) step v = []) : ∃ t ∈ ts, v = .string t := by
  have hslot : Members.get? p.formMembers (Text.ofString "enum")
      = p.values?.map ofTexts := p.get?_formMembers (by decide)
  rw [hvalues] at hslot
  exact violations_enum_eq_nil_iff.mp
    (violations_of_findingsAt h (Members.mem_of_get? hslot) (k := .enum) rfl rfl)

end FormProperty

end BenefitForm
