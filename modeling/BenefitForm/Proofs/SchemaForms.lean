import BenefitForm.Proofs.Selection

/-!
# A form and its stored schema

Values are submitted against a compiled form, against its schema read back from
where it was stored, or against the properties of that schema alone. The names of
the document fields are listed in the first case and found among the properties
in the others, with the same result. What tells a schema from properties alone is
a member `properties` that is an object, and every property is an object, so
properties among which one has that name are taken for a schema: the members of
that property then stand in the place of the properties, and none of them is a
document field (`documentNames_formMembers`).

- `schema_forms`: the schema always serves for the form, and the properties do so
  iff none has that name or there is no document field to lose.
-/

namespace BenefitForm

open FormProperty

/-! ### Document fields among stored properties -/

/-- The document fields have the same names where the names are keys. -/
theorem documentNames_ofMembers (ms : Members) :
    documentNames (Entries.ofMembers ms) = (documentNames ms).map fun names => names.map .text := by
  induction ms with
  | nil => rfl
  | cons m ms ih =>
    show documentNames ((Key.text m.1, m.2) :: Entries.ofMembers ms) = _
    rw [documentNames, documentNames, ih]
    cases isDocumentProperty m.2 with
    | error e => rfl
    | ok isDocument =>
      cases documentNames ms with
      | error e => rfl
      | ok names => cases isDocument <;> rfl

/-- There are no document fields where no property is submitted as a document. -/
theorem documentNames_eq_nil {κ : Type} {ms : List (κ × Json)}
    (h : ∀ m ∈ ms, isDocumentProperty m.2 = .ok false) : documentNames ms = .ok [] := by
  induction ms with
  | nil => rfl
  | cons m ms ih =>
    obtain ⟨hm, hms⟩ := List.forall_mem_cons.mp h
    rw [documentNames, hm, ok_bind, ih hms]
    rfl

/-- An object without a record of a document field and without a group is no document field. -/
theorem isDocumentProperty_record {ms : List (String × Json)} (hrecord : ms.lookup "vcMeta" = none)
    (hgroup : ms.lookup "fieldGroup" = none) :
    isDocumentProperty (Json.record ms) = .ok false := by
  rw [Json.record, isDocumentProperty, Json.member, Json.member, Json.get?_literal,
    Json.get?_literal, hrecord, hgroup]
  rfl

/-- The members of a property are no document fields. -/
theorem documentNames_formMembers (p : FormProperty) : documentNames p.formMembers = .ok [] := by
  refine documentNames_eq_nil fun m hm => ?_
  obtain ⟨key, v, hslot, -, rfl⟩ := p.mem_formMembers_iff.mp hm
  simp only [slots, List.mem_cons, List.not_mem_nil, or_false, Prod.mk.injEq, Option.some.injEq,
    eq_comm (a := some v), Option.map_eq_some_iff, Option.ite_none_right_eq_some] at hslot
  rcases hslot with ⟨-, rfl⟩ | ⟨-, rfl⟩ | ⟨-, _, -, rfl⟩ | ⟨-, _, -, rfl⟩ | ⟨-, _, -, rfl⟩ |
    ⟨-, _, -, rfl⟩ | ⟨-, _, -, rfl⟩ | ⟨-, _, -, rfl⟩ | ⟨-, _, -, rfl⟩ | ⟨-, -, rfl⟩ |
    ⟨-, -, rfl⟩ | ⟨-, _, -, rfl⟩
  -- two of the members may be objects
  case inr.inr.inr.inr.inr.inr.inr.inr.inr.inr.inl => exact isDocumentProperty_record rfl rfl
  case inr.inr.inr.inr.inr.inr.inr.inr.inr.inr.inr => exact isDocumentProperty_record rfl rfl
  all_goals rfl

/-! ### Forms of a schema -/

/-- Whether values are submitted with the same result, and the same records in the log, against two
schemas that list no document fields of their own. -/
def SchemaInput.Agree (settings : Settings) (a b : SchemaInput) : Prop :=
  ∀ (values : Json) (wallet : Wallet.Input),
    Submission.classify settings values a wallet .null
      = Submission.classify settings values b wallet .null

/-- The stored schema of a form has the form's properties. -/
theorem FormSchema.resolve_schema (form : FormSchema) :
    (SchemaInput.stored form.schema).resolve = .ok (Entries.ofMembers form.properties, none) := by
  have hproperties : Members.get? ([("title", form.title), ("type", Json.text "object"),
      ("required", Json.ofTexts form.required), ("properties", .object form.properties)].map
        fun f => (Text.ofString f.1, f.2)) (Text.ofString "properties")
      = some (.object form.properties) := Json.get?_literal _ _
  rw [SchemaInput.resolve, FormSchema.schema, Json.record, SchemaInput.nestedProperties?,
    hproperties]
  rfl

namespace Compiled

variable {settings : Settings} {fields : FieldInput} {feed : Json} {wallet : Wallet.Input}
  {form : FormSchema} {rules : NormalizedRules} {documents : List WalletDocument}
  {plans : List DocumentPlan}

/-- The names of the document fields that a form lists are those that its properties show. -/
theorem documentNames_properties
    (h : Compiled settings fields feed wallet form rules documents plans) :
    BenefitForm.documentNames (Entries.ofMembers form.properties)
      = .ok (form.documentNames.map .text) := by
  rw [documentNames_ofMembers, h.properties, documentNames_formMember, ← h.documentNames]
  rfl

/-- The document fields of stored properties are those of the form. -/
theorem documentFields_properties
    (h : Compiled settings fields feed wallet form rules documents plans) :
    Submission.documentFields .null none (Entries.ofMembers form.properties)
      = .ok (namesJson (form.documentNames.map Key.text)) := by
  show (BenefitForm.documentNames (Entries.ofMembers form.properties)).map namesJson = _
  rw [h.documentNames_properties]
  rfl

/-- A schema whose properties are those of the form serves for the form. -/
theorem agree_of_resolve (h : Compiled settings fields feed wallet form rules documents plans)
    {schema : SchemaInput}
    (hresolve : schema.resolve = .ok (Entries.ofMembers form.properties, none)) :
    SchemaInput.Agree settings schema (.form form) := by
  intro values held
  rw [Submission.classify_eq hresolve h.documentFields_properties, Submission.classify_form]

/-- Properties among which none is named `properties` serve for the form. -/
theorem agree_properties (h : Compiled settings fields feed wallet form rules documents plans)
    (hname : Text.ofString "properties" ∉ Members.keys form.properties) :
    SchemaInput.Agree settings (.stored (.object form.properties)) (.form form) := by
  refine h.agree_of_resolve ?_
  rw [SchemaInput.resolve, SchemaInput.nestedProperties?, Members.get?_eq_none_iff.mpr hname]
  rfl

/-- Of properties with one named `properties` all values are personal. -/
theorem classify_properties_of_mem
    (h : Compiled settings fields feed wallet form rules documents plans)
    (hname : Text.ofString "properties" ∈ Members.keys form.properties) (values : Json)
    (held : Wallet.Input) :
    Submission.classify settings values (.stored (.object form.properties)) held .null = (do
      let _ ← held.load
      let personal ← Submission.personalFields [] values
      return { personal := personal }) := by
  rw [h.keys_properties] at hname
  obtain ⟨p, hp, hpname⟩ := List.mem_map.mp hname
  have hresolve : (SchemaInput.stored (.object form.properties)).resolve
      = .ok (Entries.ofMembers p.formMembers, none) := by
    rw [SchemaInput.resolve, SchemaInput.nestedProperties?, ← hpname, h.get?_properties hp]
    rfl
  have hnames : Submission.documentFields .null none (Entries.ofMembers p.formMembers)
      = .ok (namesJson (([] : List Text).map Key.text)) := by
    show (BenefitForm.documentNames (Entries.ofMembers p.formMembers)).map namesJson = _
    rw [documentNames_ofMembers, documentNames_formMembers]
    rfl
  exact Submission.classify_eq hresolve hnames values held

/-- Properties serve for the form iff none is named `properties` or the form has no document
fields. -/
theorem agree_properties_iff (h : Compiled settings fields feed wallet form rules documents plans) :
    SchemaInput.Agree settings (.stored (.object form.properties)) (.form form) ↔
      Text.ofString "properties" ∉ Members.keys form.properties ∨ form.documentNames = [] := by
  constructor
  · intro hagree
    by_contra hnot
    rw [not_or, not_not] at hnot
    obtain ⟨hname, hne⟩ := hnot
    -- a value of a document field is submitted in one case and personal in the other
    obtain ⟨name, hmem⟩ := List.exists_mem_of_ne_nil _ hne
    obtain ⟨p, hp, hsubmitted, -⟩ := h.mem_documentNames_iff.mp hmem
    obtain ⟨content, hcontent⟩ := Content.exists_encodeText (t := Text.ofString "x") (by decide)
    have houtcome := congrArg Trace.outcome
      (hagree (.object [(p.name, .string (Text.ofString "x"))]) wallet)
    rw [h.classify_properties_of_mem hname, h.classify_single hp hsubmitted (by decide), hcontent,
      Trace.outcome_bind, h.loaded] at houtcome
    have hsame := Except.ok.inj houtcome
    have hfile := congrArg Submission.files hsame
    have hdocument := congrArg Submission.documents hsame
    generalize p.fieldRecord settings documents _ _ content = r at hfile hdocument
    cases r with
    | file _ _ => cases hfile
    | document _ => cases hdocument
  · rintro (hname | hnone)
    · exact h.agree_properties hname
    · by_cases hname : Text.ofString "properties" ∈ Members.keys form.properties
      · intro values held
        rw [h.classify_properties_of_mem hname, Submission.classify_form, hnone]
        rfl
      · exact h.agree_properties hname

/-- The only failure of a submission is that of the encoding, where the wallet loads and every value
has a plain text. -/
theorem classify_eq_error (h : Compiled settings fields feed wallet form rules documents plans)
    {data : Members} (hplain : ∀ name v, Members.get? data name = some v → ∃ t, v.plain = .ok t)
    {held : Wallet.Input} {loaded : List WalletDocument} (hheld : held.load.outcome = .ok loaded)
    {e : Failure}
    (herror : (Submission.classify settings (.object data) (.form form) held .null).outcome
      = .error e) : e = .encodingFailed := by
  rw [h.outcome_classify, hheld, ok_bind] at herror
  cases hrun : ((formProperties settings fields.read.fields documents plans).filter
      (·.isSubmitted)).mapM (FormProperty.recordAmong settings loaded data) with
  | error e' =>
    rw [hrun] at herror
    cases herror
    obtain ⟨p, -, hp⟩ := exists_of_mapM_eq_error hrun
    exact recordAmong_eq_error_of_plain (hplain p.name) hp
  | ok rs =>
    rw [hrun] at herror
    cases herror

end Compiled

/-- A compiled form and its stored schema are one in submissions, whatever the values and the wallet
are, and the properties alone are the same iff none is named `properties` or there are no document
fields. With a wallet that loads and values that have plain texts no submission ends otherwise than
with the failure of the encoding. -/
theorem schema_forms {settings : Settings} {fields : FieldInput} {feed : Json}
    {wallet : Wallet.Input} {title benefitId : Json} {form : FormSchema}
    (hform : (compileForm settings fields feed wallet title benefitId).outcome = .ok form) :
    SchemaInput.Agree settings (.stored form.schema) (.form form) ∧
      (SchemaInput.Agree settings (.stored (.object form.properties)) (.form form) ↔
        Text.ofString "properties" ∉ Members.keys form.properties ∨ form.documentNames = []) ∧
      ∀ (data : Members) (held : Wallet.Input) (loaded : List WalletDocument) (e : Failure),
        held.load.outcome = .ok loaded →
        (∀ name v, Members.get? data name = some v → ∃ t, v.plain = .ok t) →
        (Submission.classify settings (.object data) (.form form) held .null).outcome = .error e →
        e = .encodingFailed := by
  obtain ⟨rules, documents, plans, hc⟩ := compileForm_ok hform
  refine ⟨hc.agree_of_resolve form.resolve_schema, hc.agree_properties_iff, ?_⟩
  intro data held loaded e hheld hplain herror
  exact hc.classify_eq_error hplain hheld herror

/-- The properties of a form with one document field serve for the form. -/
theorem schema_forms_of_selection :
    ∃ form, (compileForm .standard (.flat []) (requiring "p") (.documents (holding "p" ["x"])) .null
        .null).outcome = .ok form ∧ form.documentNames = [Text.ofString "p"] ∧
      SchemaInput.Agree .standard (.stored form.schema) (.form form) ∧
      SchemaInput.Agree .standard (.stored (.object form.properties)) (.form form) := by
  have hany : ((compileForm .standard (.flat []) (requiring "p") (.documents (holding "p" ["x"]))
      .null .null).outcome.toOption.any fun form =>
        form.documentNames = [Text.ofString "p"] ∧
        Text.ofString "properties" ∉ Members.keys form.properties) = true := by
    decide +kernel
  obtain ⟨form, hform, hany⟩ := exists_ok_of_any hany
  obtain ⟨hnames, hunnamed⟩ := of_decide_eq_true hany
  obtain ⟨hagree, hproperties, -⟩ := schema_forms hform
  exact ⟨form, hform, hnames, hagree, hproperties.mpr (.inl hunnamed)⟩

/-- A declared field of the name `properties`. -/
def propertiesField : FieldInput := .flat [.declared { name := Text.ofString "properties" }]

/-- With a field named `properties` the selected document is submitted against the form and is a
personal value against its properties. -/
theorem schema_forms_misread :
    ∃ form s t, (compileForm .standard propertiesField (requiring "p")
        (.documents (holding "p" ["x"])) .null .null).outcome = .ok form ∧
      (Submission.classify .standard (.object (filling "p" "x")) (.form form)
        (.documents (holding "p" ["x"])) .null).outcome = .ok s ∧
      (Submission.classify .standard (.object (filling "p" "x"))
        (.stored (.object form.properties)) (.documents (holding "p" ["x"])) .null).outcome
          = .ok t ∧
      (s.personal.length = 0 ∧ s.documents.length = 1) ∧
      t.personal.length = 1 ∧ t.documents.length = 0 := by
  have hany : ((compileForm .standard propertiesField (requiring "p")
      (.documents (holding "p" ["x"])) .null .null).outcome.toOption.any fun form =>
        (Submission.classify .standard (.object (filling "p" "x")) (.form form)
          (.documents (holding "p" ["x"])) .null).outcome.toOption.any (fun s =>
            s.personal.length = 0 ∧ s.documents.length = 1) &&
        (Submission.classify .standard (.object (filling "p" "x"))
          (.stored (.object form.properties)) (.documents (holding "p" ["x"]))
            .null).outcome.toOption.any (fun t =>
              t.personal.length = 1 ∧ t.documents.length = 0)) = true := by
    decide +kernel
  obtain ⟨form, hform, hany⟩ := exists_ok_of_any hany
  rw [Bool.and_eq_true] at hany
  obtain ⟨s, hs, hlisted⟩ := exists_ok_of_any hany.1
  obtain ⟨t, ht, hlost⟩ := exists_ok_of_any hany.2
  exact ⟨form, s, t, hform, hs, ht, of_decide_eq_true hlisted, of_decide_eq_true hlost⟩

end BenefitForm
