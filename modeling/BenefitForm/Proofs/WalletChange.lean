import BenefitForm.Proofs.MissingDocument
import BenefitForm.Proofs.Undisturbed

/-!
# What a wallet changes in a form

Which properties a form has, and in which order and groups, is settled by its
fields and rules. Each property is made of a declared field or of a plan
(`FieldSource`), which has its name and its mark before a wallet is looked at; the
wallet fills in the options of document fields and nothing else. A wallet that is
longer at its end adds to these options at their end.

- `formProperties_eq_map`: the sources of a form's properties, without a wallet.
- `FormSchema.Alike`, `FormSchema.Grows`: how the forms for two wallets
  are alike, and what more documents do to a form.
- `compileForm_wallet`: both, of every two wallets on which there are forms.
-/

namespace BenefitForm

open FormProperty

/-! ### Sources -/

/-- What a property of a form is made of. -/
inductive FieldSource where
  | declared (f : DeclaredField)
  | planned (plan : DocumentPlan)

namespace FieldSource

/-- The name of the property. -/
def name : FieldSource → Text
  | declared f => f.name
  | planned plan => plan.name

/-- The property for a wallet. -/
def property (settings : Settings) (documents : List WalletDocument) : FieldSource → FormProperty
  | declared f => f.property
  | planned plan => plan.property settings documents

/-- The sources of the properties of a form: the first of each name. -/
def kept (fields : List DeclaredField) (plans : List DocumentPlan) : List FieldSource :=
  firstsBy name (fields.map declared ++ plans.map planned)

/-- What is the same for all wallets of document fields is so of all properties. -/
theorem property_congr {α : Type} {settings : Settings} {ds es : List WalletDocument}
    {g : FormProperty → α}
    (h : ∀ plan : DocumentPlan, g (plan.property settings ds) = g (plan.property settings es)) :
    g ∘ property settings ds = g ∘ property settings es := by
  funext s
  cases s with
  | declared f => rfl
  | planned plan => exact h plan

/-- The properties of a form are those of their sources. -/
theorem formProperties_eq_map (settings : Settings) (fields : List DeclaredField)
    (documents : List WalletDocument) (plans : List DocumentPlan) :
    formProperties settings fields documents plans
      = (kept fields plans).map (property settings documents) := by
  have hname : name = fun s => (property settings documents s).name := by
    funext s
    cases s <;> rfl
  rw [kept, hname, firstsBy_map, List.map_append, List.map_map, List.map_map]
  rfl

/-- A plan that a property is made of is the first of its name. -/
theorem find?_of_mem_kept {fields : List DeclaredField} {plans : List DocumentPlan}
    {plan : DocumentPlan} (h : planned plan ∈ kept fields plans) :
    plans.find? (fun q => q.name == plan.name) = some plan := by
  have hfirst := (mem_firstsBy_iff name).mp h
  rw [List.find?_append, List.find?_map, List.find?_map] at hfirst
  -- a declared field of the name would be found first
  cases hdeclared : fields.find? ((fun s => s.name == (planned plan).name) ∘ declared) with
  | some f =>
    rw [hdeclared] at hfirst
    cases hfirst
  | none =>
    rw [hdeclared] at hfirst
    obtain ⟨q, hq, hplanned⟩ := Option.map_eq_some_iff.mp hfirst
    cases hplanned
    exact hq

end FieldSource

open FieldSource

section

variable (settings : Settings) (fields : List DeclaredField) (ds es : List WalletDocument)
  (plans : List DocumentPlan)

/-- A wallet does not decide which of the properties have a mark that does not depend on it. -/
theorem names_filter_formProperties {q : FormProperty → Bool}
    (h : ∀ plan : DocumentPlan, q (plan.property settings ds) = q (plan.property settings es)) :
    ((formProperties settings fields ds plans).filter q).map (·.name)
      = ((formProperties settings fields es plans).filter q).map (·.name) := by
  have hname : FormProperty.name ∘ property settings ds
      = FormProperty.name ∘ property settings es := property_congr fun _ => rfl
  rw [formProperties_eq_map, formProperties_eq_map, List.filter_map, List.filter_map, List.map_map,
    List.map_map, property_congr h]
  exact congrArg (List.map · _) hname

/-- The groups of the properties are the same for all wallets. -/
theorem displayGroups_property (sources : List FieldSource) (groups : List (DisplayGroup Text))
    (ungrouped : List Text) :
    displayGroups ((sources.map (property settings ds)).map formMember) groups ungrouped
      = displayGroups ((sources.map (property settings es)).map formMember) groups ungrouped := by
  induction sources generalizing groups ungrouped with
  | nil => rfl
  | cons s sources ih =>
    have hgroup : (s.property settings ds).groupName = (s.property settings es).groupName ∧
        (s.property settings ds).groupLabel = (s.property settings es).groupLabel ∧
        (s.property settings ds).name = (s.property settings es).name := by
      cases s <;> exact ⟨rfl, rfl, rfl⟩
    simp only [List.map_cons, displayGroups_formMember_cons, ih, hgroup]

/-- So are the hints. -/
theorem displayHints_formProperties (documents : List Text) :
    displayHints ((formProperties settings fields ds plans).map formMember) documents
      = displayHints ((formProperties settings fields es plans).map formMember) documents := by
  rw [formProperties_eq_map, formProperties_eq_map, displayHints, displayHints,
    displayGroups_property settings ds es]

/-- The plans whose names are taken are found without a wallet. -/
theorem takenWarnings_eq_map :
    takenWarnings settings fields ds plans
      = ((firstsBy DocumentPlan.name plans).filter fun plan =>
          plan.name ∈ (fields.map DeclaredField.property).map (·.name)).map
            fun plan => .duplicate (.text plan.name) := by
  rw [takenWarnings, ← firstsBy_map, List.filter_map, List.map_map]
  rfl

end

/-! ### Warnings -/

namespace Registry

/-- Without the notes the warnings of a run are those about duplicates. -/
theorem filter_reports {note : FormProperty → List CompilationWarning}
    (hnote : ∀ p, ∀ w ∈ note p, w.code = .unmatchedDocument) (taken : List Text)
    (ps : List FormProperty) :
    (reports note taken ps).filter (·.code != .unmatchedDocument)
      = reports (fun _ => []) taken ps := by
  induction ps generalizing taken with
  | nil => rfl
  | cons p ps ih =>
    rw [reports, reports]
    split
    · rw [List.filter_cons_of_pos rfl, ih]
    · have hnone : (note p).filter (·.code != .unmatchedDocument) = [] :=
        List.filter_eq_nil_iff.mpr fun w hw => by simp [hnote p w hw]
      rw [List.filter_append, hnone, ih]

/-- The duplicates of a run depend on the names of what is offered. -/
theorem reports_congr {ps qs : List FormProperty} (h : ps.map (·.name) = qs.map (·.name))
    (taken : List Text) : reports (fun _ => []) taken ps = reports (fun _ => []) taken qs := by
  induction ps generalizing qs taken with
  | nil => rw [List.map_eq_nil_iff.mp h.symm]
  | cons p ps ih =>
    cases qs with
    | nil => cases h
    | cons q qs =>
      obtain ⟨hname, hrest⟩ := List.cons.inj h
      have hname : p.name = q.name := hname
      rw [reports, reports, hname, ih hrest, ih hrest]

end Registry

/-- A wallet decides about the warnings that documents are missing alone. -/
theorem filter_compilationWarnings (settings : Settings) (reading : FieldReading)
    (rules : NormalizedRules) (ds es : List WalletDocument) (plans : List DocumentPlan) :
    (compilationWarnings settings reading rules ds plans).filter (·.code != .unmatchedDocument)
      = (compilationWarnings settings reading rules es plans).filter
        (·.code != .unmatchedDocument) := by
  have hnames : (plans.map (DocumentPlan.property settings ds)).map (·.name)
      = (plans.map (DocumentPlan.property settings es)).map (·.name) := by
    rw [List.map_map, List.map_map]
    rfl
  rw [compilationWarnings, compilationWarnings]
  simp only [List.filter_append, Registry.filter_reports DocumentFields.code_of_mem_note]
  rw [Registry.reports_congr hnames, takenWarnings_eq_map, takenWarnings_eq_map]

/-! ### Properties of two forms -/

/-- What a property says apart from its options. -/
def Members.withoutOptions (members : Members) : Members :=
  Members.erase (Members.erase (Members.erase members (Text.ofString "enum"))
    (Text.ofString "enumNames")) (Text.ofString "default")

/-- Whether a property is the same in two forms, apart from its options where it carries the
metadata of a document. -/
inductive AlikeProperty : Text × Json → Text × Json → Prop
  | same (m : Text × Json) : AlikeProperty m m
  | document (name : Text) {members others : Members}
      (hmeta : Members.contains members (Text.ofString "vcMeta") = true)
      (hothers : members.withoutOptions = others.withoutOptions) :
      AlikeProperty (name, .object members) (name, .object others)

/-- Whether one selector offers what another one does, in its order, then possibly more, and starts
with the same value. -/
structure Members.Grows (old new : Members) : Prop where
  default : Json.member new "default" = Json.member old "default"
  values : ∃ values more, Json.member old "enum" = Json.ofTexts values ∧
    Json.member new "enum" = Json.ofTexts (values ++ more)
  names : ∃ names more, Json.member old "enumNames" = Json.ofTexts names ∧
    Json.member new "enumNames" = Json.ofTexts (names ++ more)

namespace FormProperty

theorem contains_vcMeta (p : FormProperty) :
    Members.contains p.formMembers (Text.ofString "vcMeta") = p.isDocument := by
  have hslot : p.slots.lookup "vcMeta" = some (p.documentMeta?.map DocumentMeta.toJson) := rfl
  rw [Bool.eq_iff_iff, Members.contains_iff, ← not_iff_not, ← Members.get?_eq_none_iff,
    p.get?_formMembers (by decide), hslot, isDocument]
  cases p.documentMeta? <;> simp

end FormProperty

/-- Of two parts of a wallet the documents of the first come first. -/
theorem Wallet.matching_append (proofs : List ProofType) (ds es : List WalletDocument) :
    matching proofs (ds ++ es) = matching proofs ds ++ matching proofs es :=
  List.filter_append ..

namespace DocumentPlan

variable (settings : Settings) (ds es : List WalletDocument) (plan : DocumentPlan)

/-- Apart from its options a document field is the same for all wallets. -/
theorem withoutOptions_property :
    (plan.property settings ds).formMembers.withoutOptions
      = (plan.property settings es).formMembers.withoutOptions := by
  simp only [Members.withoutOptions, formMembers, members_eq_ofSlots, erase_ofSlots]
  rfl

/-- With more documents a document field that has one offers the new ones after the old ones. -/
theorem grows_property (h : Wallet.matching plan.proofs ds ≠ []) :
    (plan.property settings ds).formMembers.Grows
      (plan.property settings (ds ++ es)).formMembers := by
  have happend := Wallet.matching_append plan.proofs ds es
  obtain ⟨d, rest, hfound⟩ := List.exists_cons_of_ne_nil h
  have hold : (plan.property settings ds).values? = some ((d :: rest).map (·.content)) := by
    simp only [property, hfound]
    rfl
  have hnew : (plan.property settings (ds ++ es)).values?
      = some (((d :: rest) ++ Wallet.matching plan.proofs es).map (·.content)) := by
    simp only [property, happend, hfound]
    rfl
  constructor
  case default =>
    rw [member_formMembers _ (by decide), member_formMembers _ (by decide)]
    simp only [property, happend, hfound]
    rfl
  case values =>
    refine ⟨(d :: rest).map (·.content), (Wallet.matching plan.proofs es).map (·.content), ?_, ?_⟩
    · rw [member_enum, hold, Option.map_some, Option.getD_some]
    · rw [member_enum, hnew, List.map_append, Option.map_some, Option.getD_some]
  case names =>
    refine ⟨(Wallet.matching plan.proofs ds).map (·.subtype),
      (Wallet.matching plan.proofs es).map (·.subtype), ?_, ?_⟩
    · rw [member_enumNames]
      rfl
    · rw [member_enumNames, ← List.map_append, ← happend]
      rfl

/-- With more documents no field comes to lack one. -/
theorem hasNoOption_of_append (h : (plan.property settings (ds ++ es)).hasNoOption = true) :
    (plan.property settings ds).hasNoOption = true := by
  have happend := Wallet.matching_append plan.proofs ds es
  rw [property_missing_iff] at h ⊢
  by_cases hnone : Wallet.matching plan.proofs ds = []
  · exact .inl hnone
  · rcases h with h | h
    · rw [happend] at h
      exact .inl (List.append_eq_nil_iff.mp h).1
    · refine .inr ⟨hnone, fun d hd => h.empty d ?_⟩
      rw [happend]
      exact List.mem_append_left _ hd

end DocumentPlan

/-! ### Two forms -/

namespace FormSchema

/-- How two forms are alike that differ in their wallets. -/
structure Alike (form other : FormSchema) : Prop where
  title : form.title = other.title
  required : form.required = other.required
  hints : form.hints = other.hints
  documentNames : form.documentNames = other.documentNames
  /-- The properties are the same in the same order, apart from the options of document fields. -/
  properties : List.Forall₂ AlikeProperty form.properties other.properties
  /-- The warnings are the same in the same order, apart from those about missing documents. -/
  warnings : form.warnings.filter (·.code != .unmatchedDocument)
    = other.warnings.filter (·.code != .unmatchedDocument)

/-- What more documents do to the form that is made of plans and documents. -/
structure Grows (form more : FormSchema) (documents : List WalletDocument)
    (plans : List DocumentPlan) : Prop where
  /-- No document comes to be missing. -/
  missing : more.missing.Sublist form.missing
  /-- A property with the metadata of a document is that of a plan. Where a document is one of its
  proofs, its options and the value that it starts with are kept. -/
  selectors : ∀ (name : Text) (old : Members),
    Members.get? form.properties name = some (.object old) →
    Members.contains old (Text.ofString "vcMeta") = true →
      ∃ plan, plans.find? (fun q => q.name == name) = some plan ∧
        ((∃ d ∈ documents, d.subtype ∈ plan.proofs) → ∃ new : Members,
          Members.get? more.properties name = some (.object new) ∧ old.Grows new)

end FormSchema

/-- The properties for two wallets are alike. -/
theorem alike_formProperties (settings : Settings) (fields : List DeclaredField)
    (ds es : List WalletDocument) (plans : List DocumentPlan) :
    List.Forall₂ AlikeProperty ((formProperties settings fields ds plans).map formMember)
      ((formProperties settings fields es plans).map formMember) := by
  rw [formProperties_eq_map, formProperties_eq_map, List.map_map, List.map_map,
    List.forall₂_map_left_iff, List.forall₂_map_right_iff, List.forall₂_same]
  intro s _
  cases s with
  | declared f => exact .same _
  | planned plan =>
    exact .document plan.name (contains_vcMeta _) (plan.withoutOptions_property settings ds es)

/-- The form for one wallet is that for another with the properties, the missing documents and the
warnings replaced; there is one for both or for none. -/
theorem ofProperties_eq_map (settings : Settings) (fields : List DeclaredField)
    (ds es : List WalletDocument) (plans : List DocumentPlan) (title : Json)
    (vs ws : List CompilationWarning) :
    FormSchema.ofProperties (formProperties settings fields es plans) title ws
      = (FormSchema.ofProperties (formProperties settings fields ds plans) title vs).map
        fun form => { form with
          properties := (formProperties settings fields es plans).map formMember
          missing := (((formProperties settings fields es plans).filter (·.isSubmitted)).filter
            (·.hasNoOption)).map (·.name)
          warnings := ws } := by
  have hrequired := names_filter_formProperties settings fields es ds plans
    (q := (·.required)) fun _ => rfl
  have hsubmitted := names_filter_formProperties settings fields es ds plans
    (q := (·.isSubmitted)) fun _ => rfl
  rw [FormSchema.ofProperties, FormSchema.ofProperties, hrequired, hsubmitted,
    displayHints_formProperties settings fields es ds plans]
  cases displayHints ((formProperties settings fields ds plans).map formMember)
    (((formProperties settings fields ds plans).filter (·.isSubmitted)).map (·.name)) <;> rfl

/-- The forms for two wallets are alike. -/
theorem alike_of_ofProperties {settings : Settings} {fields : List DeclaredField}
    {ds es : List WalletDocument} {plans : List DocumentPlan} {title : Json}
    {vs ws : List CompilationWarning} {form other : FormSchema}
    (hform : FormSchema.ofProperties (formProperties settings fields ds plans) title vs = .ok form)
    (hother : FormSchema.ofProperties (formProperties settings fields es plans) title ws
      = .ok other)
    (hwarnings : vs.filter (·.code != .unmatchedDocument)
      = ws.filter (·.code != .unmatchedDocument)) : form.Alike other := by
  rw [ofProperties_eq_map settings fields ds es plans title vs ws, hform] at hother
  cases hother
  obtain ⟨hints, -, hpure⟩ := bind_eq_ok_iff.mp hform
  cases hpure
  exact ⟨rfl, rfl, rfl, rfl, alike_formProperties .., hwarnings⟩

/-- More documents do to the form of some documents what `FormSchema.Grows` says. -/
theorem Compiled.grows {settings : Settings} {fields : FieldInput} {feed : Json}
    {wallet longer : Wallet.Input} {form more : FormSchema} {rules : NormalizedRules}
    {ds es : List WalletDocument} {plans : List DocumentPlan}
    (h : Compiled settings fields feed wallet form rules ds plans)
    (hmore : Compiled settings fields feed longer more rules (ds ++ es) plans) :
    form.Grows more ds plans := by
  constructor
  case missing =>
    have hname : FormProperty.name ∘ FieldSource.property settings (ds ++ es)
        = FormProperty.name ∘ FieldSource.property settings ds := property_congr fun _ => rfl
    -- both lists are taken from the same sources, and the second condition is the stronger one
    rw [h.missing, hmore.missing, formProperties_eq_map, formProperties_eq_map]
    simp only [List.filter_map, List.map_map, List.filter_filter, hname]
    refine (List.monotone_filter_right _ fun s hs => ?_).map _
    cases s with
    | declared f => exact hs
    | planned plan =>
      obtain ⟨hoption, hsubmitted⟩ := Bool.and_eq_true_iff.mp hs
      exact Bool.and_eq_true_iff.mpr
        ⟨plan.hasNoOption_of_append settings ds es hoption, hsubmitted⟩
  case selectors =>
    intro name old hold hmeta
    obtain ⟨p, hp, hmember⟩ := h.mem_properties_iff.mp (Members.mem_of_get? hold)
    cases hmember
    rw [formProperties_eq_map] at hp
    obtain ⟨s, hs, rfl⟩ := List.mem_map.mp hp
    rw [contains_vcMeta] at hmeta
    cases s with
    | declared f => cases hmeta
    | planned plan =>
      have hnew : plan.property settings (ds ++ es)
          ∈ formProperties settings fields.read.fields (ds ++ es) plans := by
        rw [formProperties_eq_map]
        exact List.mem_map.mpr ⟨FieldSource.planned plan, hs, rfl⟩
      have hget : Members.get? more.properties plan.name
          = some (.object (plan.property settings (ds ++ es)).formMembers) :=
        hmore.get?_properties hnew
      refine ⟨plan, find?_of_mem_kept hs, fun ⟨d, hd, hproof⟩ => ⟨_, hget, ?_⟩⟩
      exact plan.grows_property settings ds es
        (List.ne_nil_of_mem (List.mem_filter.mpr ⟨hd, List.contains_iff_mem.mpr hproof⟩))

/-! ### Two wallets -/

/-- A list of records is read part by part. -/
theorem Wallet.outcome_loadEntries_append (items more : List Json) :
    (loadEntries (items ++ more)).outcome = (do
      let ds ← (loadEntries items).outcome
      let es ← (loadEntries more).outcome
      return ds ++ es) := by
  induction items with
  | nil =>
    rw [List.nil_append]
    cases (loadEntries more).outcome <;> rfl
  | cons v rest ih =>
    cases v with
    | object members =>
      simp only [List.cons_append, loadEntries, Trace.outcome_bind, ih]
      cases (liftM (WalletDocument.ofMembers members) : Trace WalletDocument).outcome with
      | error e => rfl
      | ok d =>
        cases (loadEntries rest).outcome with
        | error e => rfl
        | ok ds => cases (loadEntries more).outcome <;> rfl
    | _ =>
      simp only [List.cons_append, loadEntries, Trace.outcome_bind, Trace.outcome_note, ok_bind, ih]

/-- Whether a wallet list is made of two others, one after the other. -/
inductive Wallet.Joined : Wallet.Input → Wallet.Input → Wallet.Input → Prop
  | records (items more : List Json) :
      Joined (.records (.array items)) (.records (.array more)) (.records (.array (items ++ more)))
  | documents (ds es : List WalletDocument) :
      Joined (.documents ds) (.documents es) (.documents (ds ++ es))

/-- Joined wallets hold the documents of both. -/
theorem Wallet.Joined.outcome_load {first rest whole : Wallet.Input}
    (h : Wallet.Joined first rest whole) :
    whole.load.outcome = (do
      let ds ← first.load.outcome
      let es ← rest.load.outcome
      return ds ++ es) := by
  cases h with
  | records items more =>
    rw [outcome_load_array, outcome_load_array, outcome_load_array, outcome_loadEntries_append]
  | documents ds es => rfl

section

variable {settings : Settings} {fields : FieldInput} {feed title benefitId : Json}

/-- Where there is a form for one wallet, there is one for every other that can be read. -/
theorem exists_form_of_load {wallet other : Wallet.Input} {form : FormSchema}
    (hform : (compileForm settings fields feed wallet title benefitId).outcome = .ok form)
    {documents : List WalletDocument} (hload : other.load.outcome = .ok documents) :
    ∃ form', (compileForm settings fields feed other title benefitId).outcome = .ok form' := by
  obtain ⟨rules, ds, plans, hread, hrules, -, hplans, hmade⟩ := compileForm_eq_ok_iff.mp hform
  have hother := ofProperties_eq_map settings fields.read.fields ds documents plans title
    (compilationWarnings settings fields.read rules ds plans)
    (compilationWarnings settings fields.read rules documents plans)
  rw [hmade] at hother
  exact ⟨_, compileForm_eq_ok_iff.mpr
    ⟨rules, documents, plans, hread, hrules, hload, hplans, hother⟩⟩

/-- There is a form for joined wallets iff there is one for each of them. -/
theorem exists_form_joined_iff {first rest whole : Wallet.Input}
    (hjoined : Wallet.Joined first rest whole) :
    (∃ form, (compileForm settings fields feed whole title benefitId).outcome = .ok form) ↔
      (∃ form, (compileForm settings fields feed first title benefitId).outcome = .ok form) ∧
      ∃ form, (compileForm settings fields feed rest title benefitId).outcome = .ok form := by
  constructor
  · rintro ⟨form, hform⟩
    obtain ⟨_, _, _, hc⟩ := compileForm_ok hform
    obtain ⟨ds, hds, hrest⟩ := bind_eq_ok_iff.mp (hjoined.outcome_load.symm.trans hc.loaded)
    obtain ⟨es, hes, -⟩ := bind_eq_ok_iff.mp hrest
    exact ⟨exists_form_of_load hform hds, exists_form_of_load hform hes⟩
  · rintro ⟨⟨form, hform⟩, ⟨_, hrest⟩⟩
    obtain ⟨_, ds, _, hc⟩ := compileForm_ok hform
    obtain ⟨_, es, _, hc'⟩ := compileForm_ok hrest
    have hload : whole.load.outcome = .ok (ds ++ es) := by
      rw [hjoined.outcome_load, hc.loaded, hc'.loaded]
      rfl
    exact exists_form_of_load hform hload

end

/-- The forms for two wallets differ in the options of document fields and in the reports about
missing documents alone. There is a form for a wallet with further entries iff there is one for
each part, and the further entries add to the options and take from the missing documents. -/
theorem compileForm_wallet (settings : Settings) (fields : FieldInput)
    (feed title benefitId : Json) :
    (∀ (wallet wallet' : Wallet.Input) (form form' : FormSchema),
      (compileForm settings fields feed wallet title benefitId).outcome = .ok form →
      (compileForm settings fields feed wallet' title benefitId).outcome = .ok form' →
      form.Alike form') ∧
    ∀ first rest whole : Wallet.Input, Wallet.Joined first rest whole →
      ((∃ form, (compileForm settings fields feed whole title benefitId).outcome = .ok form) ↔
        (∃ form, (compileForm settings fields feed first title benefitId).outcome = .ok form) ∧
        ∃ form, (compileForm settings fields feed rest title benefitId).outcome = .ok form) ∧
      ∀ form form' : FormSchema,
        (compileForm settings fields feed first title benefitId).outcome = .ok form →
        (compileForm settings fields feed whole title benefitId).outcome = .ok form' →
        ∃ rules documents plans, (RuleFeed.normalize feed).outcome = .ok rules ∧
          first.load.outcome = .ok documents ∧ DocumentFields.plans rules = .ok plans ∧
          form.Grows form' documents plans := by
  constructor
  · intro wallet wallet' form form' hform hform'
    obtain ⟨rules, ds, plans, -, hrules, -, hplans, hmade⟩ := compileForm_eq_ok_iff.mp hform
    obtain ⟨rules', es, plans', -, hrules', -, hplans', hmade'⟩ := compileForm_eq_ok_iff.mp hform'
    cases hrules.symm.trans hrules'
    cases hplans.symm.trans hplans'
    exact alike_of_ofProperties hmade hmade'
      (filter_compilationWarnings settings _ rules ds es plans)
  · intro first rest whole hjoined
    refine ⟨exists_form_joined_iff hjoined, fun form form' hform hform' => ?_⟩
    obtain ⟨rules, ds, plans, hc⟩ := compileForm_ok hform
    obtain ⟨rules', ds', plans', hc'⟩ := compileForm_ok hform'
    cases hc.normalized.symm.trans hc'.normalized
    cases hc.planned.symm.trans hc'.planned
    -- the whole wallet holds the documents of its first part first
    have hload := hc'.loaded
    rw [hjoined.outcome_load, hc.loaded, ok_bind] at hload
    obtain ⟨es, -, hpure⟩ := bind_eq_ok_iff.mp hload
    cases hpure
    exact ⟨rules, ds, plans, hc.normalized, hc.loaded, hc.planned, hc.grows hc'⟩

/-- The record of a document that is a proof and has a content. -/
def documentRecord (proof content : String) : Json :=
  Json.record [("doc_subtype", Json.text proof), ("doc_data", Json.text content)]

/-- Of three document fields two are missing, and one of these with a longer wallet. -/
theorem compileForm_wallet_of_longer :
    ∃ form form', (compileForm .standard (.flat []) (asking ["p", "q", "r"])
        (.records (.array [documentRecord "p" "1"])) .null .null).outcome = .ok form ∧
      (compileForm .standard (.flat []) (asking ["p", "q", "r"])
        (.records (.array ([documentRecord "p" "1"] ++
          [documentRecord "p" "2", documentRecord "q" "3"]))) .null .null).outcome = .ok form' ∧
      form.missing = ["q", "r"].map Text.ofString ∧ form'.missing = ["r"].map Text.ofString ∧
      form.Alike form' ∧
      ∃ rules documents plans, (RuleFeed.normalize (asking ["p", "q", "r"])).outcome = .ok rules ∧
        (Wallet.load (.array [documentRecord "p" "1"])).outcome = .ok documents ∧
        DocumentFields.plans rules = .ok plans ∧ form.Grows form' documents plans := by
  have hany : ((compileForm .standard (.flat []) (asking ["p", "q", "r"])
      (.records (.array [documentRecord "p" "1"])) .null .null).outcome.toOption.any fun form =>
        form.missing = ["q", "r"].map Text.ofString) = true := by
    decide +kernel
  have hmore : ((compileForm .standard (.flat []) (asking ["p", "q", "r"])
      (.records (.array ([documentRecord "p" "1"] ++
        [documentRecord "p" "2", documentRecord "q" "3"]))) .null .null).outcome.toOption.any
          fun form => form.missing = ["r"].map Text.ofString) = true := by
    decide +kernel
  obtain ⟨form, hform, hmissing⟩ := exists_ok_of_any hany
  obtain ⟨form', hform', hmissing'⟩ := exists_ok_of_any hmore
  have hboth := compileForm_wallet .standard (.flat []) (asking ["p", "q", "r"]) .null .null
  exact ⟨form, form', hform, hform', of_decide_eq_true hmissing, of_decide_eq_true hmissing',
    hboth.1 _ _ form form' hform hform',
    (hboth.2 _ _ _ (.records _ _)).2 form form' hform hform'⟩

end BenefitForm
