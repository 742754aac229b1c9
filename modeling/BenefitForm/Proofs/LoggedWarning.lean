import BenefitForm.Proofs.Compilation

/-!
# Warnings in the log

What goes wrong in a compilation is told twice: in the log while it happens, and in
the warnings that come with the form. Both accounts are written at four places.
The feed logs the entries it refuses, and the registry takes its warnings over
without a record of its own; the registry logs what it warns about; the joined form
logs the names that were taken. Wallets and summaries are logged below the level of
a warning.

- `LogRecord.reported`: the messages of the records that tell of a problem.
- `RuleFeed.reported_normalize`, `FieldInput.reported_build`,
  `DocumentFields.reported_build`, `FormSchema.reported_assemble`: at each place the
  messages that are logged are those of the warnings that are added.
- `reported_compileForm`: so the log of every compilation tells the warnings of its
  form, each once and in order.
-/

namespace BenefitForm

/-! ### Records of a run -/

/-- Whether a record tells of a problem: it is a warning or more serious. -/
def LogRecord.isReport (r : LogRecord) : Bool := LogLevel.warning.number ≤ r.level.number

/-- The messages of the records that tell of a problem. -/
def LogRecord.reported (rs : List LogRecord) : List Text := (rs.filter (·.isReport)).map (·.message)

open LogRecord (reported)

theorem LogRecord.reported_append (rs ss : List LogRecord) :
    reported (rs ++ ss) = reported rs ++ reported ss := by
  rw [reported, List.filter_append, List.map_append]
  rfl

/-- A sequence that gives a result wrote what its two steps wrote. -/
theorem Trace.bind_ok {α β : Type} {x : Trace α} {f : α → Trace β} {b : β}
    (h : (x >>= f).outcome = .ok b) :
    ∃ a, x.outcome = .ok a ∧ (f a).outcome = .ok b ∧
      (x >>= f).records = x.records ++ (f a).records := by
  rw [Trace.outcome_bind] at h
  obtain ⟨a, ha, hb⟩ := bind_eq_ok_iff.mp h
  refine ⟨a, ha, hb, ?_⟩
  show (x.andThen f).records = _
  rw [Trace.andThen, ha]

/-! ### Rules and wallets -/

namespace RuleFeed

/-- While entries are added, the refused ones are logged as they are warned about. -/
theorem reported_addEntries {entries : List Json} {rules rules' : NormalizedRules} {index : Nat}
    (h : (addEntries rules index entries).outcome = .ok rules') :
    rules'.warnings.map (·.message)
      = rules.warnings.map (·.message) ++ reported (addEntries rules index entries).records := by
  induction entries generalizing rules index with
  | nil =>
    cases h
    exact (List.append_nil _).symm
  | cons entry rest ih =>
    unfold addEntries at h ⊢
    split at h
    · rename_i rule hrule
      rw [ih h, rules.warnings_addRule rule]
    · rename_i reason hreason
      obtain ⟨-, -, hrest, hrecords⟩ := Trace.bind_ok h
      rw [ih hrest, hrecords, LogRecord.reported_append, ← List.append_assoc]
      exact congrArg (· ++ _) List.map_append
    · cases h

/-- The entries that a feed refuses are logged as they are warned about. -/
theorem reported_normalize {feed : Json} {rules : NormalizedRules}
    (h : (normalize feed).outcome = .ok rules) :
    rules.warnings.map (·.message) = reported (normalize feed).records := by
  unfold normalize at h ⊢
  split at h
  · obtain ⟨read, hread, hsummed, hrecords⟩ := Trace.bind_ok h
    cases hsummed
    -- the record that sums up the feed is below a warning
    rw [hrecords, LogRecord.reported_append, reported_addEntries hread]
    exact (List.append_nil _).symm
  · cases h
    rfl
  · cases h
    rfl

end RuleFeed

namespace Wallet

/-- An entry that is no record is passed over without a report. -/
theorem reported_loadEntries {items : List Json} {documents : List WalletDocument}
    (h : (loadEntries items).outcome = .ok documents) :
    reported (loadEntries items).records = [] := by
  induction items generalizing documents with
  | nil => rfl
  | cons v rest ih =>
    cases v with
    | object members =>
      obtain ⟨d, -, hrest, hrecords⟩ := Trace.bind_ok h
      obtain ⟨ds, hds, -, hrestRecords⟩ := Trace.bind_ok hrest
      rw [loadEntries, hrecords, hrestRecords, LogRecord.reported_append,
        LogRecord.reported_append, ih hds]
      rfl
    | _ =>
      obtain ⟨-, -, hrest, hrecords⟩ := Trace.bind_ok h
      exact (congrArg reported hrecords).trans (ih hrest)

/-- A wallet is read without a report. -/
theorem reported_load {wallet : Input} {documents : List WalletDocument}
    (h : wallet.load.outcome = .ok documents) : reported wallet.load.records = [] := by
  cases wallet with
  | documents ds => rfl
  | records v =>
    obtain ⟨items, -, hitems, hrecords⟩ := Trace.bind_ok h
    exact (congrArg reported hrecords).trans (reported_loadEntries hitems)

end Wallet

/-! ### Registries -/

namespace Registry

/-- A run of offers only adds to the warnings. -/
theorem warnings_prefix_foldl_offer (note : FormProperty → List CompilationWarning) (r : Registry)
    (ps : List FormProperty) : r.warnings <+: (ps.foldl (offer note) r).warnings := by
  rw [warnings_foldl_offer]
  exact List.prefix_append _ _

theorem reported_map_record (ws : List CompilationWarning) :
    reported (ws.map CompilationWarning.record) = ws.map (·.message) := by
  induction ws with
  | nil => rfl
  | cons w ws ih => exact congrArg (w.message :: ·) ih

/-- A registry logs each warning that it adds. -/
theorem reported_recordsSince {earlier later : Registry}
    (h : earlier.warnings <+: later.warnings) :
    later.warnings.map (·.message)
      = earlier.warnings.map (·.message) ++ reported (earlier.recordsSince later) := by
  obtain ⟨ws, hws⟩ := h
  rw [recordsSince, ← hws, List.drop_left, reported_map_record, List.map_append]

end Registry

/-- What the builder of the declared fields logs is what it adds to the warnings. -/
theorem FieldInput.reported_build {input : FieldInput} {r : Registry} {f : Fragment}
    (h : (input.build r).outcome = .ok f) :
    f.warnings.map (·.message)
      = r.warnings.map (·.message) ++ reported (input.build r).records := by
  simp only [FieldInput.build, foldl_warn, Registry.addAll_eq_foldl_offer] at h ⊢
  cases hread : input.read.failure? with
  | some e =>
    rw [hread] at h
    cases h
  | none =>
    rw [hread] at h
    cases h
    have hadopted : r.warnings <+: (r.adopt input.read.warnings).warnings := List.prefix_append _ _
    exact Registry.reported_recordsSince
      (hadopted.trans (Registry.warnings_prefix_foldl_offer (fun _ => []) _ _))

namespace DocumentFields

/-- The builder of the document fields logs what it adds to the warnings of the rules. -/
theorem reported_buildNormalized {settings : Settings} {rules : NormalizedRules}
    {wallet : Wallet.Input} {r : Registry} {f : Fragment}
    (h : (buildNormalized settings rules wallet r).outcome = .ok f) :
    f.warnings.map (·.message)
      = (r.warnings ++ rules.warnings).map (·.message)
        ++ reported (buildNormalized settings rules wallet r).records := by
  simp only [buildNormalized, foldl_add] at h ⊢
  cases hload : wallet.load.outcome with
  | error e =>
    rw [hload] at h
    cases h
  | ok documents =>
    rw [hload] at h
    cases hplans : plans rules with
    | error e =>
      rw [hplans] at h
      cases h
    | ok plans =>
      rw [hplans] at h
      cases h
      have hadded := Registry.reported_recordsSince
        (Registry.warnings_prefix_foldl_offer note (r.adopt rules.warnings)
          (plans.map (DocumentPlan.property settings documents)))
      -- the wallet and the summary are logged below a warning
      simp only [LogRecord.reported_append, Wallet.reported_load hload]
      exact hadded.trans (congrArg (_ ++ ·) (List.append_nil _).symm)

/-- What the builder of the document fields logs, the feed included, is what it adds to the
warnings. -/
theorem reported_build {settings : Settings} {feed : Json} {wallet : Wallet.Input} {r : Registry}
    {f : Fragment} (h : (build settings feed wallet r).outcome = .ok f) :
    f.warnings.map (·.message)
      = r.warnings.map (·.message) ++ reported (build settings feed wallet r).records := by
  unfold build at h ⊢
  cases hrules : (RuleFeed.normalize feed).outcome with
  | error e =>
    simp only [hrules] at h
    cases h
  | ok rules =>
    simp only [hrules] at h ⊢
    -- the warnings of the rules were logged when the feed was read
    rw [reported_buildNormalized h, LogRecord.reported_append, List.map_append,
      RuleFeed.reported_normalize hrules, List.append_assoc]

end DocumentFields

/-! ### Forms -/

theorem FormSchema.reported_map_takenRecord (keys : List Key) :
    reported (keys.map takenRecord) = (keys.map CompilationWarning.duplicate).map (·.message) := by
  induction keys with
  | nil => rfl
  | cons key keys ih => exact congrArg (_ :: ·) ih

/-- The names that are taken when two parts are joined are logged as they are warned about. -/
theorem FormSchema.reported_assemble {κ : Type} [BEq κ] [MemberKey κ] {app doc : SchemaPart κ}
    {title : Json} {form : FormSchema κ} (h : (assemble app doc title).outcome = .ok form) :
    form.warnings.map (·.message)
      = (app.warnings ++ doc.warnings).map (·.message)
        ++ reported (assemble app doc title).records := by
  unfold assemble at h ⊢
  obtain ⟨-, -, hjoined, hrecords⟩ := Trace.bind_ok h
  obtain ⟨hoisted, -, hnamed, hhoistRecords⟩ := Trace.bind_ok hjoined
  obtain ⟨documents, -, hhinted, hnameRecords⟩ := Trace.bind_ok hnamed
  obtain ⟨hints, -, hlisted, hhintRecords⟩ := Trace.bind_ok hhinted
  obtain ⟨missing, -, hmade, hlistRecords⟩ := Trace.bind_ok hlisted
  cases hmade
  -- all steps but the first write nothing
  rw [hrecords, hhoistRecords, hnameRecords, hhintRecords, hlistRecords, LogRecord.reported_append]
  show _ = _ ++ (reported (List.map takenRecord _) ++ [])
  rw [List.append_nil, reported_map_takenRecord, ← List.map_append]

/-- In every compilation that gives a form, the messages that are logged as warnings or above are
the messages of the form's warnings, in order. -/
theorem reported_compileForm {settings : Settings} {fields : FieldInput} {feed : Json}
    {wallet : Wallet.Input} {title benefitId : Json} {form : FormSchema}
    (h : (compileForm settings fields feed wallet title benefitId).outcome = .ok form) :
    reported (compileForm settings fields feed wallet title benefitId).records
      = form.warnings.map (·.message) := by
  unfold compileForm at h ⊢
  obtain ⟨app, happ, hbuilt, happRecords⟩ := Trace.bind_ok h
  obtain ⟨doc, hdoc, hjoined, hdocRecords⟩ := Trace.bind_ok hbuilt
  obtain ⟨joined, hform, hnoted, hformRecords⟩ := Trace.bind_ok hjoined
  cases hnoted
  have happReported : app.warnings.map (·.message) = reported (fields.build {}).trace.records :=
    FieldInput.reported_build happ
  have hdocReported : doc.warnings.map (·.message)
      = reported (DocumentFields.build settings feed wallet {}).trace.records :=
    DocumentFields.reported_build hdoc
  -- the last record sums up the form and is below a warning
  have hsummed : reported (Trace.note (compiledRecord form benefitId) >>= fun _ =>
      (pure form : Trace FormSchema)).records = [] := rfl
  have hformReported : form.warnings.map (·.message) = _ := FormSchema.reported_assemble hform
  rw [happRecords, hdocRecords, hformRecords, LogRecord.reported_append, LogRecord.reported_append,
    LogRecord.reported_append, hsummed, ← happReported, ← hdocReported, List.append_nil,
    ← List.append_assoc, hformReported, List.map_append]
  rfl

/-- A document rule for some proofs. -/
def askingFor (proofs : List String) : Json :=
  Json.record [("documentType", Json.text "t"),
    ("allowedProofs", Json.ofTexts (proofs.map Text.ofString))]

/-- A field list, a feed and a wallet with something wrong at every stage: an entry that is none,
a name that is taken twice, a rule that is none, a document field without a document and one whose
name a declared field has, and a wallet entry that is no record. -/
def troubledFields : FieldInput :=
  .flat (.record .null :: ["a", "a", "p"].map fun name => .declared { name := Text.ofString name })

/-- Six problems are logged and come with the form. -/
theorem reported_compileForm_of_troubledFields :
    ∃ form, (compileForm .standard troubledFields (.array [.bool true, askingFor ["p", "q"]])
        (.records (.array [.null])) .null .null).outcome = .ok form ∧
      form.warnings.map (·.code) = [.malformedField, .duplicateField, .malformedRule,
        .unmatchedDocument, .unmatchedDocument, .duplicateField] ∧
      reported (compileForm .standard troubledFields (.array [.bool true, askingFor ["p", "q"]])
        (.records (.array [.null])) .null .null).records = form.warnings.map (·.message) := by
  have hcompiled : ((compileForm .standard troubledFields
      (.array [.bool true, askingFor ["p", "q"]]) (.records (.array [.null])) .null
      .null).outcome.toOption.any fun form => form.warnings.map (·.code) = [.malformedField,
        .duplicateField, .malformedRule, .unmatchedDocument, .unmatchedDocument,
        .duplicateField]) = true := by
    decide +kernel
  obtain ⟨form, hform, hcodes⟩ := exists_ok_of_any hcompiled
  exact ⟨form, hform, of_decide_eq_true hcodes, reported_compileForm hform⟩

end BenefitForm
