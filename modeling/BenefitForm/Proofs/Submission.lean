import BenefitForm.Proofs.Compilation
import BenefitForm.Proofs.DocumentRecord

/-!
# Splitting filled values

The document fields are added to a submission one after another, and each becomes
its record on its own: `recordOf` is one step, `outcome_addDocuments` the run.
Of a compiled form every step is known (`recordOf_form`), so a submission is the
personal values with the records of the filled document fields in form order
(`outcome_classify`).
-/

namespace BenefitForm

open FormProperty

/-- What a filled document field becomes. -/
inductive FieldRecord where
  | file (name content : Text)
  | document (d : SubmittedDocument)

namespace FieldRecord

/-- The file that the record is. -/
def file? : FieldRecord → Option (Text × Text)
  | file name content => some (name, content)
  | document _ => none

/-- The document that the record is. -/
def document? : FieldRecord → Option SubmittedDocument
  | file _ _ => none
  | document d => some d

end FieldRecord

namespace Submission

/-- A submission with one more record. -/
def add (s : Submission) : Option FieldRecord → Submission
  | none => s
  | some (.file name content) => { s with files := s.files ++ [(name, content)] }
  | some (.document d) => { s with documents := s.documents ++ [d] }

/-- The record of a document field with a value. -/
def filledRecord (settings : Settings) (field : Text) (value property : Json)
    (wallet : List WalletDocument) : Except Failure FieldRecord := do
  let content ← (Content.encode value).outcome
  let upload ← (Upload.isUpload settings field property).mapError Failure.fault
  if upload then return .file field content
  else do
    let d ← (SubmittedDocument.create settings field value content property
      (.documents wallet)).outcome
    return .document d

/-- The record of one document field, none where the field has no value. -/
def recordOf (settings : Settings) (values : Json) (properties : Entries)
    (wallet : List WalletDocument) (name : Key) : Except Failure (Option FieldRecord) := do
  let value ← (valueOf values name).mapError Failure.fault
  match value.truthy, name with
  | true, .text field => do
    let property := (Members.get? properties (.text field)).getD .null
    let r ← filledRecord settings field value property wallet
    return some r
  | _, _ => return none

/-! ### Runs over the document fields -/

section

variable (settings : Settings) (values : Json) (properties : Entries)
  (wallet : List WalletDocument)

/-- One step adds the record of its field. -/
theorem outcome_addDocuments_cons (name : Key) (rest : List Key) (s : Submission) :
    (addDocuments settings values properties wallet (name :: rest) s).outcome = (do
      let r ← recordOf settings values properties wallet name
      (addDocuments settings values properties wallet rest (s.add r)).outcome) := by
  rw [addDocuments, recordOf, Trace.outcome_bind, Trace.outcome_liftFault]
  -- both sides go through the same steps, and fail at the same ones
  cases valueOf values name with
  | error e => rfl
  | ok value =>
    rw [mapError_ok, ok_bind, ok_bind]
    cases value.truthy with
    | false => rfl
    | true =>
      cases name with
      | text field =>
        simp only [filledRecord, Trace.outcome_bind, Trace.outcome_liftFault]
        cases (Content.encode value).outcome with
        | error e => rfl
        | ok content =>
          simp only [ok_bind]
          cases Upload.isUpload settings field
            ((Members.get? properties (.text field)).getD .null) with
          | error e => rfl
          | ok upload =>
            simp only [mapError_ok, ok_bind]
            cases upload with
            | true => rfl
            | false =>
              simp only [Bool.false_eq_true, if_false, Trace.outcome_bind]
              cases (SubmittedDocument.create settings field value content
                ((Members.get? properties (.text field)).getD .null)
                (.documents wallet)).outcome <;> rfl
      | _ => rfl

/-- The document fields become their records, one by one, or the first failure ends the run. -/
theorem outcome_addDocuments (names : List Key) (s : Submission) :
    (addDocuments settings values properties wallet names s).outcome = (do
      let rs ← names.mapM (recordOf settings values properties wallet)
      return rs.foldl add s) := by
  induction names generalizing s with
  | nil => rfl
  | cons name rest ih =>
    rw [outcome_addDocuments_cons, List.mapM_cons]
    cases recordOf settings values properties wallet name with
    | error e => rfl
    | ok r =>
      rw [ok_bind, ih, ok_bind]
      cases rest.mapM (recordOf settings values properties wallet) <;> rfl

end

theorem foldl_add (rs : List (Option FieldRecord)) (s : Submission) :
    rs.foldl add s = { s with
      files := s.files ++ rs.filterMap (Option.bind · FieldRecord.file?)
      documents := s.documents ++ rs.filterMap (Option.bind · FieldRecord.document?) } := by
  induction rs generalizing s with
  | nil => simp
  | cons r rs ih =>
    rw [List.foldl_cons, ih]
    rcases r with _ | _ | _ <;>
      simp [add, List.filterMap_cons, FieldRecord.file?, FieldRecord.document?]

/-- A submission depends on a schema only through the properties and the names of the document
fields that are read from it. -/
theorem classify_eq {settings : Settings} {schema : SchemaInput} {properties : Entries}
    {listed : Option (List Key)} {names : List Key}
    (hresolve : schema.resolve = .ok (properties, listed))
    (hnames : documentFields .null listed properties = .ok (namesJson names))
    (values : Json) (wallet : Wallet.Input) :
    classify settings values schema wallet .null = (do
      let documents ← wallet.load
      let personal ← personalFields names values
      addDocuments settings values properties documents names { personal := personal }) := by
  have hitems : (namesJson names).iterate = .ok (names.map Key.toJson) := rfl
  rw [classify, hresolve, Trace.liftFault_ok_bind]
  dsimp only
  rw [hnames, Trace.liftFault_ok_bind]
  refine congrArg _ (funext fun documents => ?_)
  rw [hitems, Trace.liftFault_ok_bind, Key.mapM_toJson, Trace.liftFault_ok_bind]

/-- A form lists the names of its document fields. -/
theorem classify_form (settings : Settings) (form : FormSchema) (values : Json)
    (wallet : Wallet.Input) :
    classify settings values (.form form) wallet .null = (do
      let documents ← wallet.load
      let personal ← personalFields (form.documentNames.map .text) values
      addDocuments settings values (Entries.ofMembers form.properties) documents
        (form.documentNames.map .text) { personal := personal }) :=
  classify_eq rfl rfl values wallet

end Submission

/-! ### Submissions of compiled forms -/

theorem truthy_string {t : Text} (h : t ≠ []) : (Json.string t).truthy = true := by
  cases t with
  | nil => exact absurd rfl h
  | cons c t => rfl

namespace FormProperty

/-- What the property becomes with a value of the given text and content. -/
def fieldRecord (settings : Settings) (wallet : List WalletDocument) (p : FormProperty)
    (value : Json) (text content : Text) : FieldRecord :=
  if p.isUpload settings then .file p.name content
  else .document (p.submitted settings wallet value text content)

theorem fieldRecord_of_not_isUpload {settings : Settings} {wallet : List WalletDocument}
    {p : FormProperty} (h : p.isUpload settings = false) (value : Json) (text content : Text) :
    p.fieldRecord settings wallet value text content
      = .document (p.submitted settings wallet value text content) := by
  rw [fieldRecord, if_neg (by simp [h])]

/-- What a property becomes among filled values: its record, or nothing where it has no value. Only
the encoding of the value may fail. -/
def recordAmong (settings : Settings) (wallet : List WalletDocument) (data : Members)
    (p : FormProperty) : Except Failure (Option FieldRecord) :=
  let value := (Members.get? data p.name).getD .null
  if value.truthy then do
    let text ← value.plain.mapError Failure.fault
    let content ← (Content.encodeText text).mapError fun _ => Failure.encodingFailed
    return some (p.fieldRecord settings wallet value text content)
  else .ok none

/-- A property with a value becomes its record. -/
theorem filledRecord_formMembers (settings : Settings) (wallet : List WalletDocument)
    (p : FormProperty) {value : Json} (htruthy : value.truthy = true) :
    Submission.filledRecord settings p.name value (.object p.formMembers) wallet = (do
      let text ← value.plain.mapError Failure.fault
      let content ← (Content.encodeText text).mapError fun _ => Failure.encodingFailed
      return p.fieldRecord settings wallet value text content) := by
  rw [Submission.filledRecord, Content.outcome_encode, isUpload_formMembers]
  cases hplain : value.plain with
  | error e => rfl
  | ok text =>
    rw [mapError_ok, ok_bind, ok_bind]
    cases Content.encodeText text with
    | error e => rfl
    | ok content =>
      rw [mapError_ok, ok_bind, ok_bind, mapError_ok, ok_bind, fieldRecord,
        outcome_create settings wallet p htruthy hplain]
      cases p.isUpload settings <;> rfl

variable {settings : Settings} {wallet : List WalletDocument} {data : Members} {p : FormProperty}

/-- A field whose value is a text has a record unless the text is empty or has no encoding. -/
theorem recordAmong_of_text {t : Text} (h : Members.get? data p.name = some (.string t))
    (ht : t ≠ []) :
    p.recordAmong settings wallet data = (do
      let content ← (Content.encodeText t).mapError fun _ => Failure.encodingFailed
      return some (p.fieldRecord settings wallet (.string t) t content)) := by
  rw [recordAmong, h, Option.getD_some, if_pos (truthy_string ht)]
  rfl

/-- The only failure of a field whose value has a plain text is that of the encoding. -/
theorem recordAmong_eq_error_of_plain
    (hplain : ∀ v, Members.get? data p.name = some v → ∃ t, v.plain = .ok t) {e : Failure}
    (h : p.recordAmong settings wallet data = .error e) : e = .encodingFailed := by
  rw [recordAmong] at h
  split at h
  case isFalse => cases h
  case isTrue htruthy =>
    cases hv : Members.get? data p.name with
    | none =>
      rw [hv] at htruthy
      cases htruthy
    | some v =>
      obtain ⟨t, ht⟩ := hplain v hv
      rw [hv, Option.getD_some, ht, mapError_ok, ok_bind] at h
      cases hencoded : Content.encodeText t with
      | error e' =>
        rw [hencoded] at h
        cases h
        rfl
      | ok content =>
        rw [hencoded] at h
        cases h

/-- The only failure of a field whose value is a text is that of the encoding. -/
theorem recordAmong_eq_error (htext : ∀ v, Members.get? data p.name = some v → ∃ t, v = .string t)
    {e : Failure} (h : p.recordAmong settings wallet data = .error e) : e = .encodingFailed := by
  refine recordAmong_eq_error_of_plain (fun v hv => ?_) h
  obtain ⟨t, rfl⟩ := htext v hv
  exact ⟨t, rfl⟩

end FormProperty

namespace Compiled

variable {settings : Settings} {fields : FieldInput} {feed : Json} {wallet : Wallet.Input}
  {form : FormSchema} {rules : NormalizedRules} {documents : List WalletDocument}
  {plans : List DocumentPlan}

/-- Every property of a form becomes its record. -/
theorem recordOf_form (h : Compiled settings fields feed wallet form rules documents plans)
    (held : List WalletDocument) (data : Members) {p : FormProperty}
    (hp : p ∈ formProperties settings fields.read.fields documents plans) :
    Submission.recordOf settings (.object data) (Entries.ofMembers form.properties) held
      (.text p.name) = p.recordAmong settings held data := by
  have hproperty : (Members.get? (Entries.ofMembers form.properties) (.text p.name)).getD .null
      = .object p.formMembers := by
    rw [Entries.get?_ofMembers, h.get?_properties hp, Option.getD_some]
  have hvalue : Submission.valueOf (.object data) (.text p.name)
      = .ok ((Members.get? data p.name).getD .null) := rfl
  rw [Submission.recordOf, hvalue, mapError_ok, ok_bind, recordAmong]
  cases htruthy : ((Members.get? data p.name).getD .null).truthy with
  | false => rfl
  | true =>
    dsimp only
    rw [hproperty, filledRecord_formMembers settings held p htruthy, if_pos rfl]
    cases ((Members.get? data p.name).getD .null).plain with
    | error e => rfl
    | ok text =>
      rw [mapError_ok, ok_bind, ok_bind]
      cases Content.encodeText text <;> rfl

/-- A submission of a form is made of the personal values and the records of the document fields,
in form order. -/
theorem outcome_classify (h : Compiled settings fields feed wallet form rules documents plans)
    (data : Members) (held : Wallet.Input) :
    (Submission.classify settings (.object data) (.form form) held .null).outcome = (do
      let held ← held.load.outcome
      let rs ← ((formProperties settings fields.read.fields documents plans).filter
        (·.isSubmitted)).mapM (FormProperty.recordAmong settings held data)
      return {
        personal := (Entries.ofMembers data).filter fun m =>
          Submission.isPersonal (form.documentNames.map .text) m.1 && !m.2.isNull
        files := rs.filterMap (Option.bind · FieldRecord.file?)
        documents := rs.filterMap (Option.bind · FieldRecord.document?) }) := by
  have hrun : ∀ held, (form.documentNames.map Key.text).mapM (Submission.recordOf settings
      (.object data) (Entries.ofMembers form.properties) held)
        = ((formProperties settings fields.read.fields documents plans).filter
          (·.isSubmitted)).mapM (FormProperty.recordAmong settings held data) := by
    intro held
    rw [h.documentNames, List.map_map, List.mapM_map]
    exact mapM_congr fun p hp => h.recordOf_form held data (List.mem_filter.mp hp).1
  rw [Submission.classify_form]
  simp only [Trace.outcome_bind, Trace.outcome_liftFault, mapError_ok, ok_bind,
    Submission.personalFields, Submission.outcome_addDocuments, hrun, Submission.foldl_add,
    List.nil_append]

end Compiled

end BenefitForm
