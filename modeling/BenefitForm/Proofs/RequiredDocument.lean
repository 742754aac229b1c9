import BenefitForm.Proofs.Submission
import BenefitForm.Proofs.Validation

/-!
# Required documents in submissions

Four stages decide whether a required document reaches a submission: the wallet is
searched for options, selectors without a real option are reported missing, the
values are validated against the options, and a field without a value is passed
over. They line up but for the empty text: where a form lists it beside a real
option, or lists no options at all, an empty value is valid and is passed over.

- `required_document_submitted`: otherwise a submission that passes all checks
  holds the record of every required document field, or ends as a whole.
-/

namespace BenefitForm

open FormProperty Json

/-- Whether a submission holds the record of a document field: the file under its name, or the
document that is made of its value. -/
def Submission.Holds (s : Submission) (settings : Settings) (form : FormSchema) (data : Members)
    (wallet : List WalletDocument) (name : Text) : Prop :=
  ∃ value content, Members.get? data name = some value ∧
    (Content.encode value).outcome = .ok content ∧
    ((name, content) ∈ s.files ∨
      ∃ property d, Members.get? form.properties name = some property ∧
        (SubmittedDocument.create settings name value content property
          (.documents wallet)).outcome = .ok d ∧ d ∈ s.documents)

/-- Whether a field accepts the empty text although it is no selector without a document: it lists
no options, or lists the empty text beside another one. -/
def FormSchema.AcceptsEmpty (form : FormSchema) (name : Text) : Prop :=
  ∃ members, Members.get? form.properties name = some (.object members) ∧
    (Members.get? members (Text.ofString "enum") = none ∨
      ∃ options, Members.get? members (Text.ofString "enum") = some (Json.ofTexts options) ∧
        [] ∈ options ∧ ∃ t ∈ options, t ≠ [])

/-! ### One field -/

namespace Compiled

variable {settings : Settings} {fields : FieldInput} {feed : Json} {wallet : Wallet.Input}
  {form : FormSchema} {rules : NormalizedRules} {documents : List WalletDocument}
  {plans : List DocumentPlan}

/-- The value of a property among valid values is allowed by the property. -/
theorem findingsAt_of_valid (h : Compiled settings fields feed wallet form rules documents plans)
    {data : Members} (hvalid : form.schema.findings (.json (.object data)) = []) {p : FormProperty}
    (hp : p ∈ formProperties settings fields.read.fields documents plans) {v : Json}
    (hv : Members.get? data p.name = some v) :
    findingsAt (.object p.formMembers) p.name v = [] :=
  ((findings_schema_eq_nil_iff form data).mp hvalid).2 _
    (h.mem_properties_iff.mpr ⟨p, hp, rfl⟩) v hv

/-- Every valid value of a field is a text. -/
theorem text_of_valid (h : Compiled settings fields feed wallet form rules documents plans)
    {data : Members} (hvalid : form.schema.findings (.json (.object data)) = []) {p : FormProperty}
    (hp : p ∈ formProperties settings fields.read.fields documents plans) {v : Json}
    (hv : Members.get? data p.name = some v) : ∃ t, v = .string t :=
  text_of_findingsAt (type_of_mem_formProperties hp) (h.findingsAt_of_valid hvalid hp hv)

/-- Where no required document is missing, the required selectors have a real option. -/
theorem hasNoOption_of_missingErrors
    (h : Compiled settings fields feed wallet form rules documents plans)
    (hmissing : form.missingErrors true = []) {p : FormProperty}
    (hp : p ∈ formProperties settings fields.read.fields documents plans)
    (hrequired : p.name ∈ form.required) (hsubmitted : p.isSubmitted = true) :
    p.hasNoOption = false := by
  rw [Bool.eq_false_iff]
  intro hno
  have hmem : p.name ∈ form.missing.filter fun name => !true || form.required.contains name := by
    rw [List.mem_filter, h.missing]
    refine ⟨List.mem_map_of_mem (f := FormProperty.name) ?_, by simpa using hrequired⟩
    exact List.mem_filter.mpr ⟨List.mem_filter.mpr ⟨hp, hsubmitted⟩, hno⟩
  rw [FormSchema.missingErrors, missingDocumentErrors] at hmissing
  refine Members.ofList_ne_nil ?_ hmissing
  rw [ne_eq, List.map_eq_nil_iff]
  exact List.ne_nil_of_mem hmem

/-- A submission among whose records is that of a field with a value holds it. -/
theorem holds_of_truthy
    (h : Compiled settings fields feed wallet form rules documents plans) {data : Members}
    {p : FormProperty} (hp : p ∈ formProperties settings fields.read.fields documents plans)
    {v : Json} (hv : Members.get? data p.name = some v) (htruthy : v.truthy = true)
    {held : List WalletDocument} {r : Option FieldRecord}
    (hrecord : p.recordAmong settings held data = .ok r) {rs : List (Option FieldRecord)}
    (hr : r ∈ rs) (personal : Entries) :
    Submission.Holds
      { personal := personal
        files := rs.filterMap (Option.bind · FieldRecord.file?)
        documents := rs.filterMap (Option.bind · FieldRecord.document?) }
      settings form data held p.name := by
  rw [recordAmong, hv, Option.getD_some, if_pos htruthy] at hrecord
  obtain ⟨text, htext, hrecord⟩ := bind_eq_ok_iff.mp hrecord
  obtain ⟨content, hcontent, hpure⟩ := bind_eq_ok_iff.mp hrecord
  cases hpure
  have hencode : (Content.encode v).outcome = .ok content := by
    rw [Content.outcome_encode, htext, ok_bind]
    exact hcontent
  refine ⟨_, content, hv, hencode, ?_⟩
  rw [fieldRecord] at hr
  by_cases hupload : p.isUpload settings = true
  · rw [if_pos hupload] at hr
    exact .inl (List.mem_filterMap.mpr ⟨_, hr, rfl⟩)
  · rw [if_neg hupload] at hr
    refine .inr ⟨_, _, h.get?_properties hp, ?_, List.mem_filterMap.mpr ⟨_, hr, rfl⟩⟩
    exact outcome_create settings held p htruthy (mapError_eq_ok_iff.mp htext) content

/-- A submission among whose records is that of a field with a text holds it. -/
theorem holds_of_recordAmong
    (h : Compiled settings fields feed wallet form rules documents plans) {data : Members}
    {p : FormProperty} (hp : p ∈ formProperties settings fields.read.fields documents plans)
    {t : Text} (hv : Members.get? data p.name = some (.string t)) (ht : t ≠ [])
    {r : Option FieldRecord} (hrecord : p.recordAmong settings documents data = .ok r)
    {rs : List (Option FieldRecord)} (hr : r ∈ rs) (personal : Entries) :
    Submission.Holds
      { personal := personal
        files := rs.filterMap (Option.bind · FieldRecord.file?)
        documents := rs.filterMap (Option.bind · FieldRecord.document?) }
      settings form data documents p.name :=
  h.holds_of_truthy hp hv (truthy_string ht) hrecord hr personal

/-- A required document field with an empty value accepts it. -/
theorem acceptsEmpty (h : Compiled settings fields feed wallet form rules documents plans)
    {data : Members} (hvalid : form.schema.findings (.json (.object data)) = []) {p : FormProperty}
    (hp : p ∈ formProperties settings fields.read.fields documents plans)
    (hoption : p.hasNoOption = false)
    (hv : Members.get? data p.name = some (.string [])) : form.AcceptsEmpty p.name := by
  have henum : Members.get? p.formMembers (Text.ofString "enum") = p.values?.map Json.ofTexts :=
    p.get?_formMembers (by decide)
  refine ⟨p.formMembers, h.get?_properties hp, ?_⟩
  rw [henum]
  cases hvalues : p.values? with
  | none => exact .inl rfl
  | some ts =>
    refine .inr ⟨ts, rfl, ?_, ?_⟩
    · obtain ⟨t, ht, he⟩ := mem_values_of_findingsAt hvalues (h.findingsAt_of_valid hvalid hp hv)
      cases he
      exact ht
    · rw [FormProperty.hasNoOption, hvalues, Option.any_some, List.all_eq_false] at hoption
      obtain ⟨t, ht, hne⟩ := hoption
      exact ⟨t, ht, by simpa using hne⟩

end Compiled

/-! ### Whole submissions -/

/-- What is checked before values are submitted: they are valid, no required document is missing,
and the name is that of a required document. -/
structure Checked (form : FormSchema) (data : Members) (name : Text) : Prop where
  valid : (validate .standard (.form form) (.object data) .null).outcome = .ok []
  present : form.missingErrors true = []
  required : name ∈ form.required
  document : name ∈ form.documentNames

/-- `Checked` as a truth value. -/
def isChecked (form : FormSchema) (data : Members) (name : Text) : Bool :=
  (validate .standard (.form form) (.object data) .null).outcome.toOption.any (·.isEmpty)
    && (form.missingErrors true).isEmpty && form.required.contains name
    && form.documentNames.contains name

theorem checked_of_isChecked {form : FormSchema} {data : Members} {name : Text}
    (h : isChecked form data name = true) : Checked form data name := by
  simp only [isChecked, Bool.and_eq_true, List.isEmpty_iff, List.contains_iff_mem] at h
  obtain ⟨⟨⟨hvalid, hpresent⟩, hrequired⟩, hdocument⟩ := h
  obtain ⟨errors, hok, hnone⟩ := exists_ok_of_any hvalid
  rw [List.isEmpty_iff] at hnone
  exact ⟨hnone ▸ hok, hpresent, hrequired, hdocument⟩

/-- Filled values with one field. -/
def filling (name value : String) : Members := [(Text.ofString name, Json.text value)]

/-- Whether checked values with one field are submitted without any document. -/
def LeavesOut (fields : FieldInput) (feed : Json) (wallet : List WalletDocument)
    (name value : String) : Prop :=
  ∃ form s, (compileForm .standard fields feed (.documents wallet) (.string []) .null).outcome
      = .ok form ∧
    Checked form (filling name value) (Text.ofString name) ∧
    (Submission.classify .standard (.object (filling name value)) (.form form)
      (.documents wallet) .null).outcome = .ok s ∧ s.files = [] ∧ s.documents = []

theorem leavesOut_of_any {fields : FieldInput} {feed : Json} {wallet : List WalletDocument}
    {name value : String}
    (h : ((compileForm .standard fields feed (.documents wallet) (.string []) .null).outcome
      |>.toOption.any fun form => isChecked form (filling name value) (Text.ofString name) &&
        (Submission.classify .standard (.object (filling name value)) (.form form)
          (.documents wallet) .null).outcome.toOption.any fun s =>
            s.files.isEmpty && s.documents.isEmpty) = true) :
    LeavesOut fields feed wallet name value := by
  obtain ⟨form, hform, h⟩ := exists_ok_of_any h
  rw [Bool.and_eq_true] at h
  obtain ⟨s, hs, hnone⟩ := exists_ok_of_any h.2
  simp only [Bool.and_eq_true, List.isEmpty_iff] at hnone
  exact ⟨form, s, hform, checked_of_isChecked h.1, hs, hnone⟩

/-- A feed with one mandatory document rule for one proof. -/
def requiring (proof : String) : Json :=
  .array [Json.record [("documentType", Json.text "t"),
    ("allowedProofs", Json.ofTexts [Text.ofString proof]), ("isRequired", .bool true)]]

/-- Documents of one proof with the given contents. -/
def holding (proof : String) (contents : List String) : List WalletDocument :=
  contents.map fun content =>
    { id := [], type := [], subtype := Text.ofString proof, content := Text.ofString content }

/-- Values that pass validation, with no required document missing, are submitted with the record
of every required document field, or the submission ends because a text has no encoding. A field
without record has the empty text for its value and accepts it. -/
theorem required_document_submitted {settings : Settings} {fields : FieldInput} {feed : Json}
    {wallet : Wallet.Input} {title benefitId : Json} {form : FormSchema}
    (hform : (compileForm settings fields feed wallet title benefitId).outcome = .ok form)
    {data : Members} {limit : Json}
    (hvalid : (validate settings (.form form) (.object data) limit).outcome = .ok [])
    (hmissing : form.missingErrors true = []) {name : Text} (hrequired : name ∈ form.required)
    (hdocument : name ∈ form.documentNames) :
    (Submission.classify settings (.object data) (.form form) wallet .null).outcome
        = .error .encodingFailed ∨
      ∃ s documents,
        (Submission.classify settings (.object data) (.form form) wallet .null).outcome = .ok s ∧
        wallet.load.outcome = .ok documents ∧
        (s.Holds settings form data documents name ∨
          Members.get? data name = some (.string []) ∧ form.AcceptsEmpty name) := by
  obtain ⟨rules, documents, plans, hc⟩ := compileForm_ok hform
  have hfindings := findings_of_validate hvalid
  obtain ⟨p, hp, hsubmitted, rfl⟩ := hc.mem_documentNames_iff.mp hdocument
  have hpresent : Members.contains data p.name = true :=
    ((findings_schema_eq_nil_iff form data).mp hfindings).1 p.name hrequired
  obtain ⟨v, hv⟩ : ∃ v, Members.get? data p.name = some v := by
    cases hv : Members.get? data p.name with
    | none => exact absurd (Members.contains_iff.mp hpresent) (Members.get?_eq_none_iff.mp hv)
    | some v => exact ⟨v, rfl⟩
  obtain ⟨t, rfl⟩ := hc.text_of_valid hfindings hp hv
  rw [hc.outcome_classify, hc.loaded, ok_bind]
  cases hrun : ((formProperties settings fields.read.fields documents plans).filter
      (·.isSubmitted)).mapM (FormProperty.recordAmong settings documents data) with
  | error e =>
    obtain ⟨q, hq, herror⟩ := exists_of_mapM_eq_error hrun
    have he := recordAmong_eq_error
      (fun _ hv => hc.text_of_valid hfindings (List.mem_filter.mp hq).1 hv) herror
    exact .inl (congrArg Except.error he)
  | ok rs =>
    -- an empty value is passed over, any other one has left its record
    refine .inr ⟨_, documents, rfl, rfl, ?_⟩
    by_cases ht : t = []
    · subst ht
      have hoption := hc.hasNoOption_of_missingErrors hmissing hp hrequired hsubmitted
      exact .inr ⟨hv, hc.acceptsEmpty hfindings hp hoption hv⟩
    · left
      obtain ⟨r, hr, hrecord⟩ := exists_of_mem_left (mapM_eq_ok_iff.mp hrun)
        (List.mem_filter.mpr ⟨hp, hsubmitted⟩)
      exact hc.holds_of_recordAmong hp hv ht hrecord hr _

/-- The selection of a document that the wallet holds is submitted. -/
theorem required_document_submitted_of_selection :
    ∃ form, (compileForm .standard (.flat []) (requiring "p") (.documents (holding "p" ["x"]))
        (.string []) .null).outcome = .ok form ∧
      Checked form (filling "p" "x") (Text.ofString "p") ∧
      ((Submission.classify .standard (.object (filling "p" "x")) (.form form)
          (.documents (holding "p" ["x"])) .null).outcome = .error .encodingFailed ∨
        ∃ s documents,
          (Submission.classify .standard (.object (filling "p" "x")) (.form form)
            (.documents (holding "p" ["x"])) .null).outcome = .ok s ∧
          (Wallet.Input.documents (holding "p" ["x"])).load.outcome = .ok documents ∧
          (s.Holds .standard form (filling "p" "x") documents (Text.ofString "p") ∨
            Members.get? (filling "p" "x") (Text.ofString "p") = some (.string []) ∧
              form.AcceptsEmpty (Text.ofString "p"))) := by
  have hany : ((compileForm .standard (.flat []) (requiring "p") (.documents (holding "p" ["x"]))
      (.string []) .null).outcome.toOption.any fun form =>
        isChecked form (filling "p" "x") (Text.ofString "p")) = true := by
    decide +kernel
  obtain ⟨form, hform, hchecked⟩ := exists_ok_of_any hany
  have hc := checked_of_isChecked hchecked
  exact ⟨form, hform, hc,
    required_document_submitted hform hc.valid hc.present hc.required hc.document⟩

/-- A required field in the group of the documents that lists no options. -/
def unlistedDocument (name : String) : FieldInput :=
  .flat [.declared { name := Text.ofString name, required := true
                     groupName := .string documentsGroup }]

/-- An empty document beside another one, and a field of the documents group without options: in
both cases the empty text passes all checks and no document is submitted. -/
theorem required_document_left_out :
    LeavesOut (.flat []) (requiring "p") (holding "p" ["", "x"]) "p" "" ∧
      LeavesOut (unlistedDocument "a") .null [] "a" "" :=
  ⟨leavesOut_of_any (by decide +kernel), leavesOut_of_any (by decide +kernel)⟩

end BenefitForm
