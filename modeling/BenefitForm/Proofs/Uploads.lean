import BenefitForm.Proofs.Routing

/-!
# One decision about uploads

Whether a document field is a file upload is asked twice. A planned field has the
answer recorded when the form is compiled; a declared field of the documents
group has nothing recorded, and its name is looked at when the form is submitted.
A name may be claimed by both kinds of field, and then the first of them stays.

Both answers are those of the name (`isUpload_of_mem_formProperties`), so it does
not matter which field has stayed.

- `recorded_of_mem_documentNames`, `isUpload_of_mem_documentNames`: what a
  compiled form says about its document fields.
- `Submission.routes_of_classify_form`: a submission of a form, by the names that
  the form lists.
- `classify_uploads`: where the value of each document field goes.
-/

namespace BenefitForm

open FormProperty

/-! ### Compiled forms -/

/-- The decision about a property of a form is that of its name, whether it is recorded or not. -/
theorem isUpload_of_mem_formProperties {settings : Settings} {fields : List DeclaredField}
    {documents : List WalletDocument} {plans : List DocumentPlan} {p : FormProperty}
    (hp : p ∈ formProperties settings fields documents plans) :
    p.isUpload settings = Upload.isUploadName settings.uploadPatterns p.name :=
  forall_mem_formProperties
    (Q := fun p => p.isUpload settings = Upload.isUploadName settings.uploadPatterns p.name)
    (fun _ => rfl) (fun _ => rfl) p hp

/-- What a property records about uploads is the flag of its record, if it has one. -/
theorem FormProperty.recorded?_formMembers (p : FormProperty) :
    Upload.recorded? p.formMembers = p.documentMeta?.map (·.isFileUpload) := by
  rw [Upload.recorded?, member_vcMeta]
  cases p.documentMeta? with
  | none => rfl
  | some d =>
    show (Members.get? d.recordMembers (Text.ofString "isFileUpload")).map Json.truthy = _
    rw [DocumentMeta.get?_isFileUpload]
    rfl

namespace Compiled

variable {settings : Settings} {fields : FieldInput} {feed : Json} {wallet : Wallet.Input}
  {form : FormSchema} {rules : NormalizedRules} {documents : List WalletDocument}
  {plans : List DocumentPlan}

/-- A document field of a form has a property, and a flag that the property records is that of the
name. -/
theorem recorded_of_mem_documentNames
    (h : Compiled settings fields feed wallet form rules documents plans) {name : Text}
    (hname : name ∈ form.documentNames) :
    ∃ members, Members.get? form.properties name = some (.object members) ∧
      ∀ flag, Upload.recorded? members = some flag →
        flag = Upload.isUploadName settings.uploadPatterns name := by
  obtain ⟨p, hp, -, rfl⟩ := h.mem_documentNames_iff.mp hname
  refine ⟨p.formMembers, h.get?_properties hp, fun flag hflag => ?_⟩
  have hdecided := isUpload_of_mem_formProperties hp
  rw [p.recorded?_formMembers] at hflag
  rw [isUpload, hflag] at hdecided
  exact hdecided

/-- A submission decides about the document fields of a form by their names. -/
theorem isUpload_of_mem_documentNames
    (h : Compiled settings fields feed wallet form rules documents plans) {name : Text}
    (hname : name ∈ form.documentNames) :
    Upload.isUpload settings name ((Entries.ofMembers form.properties).propertyOf name)
      = .ok (Upload.isUploadName settings.uploadPatterns name) := by
  obtain ⟨p, hp, -, rfl⟩ := h.mem_documentNames_iff.mp hname
  rw [Entries.propertyOf, Entries.get?_ofMembers, h.get?_properties hp, Option.getD_some,
    isUpload_formMembers, isUpload_of_mem_formProperties hp]

end Compiled

/-! ### Submissions of forms -/

/-- A submission of a form goes through the names that the form lists. -/
theorem Submission.routes_of_classify_form {settings : Settings} {data : Members}
    {form : FormSchema} {wallet : Wallet.Input} {s : Submission}
    (h : (classify settings (.object data) (.form form) wallet .null).outcome = .ok s) :
    ∃ held, wallet.load.outcome = .ok held ∧
      s.Routes settings data (Entries.ofMembers form.properties) form.documentNames held := by
  have hnames : (form.documentNames.map Key.text).filterMap Key.asText? = form.documentNames := by
    rw [List.filterMap_map]
    exact List.filterMap_some
  simp only [classify_form, Trace.outcome_bind, Trace.outcome_liftFault, bind_eq_ok_iff,
    mapError_eq_ok_iff] at h
  obtain ⟨held, hheld, personal, hpersonal, hrun⟩ := h
  cases hpersonal
  rw [outcome_addDocuments] at hrun
  obtain ⟨rs, hrs, hpure⟩ := bind_eq_ok_iff.mp hrun
  cases hpure
  have hroutes := routes_of_run
    ((mapM_eq_ok_iff.mp hrs).imp fun _ _ hrecord => routed_of_recordOf hrecord)
  rw [hnames] at hroutes
  rw [foldl_add]
  exact ⟨held, hheld, hroutes⟩

/-- A submission that tells files from documents by the names of their fields. -/
structure Submission.SplitsByName (s : Submission) (settings : Settings) (form : FormSchema)
    (data : Members) : Prop where
  /-- The value of a document field is among the files iff the name is that of an upload. -/
  file_iff : ∀ name ∈ form.documentNames, data.fills name = true →
    ((∃ content, (name, content) ∈ s.files) ↔
      Upload.isUploadName settings.uploadPatterns name = true)
  /-- There is one file for each filled upload, in the order of the form. -/
  files : List.Forall₂ (fun name (f : Text × Text) => f.1 = name ∧ data.Encodes name f.2)
    (form.documentNames.filter fun name =>
      data.fills name && Upload.isUploadName settings.uploadPatterns name) s.files
  /-- There is one document for each other document field with a value, in the order of the
  form. -/
  documents : List.Forall₂ (fun name (d : SubmittedDocument) => data.Encodes name d.content)
    (form.documentNames.filter fun name =>
      data.fills name && !Upload.isUploadName settings.uploadPatterns name) s.documents

/-- In every compiled form what is recorded about an upload is what its name says, and every
submission of the form has the values of the document fields with such names among its files, and
those of the others among its documents. -/
theorem classify_uploads {settings : Settings} {fields : FieldInput} {feed : Json}
    {wallet : Wallet.Input} {title benefitId : Json} {form : FormSchema}
    (hform : (compileForm settings fields feed wallet title benefitId).outcome = .ok form) :
    (∀ name ∈ form.documentNames, ∃ members,
      Members.get? form.properties name = some (.object members) ∧
      ∀ flag, Upload.recorded? members = some flag →
        flag = Upload.isUploadName settings.uploadPatterns name) ∧
    ∀ (data : Members) (held : Wallet.Input) (s : Submission),
      (Submission.classify settings (.object data) (.form form) held .null).outcome = .ok s →
        s.SplitsByName settings form data := by
  obtain ⟨rules, documents, plans, hc⟩ := compileForm_ok hform
  refine ⟨fun name hname => hc.recorded_of_mem_documentNames hname, fun data held s hs => ?_⟩
  obtain ⟨documentsHeld, -, hroutes⟩ := Submission.routes_of_classify_form hs
  have hdecided : ∀ name ∈ form.documentNames,
      Upload.isFile settings (Entries.ofMembers form.properties) name
        = Upload.isUploadName settings.uploadPatterns name :=
    fun name hname => isFile_of_isUpload (hc.isUpload_of_mem_documentNames hname)
  have hfiles := hroutes.files
  have hdocuments := hroutes.documents
  -- the same names are filtered by the decision and by their own spelling
  rw [List.filter_congr fun name hname => by rw [hdecided name hname]] at hfiles hdocuments
  constructor
  case file_iff =>
    intro name hname hfills
    constructor
    · rintro ⟨content, hfile⟩
      obtain ⟨other, hother, rfl, -⟩ := exists_of_mem_right hfiles hfile
      have hkept := (List.mem_filter.mp hother).2
      exact (Bool.and_eq_true_iff.mp hkept).2
    · intro hupload
      have hkept : name ∈ form.documentNames.filter fun name =>
          data.fills name && Upload.isUploadName settings.uploadPatterns name :=
        List.mem_filter.mpr ⟨hname, Bool.and_eq_true_iff.mpr ⟨hfills, hupload⟩⟩
      obtain ⟨⟨other, content⟩, hfile, rfl, -⟩ := exists_of_mem_left hfiles hkept
      exact ⟨content, hfile⟩
  case files => exact hfiles
  case documents => exact hdocuments.imp fun _ _ hmade => hmade.1

/-- A declared field of the documents group. -/
def groupedUpload (name : String) : DeclaredField where
  name := Text.ofString name
  groupName := .string documentsGroup

/-- Of three document fields two are uploads: a declared one, which has taken the place of a planned
field and has nothing recorded, and a planned one. -/
theorem classify_uploads_of_photos :
    ∃ form s, (compileForm .standard (.flat [.declared (groupedUpload "photo")])
        (asking ["p", "photo", "photoB"]) (.documents []) (.string []) .null).outcome = .ok form ∧
      (Submission.classify .standard (.object (["p", "photo", "photoB"].map fun name =>
        (Text.ofString name, Json.text "x"))) (.form form) (.documents []) .null).outcome = .ok s ∧
      (form.documentNames.length = 3 ∧ s.files.length = 2 ∧ s.documents.length = 1) ∧
      (∀ name ∈ form.documentNames, ∃ members,
        Members.get? form.properties name = some (.object members) ∧
        ∀ flag, Upload.recorded? members = some flag →
          flag = Upload.isUploadName Settings.standard.uploadPatterns name) ∧
      s.SplitsByName .standard form (["p", "photo", "photoB"].map fun name =>
        (Text.ofString name, Json.text "x")) := by
  have hany : ((compileForm .standard (.flat [.declared (groupedUpload "photo")])
      (asking ["p", "photo", "photoB"]) (.documents []) (.string []) .null).outcome.toOption.any
        fun form => (Submission.classify .standard (.object (["p", "photo", "photoB"].map
          fun name => (Text.ofString name, Json.text "x"))) (.form form) (.documents [])
            .null).outcome.toOption.any fun s => decide
              (form.documentNames.length = 3 ∧ s.files.length = 2 ∧ s.documents.length = 1))
        = true := by
    decide +kernel
  obtain ⟨form, hform, hany⟩ := exists_ok_of_any hany
  obtain ⟨s, hs, hlengths⟩ := exists_ok_of_any hany
  obtain ⟨hrecorded, hsplits⟩ := classify_uploads hform
  exact ⟨form, s, hform, hs, of_decide_eq_true hlengths, hrecorded, hsplits _ _ s hs⟩

end BenefitForm
