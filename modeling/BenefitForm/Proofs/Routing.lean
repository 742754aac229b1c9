import BenefitForm.Proofs.MissingDocument
import BenefitForm.Proofs.SubmissionOutcome

/-!
# Where filled values go

A submission goes through the filled values for its personal fields, and through
the names of the document fields for its records. The two runs look at different
names in different orders, yet each value has one place: what is a document field
for the first run is passed over there, and the second run takes each name once
(`Routed`), to the files or to the documents.

- `Routed`, `routed_of_recordOf`: what a document field becomes.
- `Submission.Routes`: all that there is in a submission, and of which values.
- `classify_routes`: every submission, whatever the schema lists.
-/

namespace BenefitForm

/-! ### One document field -/

/-- The property of a name, null where there is none. -/
def Entries.propertyOf (properties : Entries) (name : Text) : Json :=
  (Members.get? properties (.text name)).getD .null

/-- Whether a document field is submitted as a file. -/
def Upload.isFile (settings : Settings) (properties : Entries) (name : Text) : Bool :=
  (isUpload settings name (properties.propertyOf name)).toOption.getD false

/-- Whether a content is the encoding of the value of a name. -/
def Members.Encodes (data : Members) (name content : Text) : Prop :=
  ∃ value, get? data name = some value ∧ (Content.encode value).outcome = .ok content

/-- Whether a document is made of the value of a name. -/
def SubmittedDocument.MadeOf (d : SubmittedDocument) (settings : Settings) (data : Members)
    (properties : Entries) (held : List WalletDocument) (name : Text) : Prop :=
  ∃ value, Members.get? data name = some value ∧
    (create settings name value d.content (properties.propertyOf name)
      (.documents held)).outcome = .ok d

/-- A document has the content that it is made with. -/
theorem SubmittedDocument.content_of_create {settings : Settings} {name : Text} {value : Json}
    {content : Text} {property : Json} {wallet : Wallet.Input} {d : SubmittedDocument}
    (h : (create settings name value content property wallet).outcome = .ok d) :
    d.content = content := by
  simp only [create, Trace.outcome_bind, bind_eq_ok_iff] at h
  obtain ⟨members, -, documents, -, provenance, -, h⟩ := h
  -- only the log depends on whether the wallet holds the document
  split at h
  · simp only [Trace.outcome_bind, bind_eq_ok_iff] at h
    obtain ⟨-, -, recorded, -, reason, -, subtype, -, hd⟩ := h
    cases hd
    rfl
  · simp only [Trace.outcome_bind, bind_eq_ok_iff] at h
    obtain ⟨recorded, -, reason, -, subtype, -, hd⟩ := h
    cases hd
    rfl

section

variable {settings : Settings} {data : Members} {properties : Entries}
  {held : List WalletDocument}

variable (settings data properties held) in
/-- What a document field becomes: nothing without a value, and otherwise a file or a document with
the encoding of the value. -/
inductive Routed : Key → Option FieldRecord → Prop
  | passed {key : Key} (hempty : ∀ name, key = .text name → data.fills name = false) :
      Routed key none
  | file {name content : Text} (hfills : data.fills name = true)
      (hupload : Upload.isUpload settings name (properties.propertyOf name) = .ok true)
      (hcontent : data.Encodes name content) : Routed (.text name) (some (.file name content))
  | document {name : Text} {d : SubmittedDocument} (hfills : data.fills name = true)
      (hupload : Upload.isUpload settings name (properties.propertyOf name) = .ok false)
      (hcontent : data.Encodes name d.content)
      (hmade : d.MadeOf settings data properties held name) :
      Routed (.text name) (some (.document d))

/-- The step for one document field routes it. -/
theorem routed_of_recordOf {key : Key} {r : Option FieldRecord}
    (h : Submission.recordOf settings (.object data) properties held key = .ok r) :
    Routed settings data properties held key r := by
  cases key with
  | text name =>
    have hvalue : Submission.valueOf (.object data) (.text name)
        = .ok ((Members.get? data name).getD .null) := rfl
    rw [Submission.recordOf, hvalue, mapError_ok, ok_bind] at h
    -- a name without a value is passed over before anything else is looked at
    cases hfills : data.fills name with
    | false =>
      rw [show ((Members.get? data name).getD .null).truthy = false from hfills] at h
      cases h
      exact .passed fun _ hname => by cases hname; exact hfills
    | true =>
      rw [show ((Members.get? data name).getD .null).truthy = true from hfills] at h
      obtain ⟨value, hget⟩ : ∃ value, Members.get? data name = some value := by
        cases hget : Members.get? data name with
        | some value => exact ⟨value, rfl⟩
        | none =>
          rw [Members.fills, hget] at hfills
          cases hfills
      rw [hget] at h
      obtain ⟨filled, hfilled, hr⟩ := bind_eq_ok_iff.mp h
      cases hr
      obtain ⟨content, hcontent, hrest⟩ := bind_eq_ok_iff.mp hfilled
      obtain ⟨upload, hupload, hrest⟩ := bind_eq_ok_iff.mp hrest
      have hupload := mapError_eq_ok_iff.mp hupload
      cases upload with
      | true =>
        cases hrest
        exact .file hfills hupload ⟨value, hget, hcontent⟩
      | false =>
        obtain ⟨d, hd, hmade⟩ := bind_eq_ok_iff.mp hrest
        cases hmade
        have hsame := SubmittedDocument.content_of_create hd
        subst hsame
        exact .document hfills hupload ⟨value, hget, hcontent⟩ ⟨value, hget, hd⟩
  | _ =>
    cases h
    refine .passed fun name hname => ?_
    cases hname

/-- Only a field with a value has a record. -/
theorem fills_of_routed {key : Key} {r : FieldRecord}
    (h : Routed settings data properties held key (some r)) :
    ∃ name, key = .text name ∧ data.fills name = true := by
  cases h with
  | file hfills _ _ => exact ⟨_, rfl, hfills⟩
  | document hfills _ _ _ => exact ⟨_, rfl, hfills⟩

/-! ### All document fields -/

/-- The records of one kind that a run leaves are those of the filled fields that go there, one for
each name in the order of the names. -/
theorem forall₂_of_routed {α : Type} {R : Text → α → Prop} {goes : Text → Bool}
    {pick : FieldRecord → Option α}
    (hpick : ∀ name r a, Routed settings data properties held (.text name) (some r) →
      pick r = some a → goes name = true ∧ R name a)
    (hskip : ∀ name r, Routed settings data properties held (.text name) (some r) →
      pick r = none → goes name = false)
    {keys : List Key} {rs : List (Option FieldRecord)}
    (h : List.Forall₂ (Routed settings data properties held) keys rs) :
    List.Forall₂ R ((keys.filterMap Key.asText?).filter fun name => data.fills name && goes name)
      (rs.filterMap (Option.bind · pick)) := by
  -- a step without a record is that of a key that is no filled name, so both lists skip it
  induction h with
  | nil => exact .nil
  | @cons key r keys rs hstep _ ih =>
    cases r with
    | none =>
      cases hstep with
      | passed hempty =>
        cases key with
        | text name =>
          have hname : Key.asText? (.text name) = some name := rfl
          rw [List.filterMap_cons_some hname,
            List.filter_cons_of_neg (by simp [hempty name rfl])]
          exact ih
        | _ => exact ih
    | some r =>
      obtain ⟨name, rfl, hfills⟩ := fills_of_routed hstep
      have hname : Key.asText? (.text name) = some name := rfl
      rw [List.filterMap_cons_some hname]
      cases hr : pick r with
      | none =>
        rw [List.filterMap_cons_none (f := (Option.bind · pick)) (a := some r) hr,
          List.filter_cons_of_neg (by simp [hskip name r hstep hr])]
        exact ih
      | some a =>
        obtain ⟨hgoes, ha⟩ := hpick name r a hstep hr
        rw [List.filterMap_cons_some (f := (Option.bind · pick)) (a := some r) hr,
          List.filter_cons_of_pos (by simp [hfills, hgoes])]
        exact .cons ha ih

theorem isFile_of_isUpload {name : Text} {upload : Bool}
    (h : Upload.isUpload settings name (properties.propertyOf name) = .ok upload) :
    Upload.isFile settings properties name = upload := by
  rw [Upload.isFile, h]
  rfl

/-- The files of a run are those of the filled fields that are submitted as files. -/
theorem files_of_routed {keys : List Key} {rs : List (Option FieldRecord)}
    (h : List.Forall₂ (Routed settings data properties held) keys rs) :
    List.Forall₂ (fun name (f : Text × Text) => f.1 = name ∧ data.Encodes name f.2)
      ((keys.filterMap Key.asText?).filter fun name =>
        data.fills name && Upload.isFile settings properties name)
      (rs.filterMap (Option.bind · FieldRecord.file?)) := by
  refine forall₂_of_routed (fun name r f hr hf => ?_) (fun name r hr hf => ?_) h
  · cases hr with
    | file _ hupload hcontent =>
      cases hf
      exact ⟨isFile_of_isUpload hupload, rfl, hcontent⟩
    | document _ _ _ _ => cases hf
  · cases hr with
    | file _ _ _ => cases hf
    | document _ hupload _ _ => exact isFile_of_isUpload hupload

/-- The documents of a run are those of the other filled fields. -/
theorem documents_of_routed {keys : List Key} {rs : List (Option FieldRecord)}
    (h : List.Forall₂ (Routed settings data properties held) keys rs) :
    List.Forall₂ (fun name (d : SubmittedDocument) =>
        data.Encodes name d.content ∧ d.MadeOf settings data properties held name)
      ((keys.filterMap Key.asText?).filter fun name =>
        data.fills name && !Upload.isFile settings properties name)
      (rs.filterMap (Option.bind · FieldRecord.document?)) := by
  refine forall₂_of_routed (fun name r d hr hd => ?_) (fun name r hr hd => ?_) h
  · cases hr with
    | file _ _ _ => cases hd
    | document _ hupload hcontent hmade =>
      cases hd
      exact ⟨by rw [isFile_of_isUpload hupload]; rfl, hcontent, hmade⟩
  · cases hr with
    | file _ hupload _ => rw [isFile_of_isUpload hupload]; rfl
    | document _ _ _ _ => cases hd

end

/-! ### Names of document fields -/

/-- The names of the document fields: those given, or those that a schema lists, or those that its
properties show. -/
def Submission.fieldNames (given : Json) (listed : Option (List Key)) (properties : Entries) :
    Except Fault (List Key) :=
  if given.isNull then
    match listed with
    | some names => .ok names
    | none => documentNames properties
  else do
    let items ← given.iterate
    items.mapM Key.ofJson

/-- The names that a submission goes through. -/
theorem Submission.fieldNames_of_documentFields {given : Json} {listed : Option (List Key)}
    {properties : Entries} {shown : Json} {items : List Json} {names : List Key}
    (hshown : documentFields given listed properties = .ok shown)
    (hitems : shown.iterate = .ok items) (hnames : items.mapM Key.ofJson = .ok names) :
    fieldNames given listed properties = .ok names := by
  have hjson : ∀ ks : List Key, shown = namesJson ks → ks = names := by
    rintro ks rfl
    cases hitems
    exact Except.ok.inj ((Key.mapM_toJson ks).symm.trans hnames)
  unfold documentFields at hshown
  unfold fieldNames
  by_cases hgiven : given.isNull = true
  · rw [if_neg (by simp [hgiven])] at hshown
    rw [if_pos hgiven]
    cases listed with
    | some ks =>
      cases hshown
      rw [hjson ks rfl]
    | none =>
      cases hks : documentNames properties with
      | error e =>
        rw [hks] at hshown
        cases hshown
      | ok ks =>
        rw [hks] at hshown
        cases hshown
        rw [hjson ks rfl]
  · rw [if_pos (by simp [hgiven])] at hshown
    cases hshown
    rw [if_neg hgiven, hitems, ok_bind, hnames]

/-- The document fields that properties show are among them, in order. -/
theorem sublist_of_documentNames {κ : Type} {ms : List (κ × Json)} {names : List κ}
    (h : documentNames ms = .ok names) : names.Sublist (Members.keys ms) := by
  induction ms generalizing names with
  | nil =>
    cases h
    exact .slnil
  | cons m ms ih =>
    obtain ⟨isDocument, -, hrest⟩ := bind_eq_ok_iff.mp h
    obtain ⟨others, hothers, hpure⟩ := bind_eq_ok_iff.mp hrest
    cases hpure
    cases isDocument with
    | true => exact (ih hothers).cons_cons m.1
    | false => exact (ih hothers).cons m.1

/-- The texts among keys are the keys of the members that have texts for keys. -/
theorem Entries.keys_members (entries : Entries) :
    Members.keys entries.members = (Members.keys entries).filterMap Key.asText? := by
  rw [Members.keys, Entries.members, Members.keys, List.map_filterMap, List.filterMap_map]
  refine List.filterMap_congr fun e _ => ?_
  show Option.map _ (Option.map _ e.1.asText?) = e.1.asText?
  cases e.1.asText? <;> rfl

/-! ### Submissions -/

/-- What there is in a submission, where `names` are those of the document fields. -/
structure Submission.Routes (s : Submission) (settings : Settings) (data : Members)
    (properties : Entries) (names : List Text) (held : List WalletDocument) : Prop where
  /-- The personal fields are the values, in order, of what is neither a document field nor a system
  field and is not null. -/
  personal : s.personal = Entries.ofMembers (data.filter fun m =>
    !names.contains m.1 && !systemFields.contains m.1 && !m.2.isNull)
  /-- No document field is among them. -/
  apart : ∀ name ∈ names, Members.contains s.personal (.text name) = false
  /-- For each document field with a value it is settled whether it is an upload. -/
  settled : ∀ name ∈ names, data.fills name = true →
    ∃ upload, Upload.isUpload settings name (properties.propertyOf name) = .ok upload
  /-- The files are those of the uploads with values, in the order of the names. -/
  files : List.Forall₂ (fun name (f : Text × Text) => f.1 = name ∧ data.Encodes name f.2)
    (names.filter fun name => data.fills name && Upload.isFile settings properties name) s.files
  /-- The documents are those of the other document fields with values, in the order of the
  names. -/
  documents : List.Forall₂ (fun name (d : SubmittedDocument) =>
      data.Encodes name d.content ∧ d.MadeOf settings data properties held name)
    (names.filter fun name => data.fills name && !Upload.isFile settings properties name)
    s.documents

/-- The run over the document fields and the run over the filled values together. -/
theorem Submission.routes_of_run {settings : Settings} {data : Members} {properties : Entries}
    {keys : List Key} {held : List WalletDocument} {rs : List (Option FieldRecord)}
    (h : List.Forall₂ (Routed settings data properties held) keys rs) :
    Submission.Routes
      { personal := (Entries.ofMembers data).filter fun m => isPersonal keys m.1 && !m.2.isNull
        files := rs.filterMap (Option.bind · FieldRecord.file?)
        documents := rs.filterMap (Option.bind · FieldRecord.document?) }
      settings data properties (keys.filterMap Key.asText?) held := by
  have hpersonal : ((Entries.ofMembers data).filter fun m => isPersonal keys m.1 && !m.2.isNull)
      = Entries.ofMembers (data.filter fun m => !(keys.filterMap Key.asText?).contains m.1
          && !systemFields.contains m.1 && !m.2.isNull) := by
    rw [Entries.ofMembers, Entries.ofMembers, List.filter_map]
    refine congrArg (List.map _) (List.filter_congr fun m _ => ?_)
    show (isPersonal keys (.text m.1) && !m.2.isNull) = _
    rw [isPersonal, Key.contains_text, Key.contains_map_text]
  constructor
  case personal => exact hpersonal
  case apart =>
    intro name hname
    show Members.contains ((Entries.ofMembers data).filter _) _ = false
    rw [hpersonal, Entries.contains_ofMembers, Bool.eq_false_iff, ne_eq, Members.contains_iff]
    intro hmem
    obtain ⟨m, hm, rfl⟩ := List.mem_map.mp hmem
    have hkept := (List.mem_filter.mp hm).2
    rw [List.contains_iff_mem.mpr hname] at hkept
    cases hkept
  case settled =>
    intro name hname hfills
    obtain ⟨key, hkey, hname⟩ := List.mem_filterMap.mp hname
    cases key with
    | text t =>
      cases hname
      obtain ⟨r, -, hr⟩ := exists_of_mem_left h hkey
      cases hr with
      | passed hempty =>
        rw [hempty _ rfl] at hfills
        cases hfills
      | file _ hupload _ => exact ⟨true, hupload⟩
      | document _ hupload _ _ => exact ⟨false, hupload⟩
    | _ => cases hname
  case files => exact files_of_routed h
  case documents => exact documents_of_routed h

/-- Every submission is made of the personal values and of one record for each document field with
a value, which goes to the files or to the documents. The names of the document fields differ where
they are those that the properties of the schema show. -/
theorem classify_routes {settings : Settings} {data : Members} {schema : SchemaInput}
    {wallet : Wallet.Input} {given : Json} {s : Submission}
    (h : (Submission.classify settings (.object data) schema wallet given).outcome = .ok s) :
    ∃ properties listed names held, schema.resolve = .ok (properties, listed) ∧
      Submission.fieldNames given listed properties = .ok names ∧
      wallet.load.outcome = .ok held ∧
      s.Routes settings data properties (names.filterMap Key.asText?) held ∧
      (documentNames properties = .ok names → (Members.keys properties.members).Nodup →
        (names.filterMap Key.asText?).Nodup) := by
  simp only [Submission.classify, Trace.outcome_bind, Trace.outcome_liftFault, bind_eq_ok_iff,
    mapError_eq_ok_iff] at h
  obtain ⟨⟨properties, listed⟩, hresolve, shown, hshown, held, hheld, items, hitems, names,
    hnames, personal, hpersonal, hrun⟩ := h
  cases hpersonal
  rw [Submission.outcome_addDocuments] at hrun
  obtain ⟨rs, hrs, hpure⟩ := bind_eq_ok_iff.mp hrun
  cases hpure
  refine ⟨properties, listed, names, held, hresolve,
    Submission.fieldNames_of_documentFields hshown hitems hnames, hheld, ?_, ?_⟩
  · rw [Submission.foldl_add]
    exact Submission.routes_of_run ((mapM_eq_ok_iff.mp hrs).imp fun _ _ => routed_of_recordOf)
  · intro hdocuments hkeys
    rw [Entries.keys_members] at hkeys
    exact ((sublist_of_documentNames hdocuments).filterMap _).nodup hkeys

/-- Values for two document fields, one of them an upload, for a system field, for two names that no
schema has, and none for a third document field. -/
def mixedValues : Members :=
  ["photo", "a", "benefitId", "p"].map (fun name => (Text.ofString name, Json.text "x"))
    ++ [(Text.ofString "q", Json.text ""), (Text.ofString "b", .null)]

/-- Of six values one is personal, one is a file and one a document. -/
theorem classify_routes_of_mixedValues :
    ∃ form s, (compileForm .standard (.flat []) (asking ["p", "photo", "q"]) (.documents [])
        (.string []) .null).outcome = .ok form ∧
      (Submission.classify .standard (.object mixedValues) (.form form) (.documents [])
        .null).outcome = .ok s ∧
      (s.personal.length = 1 ∧ s.files.length = 1 ∧ s.documents.length = 1) ∧
      ∃ properties listed names held, (SchemaInput.form form).resolve = .ok (properties, listed) ∧
        Submission.fieldNames .null listed properties = .ok names ∧
        (Wallet.Input.documents []).load.outcome = .ok held ∧
        s.Routes .standard mixedValues properties (names.filterMap Key.asText?) held ∧
        (documentNames properties = .ok names → (Members.keys properties.members).Nodup →
          (names.filterMap Key.asText?).Nodup) := by
  have hany : ((compileForm .standard (.flat []) (asking ["p", "photo", "q"]) (.documents [])
      (.string []) .null).outcome.toOption.any fun form =>
        (Submission.classify .standard (.object mixedValues) (.form form) (.documents [])
          .null).outcome.toOption.any fun s => decide
            (s.personal.length = 1 ∧ s.files.length = 1 ∧ s.documents.length = 1)) = true := by
    decide +kernel
  obtain ⟨form, hform, hany⟩ := exists_ok_of_any hany
  obtain ⟨s, hs, hlengths⟩ := exists_ok_of_any hany
  exact ⟨form, s, hform, hs, of_decide_eq_true hlengths, classify_routes hs⟩

end BenefitForm
