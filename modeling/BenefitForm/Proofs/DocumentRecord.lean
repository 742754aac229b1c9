import BenefitForm.Submission
import BenefitForm.Proofs.Assembly

/-!
# Records of document fields

What a filled document field of a form becomes is a function of its property, its
value and the wallet. A field of a form never fails to become a record: the only
step that may fail is the encoding of the value.

- `Content.outcome_encode`: how the encoding of a value ends; that of a text fails iff
  the text has a surrogate (`exists_encodeText`, `exists_encodeText_error`).
- `FormProperty.fieldRecord`: the file or the document record that a field with
  a value becomes.
- `outcome_create`: a document record is made as `FormProperty.submitted` says.
-/

namespace BenefitForm

/-! ### Encoded contents -/

theorem Utf8.firstSurrogates_eq_none_iff {n : Nat} {t : Text} :
    firstSurrogates n t = none ↔ ∀ c ∈ t, c.isSurrogate = false := by
  induction t generalizing n with
  | nil => simp [firstSurrogates]
  | cons c t ih =>
    rw [firstSurrogates, List.forall_mem_cons, ← ih (n := n + 1)]
    cases c.isSurrogate <;> simp

namespace Content

/-- A text without surrogates has an encoding. -/
theorem exists_encodeText {t : Text} (h : ∀ c ∈ t, c.isSurrogate = false) :
    ∃ content, encodeText t = .ok content := by
  rw [encodeText, Utf8.encode, Utf8.firstSurrogates_eq_none_iff.mpr h]
  exact ⟨_, rfl⟩

/-- A text with a surrogate has none. -/
theorem exists_encodeText_error {t : Text} {c : CodePoint} (hc : c ∈ t)
    (h : c.isSurrogate = true) : ∃ e, encodeText t = .error e := by
  rw [encodeText, Utf8.encode]
  cases hfirst : Utf8.firstSurrogates 0 t with
  | none =>
    have hnot := Utf8.firstSurrogates_eq_none_iff.mp hfirst c hc
    rw [h] at hnot
    cases hnot
  | some e => exact ⟨e, rfl⟩

/-- A value is encoded iff it has a plain text and the text has an encoding. -/
theorem outcome_encode (value : Json) :
    (encode value).outcome = (do
      let text ← value.plain.mapError Failure.fault
      (encodeText text).mapError fun _ => .encodingFailed) := by
  rw [encode, Trace.outcome_bind, Trace.outcome_liftFault]
  refine congrArg _ (funext fun text => ?_)
  cases encodeText text <;> rfl

end Content

/-! ### Parts of a record -/

theorem Json.writeItems_texts (style : Json.Style) (depth : Nat) (ts : List Text) :
    writeItems style depth (ts.map .string) = .ok (ts.map (writeString style.asciiOnly)) := by
  induction ts with
  | nil => rfl
  | cons t ts ih =>
    rw [List.map_cons, writeItems, writeAt, ok_bind, ih]
    rfl

/-- A list of texts is always written. -/
theorem Json.write_ofTexts (ts : List Text) :
    write .ascii (ofTexts ts) = .ok (ProofSet.written ts) := by
  rw [write, ofTexts, writeAt, writeItems_texts, ok_bind]
  rfl

namespace Provenance

/-- What the wallet tells about a selected text. -/
def ofText (settings : Settings) (wallet : List WalletDocument) (t : Text) : Provenance :=
  match select? wallet t with
  | some d => ofDocument settings d
  | none => unresolved settings

theorem ofSelection_eq_ok (settings : Settings) (wallet : List WalletDocument) {value : Json}
    (htruthy : value.truthy = true) {t : Text} (hplain : value.plain = .ok t) :
    ofSelection settings value wallet = .ok (ofText settings wallet t) := by
  cases wallet with
  | nil =>
    rw [ofSelection, List.isEmpty_nil, Bool.or_true, if_pos rfl]
    rfl
  | cons d wallet =>
    rw [ofSelection, htruthy, List.isEmpty_cons, if_neg (by decide), hplain]
    rfl

end Provenance

namespace FormProperty

/-- What the property records for a submission. -/
def recordedMembers (p : FormProperty) : Members :=
  (p.documentMeta?.map DocumentMeta.recordMembers).getD []

/-- Whether the property is submitted as a file. -/
def isUpload (settings : Settings) (p : FormProperty) : Bool :=
  (p.documentMeta?.map (·.isFileUpload)).getD (Upload.isUploadName settings.uploadPatterns p.name)

/-- The reasons that a document of the property is submitted for. -/
def reasons (p : FormProperty) : List Text :=
  match (p.documentMeta?.map (·.submissionReasons)).getD [] with
  | [] => [p.name]
  | rs => rs

/-- The format that the property records, or the usual one. -/
def recordedFormat (p : FormProperty) : Text :=
  Provenance.textOr documentFormat ((p.documentMeta?.map (·.format)).getD [])

/-- The proof that the property records, or the mark of an unknown one. -/
def recordedSubtype (p : FormProperty) : Text :=
  Provenance.textOr unknownType ((p.documentMeta?.bind (·.documentSubtype?)).getD [])

/-- The position of a value among the options. -/
def position? (p : FormProperty) (value : Json) : Option Nat :=
  (p.values?.getD []).findIdx? fun t => Json.string t == value

/-- The proof of a selected option: its label, or what the property records. -/
def selectedSubtype (p : FormProperty) (value : Json) : Text :=
  Provenance.textOr p.recordedSubtype
    (((p.position? value).bind fun i => (p.valueNames?.getD [])[i]?).getD [])

/-- The document record of a value with the given text and content. -/
def submitted (settings : Settings) (wallet : List WalletDocument) (p : FormProperty)
    (value : Json) (text content : Text) : SubmittedDocument where
  submissionReason := ProofSet.written p.reasons
  type := (Provenance.ofText settings wallet text).documentType
  subtype := .string (p.selectedSubtype value)
  format := .string p.recordedFormat
  importedFrom := (Provenance.ofText settings wallet text).issuer
  content := content

theorem membersOrEmpty_vcMeta (p : FormProperty) :
    Upload.membersOrEmpty (Json.member p.formMembers "vcMeta") = .ok p.recordedMembers := by
  rw [member_vcMeta, recordedMembers]
  cases p.documentMeta? with
  | none => rfl
  | some d => rfl

theorem isUpload_formMembers (settings : Settings) (p : FormProperty) :
    Upload.isUpload settings p.name (.object p.formMembers) = .ok (p.isUpload settings) := by
  rw [Upload.isUpload, Upload.membersOrEmpty_object, ok_bind, Upload.recorded?, member_vcMeta,
    isUpload]
  cases p.documentMeta? with
  | none => rfl
  | some d =>
    rw [Option.map_some, Option.getD_some, DocumentMeta.toJson_eq]
    show Except.ok (((Members.get? d.recordMembers (Text.ofString "isFileUpload")).map
      Json.truthy).getD _) = _
    rw [DocumentMeta.get?_isFileUpload]
    rfl

theorem recordedSubtype_eq (p : FormProperty) :
    (if (Json.member p.recordedMembers "documentSubtype").truthy then
      Json.member p.recordedMembers "documentSubtype" else .string unknownType)
      = .string p.recordedSubtype := by
  rw [recordedMembers, recordedSubtype]
  cases p.documentMeta? with
  | none => rfl
  | some d =>
    rw [Option.map_some, Option.getD_some, DocumentMeta.member_documentSubtype]
    cases hd : d.documentSubtype? with
    | none => simp [Json.ofText?, Json.truthy, Provenance.textOr, hd]
    | some t => cases t <;> simp [Json.ofText?, Json.truthy, Provenance.textOr, hd]

theorem recordedFormat_eq (p : FormProperty) :
    (if (Json.member p.recordedMembers "format").truthy then
      Json.member p.recordedMembers "format" else .string documentFormat)
      = .string p.recordedFormat := by
  rw [recordedMembers, recordedFormat]
  cases p.documentMeta? with
  | none => rfl
  | some d =>
    rw [Option.map_some, Option.getD_some, DocumentMeta.member_format, Option.map_some,
      Option.getD_some, Provenance.textOr, Json.truthy]
    cases d.format <;> rfl

theorem reasons_eq (p : FormProperty) :
    (if (Json.member p.recordedMembers "submissionReasons").truthy then
      Json.member p.recordedMembers "submissionReasons" else .array [.string p.name])
      = Json.ofTexts p.reasons := by
  rw [recordedMembers, reasons]
  cases p.documentMeta? with
  | none => rfl
  | some d =>
    rw [Option.map_some, Option.getD_some, DocumentMeta.member_submissionReasons, Option.map_some,
      Option.getD_some]
    cases d.submissionReasons <;> rfl

/-- The proof of a document is that of the selected option. -/
theorem subtypeOf_formMembers (p : FormProperty) {value : Json} (htruthy : value.truthy = true) :
    SubmittedDocument.subtypeOf value (.object p.formMembers)
      = .ok (.string (p.selectedSubtype value)) := by
  rw [SubmittedDocument.subtypeOf, Upload.membersOrEmpty_object, ok_bind, membersOrEmpty_vcMeta,
    ok_bind]
  dsimp only
  rw [recordedSubtype_eq, member_enum, member_enumNames, htruthy, selectedSubtype, position?]
  generalize p.recordedSubtype = recorded
  -- without options or without labels what is recorded counts
  rcases hvalues : p.values? with _ | _ | ⟨v, vs⟩
  · rfl
  · rfl
  have hunlabelled : ∀ o : Option Nat, (o.bind fun i => ([] : List Text)[i]?) = none := by
    intro o
    cases o <;> rfl
  rcases hnames : p.valueNames? with _ | _ | ⟨n, ns⟩
  · rw [Option.getD_none, hunlabelled]
    rfl
  · show _ = Except.ok (Json.string (Provenance.textOr recorded
      ((Option.bind _ fun i => ([] : List Text)[i]?).getD [])))
    rw [hunlabelled]
    rfl
  have hposition : SubmittedDocument.position? (Json.ofTexts (v :: vs)) value
      = .ok ((v :: vs).findIdx? fun t => Json.string t == value) := by
    rw [Json.ofTexts, SubmittedDocument.position?, List.findIdx?_map]
    rfl
  show (SubmittedDocument.position? (Json.ofTexts (v :: vs)) value >>= _) = _
  rw [hposition, ok_bind, Option.getD_some, Option.getD_some]
  cases (v :: vs).findIdx? fun t => Json.string t == value with
  | none => rfl
  | some index =>
    show (SubmittedDocument.nameAt (Json.ofTexts (n :: ns)) index >>= _) = _
    rw [Json.ofTexts, SubmittedDocument.nameAt, List.getElem?_map, ok_bind, Option.bind_some]
    rcases (n :: ns)[index]? with _ | _ | ⟨c, name⟩ <;> rfl

/-- A document field of a form with a value becomes a record, whatever the wallet holds. -/
theorem outcome_create (settings : Settings) (wallet : List WalletDocument) (p : FormProperty)
    {value : Json} (htruthy : value.truthy = true) {text : Text} (hplain : value.plain = .ok text)
    (content : Text) :
    (SubmittedDocument.create settings p.name value content (.object p.formMembers)
      (.documents wallet)).outcome = .ok (p.submitted settings wallet value text content) := by
  simp only [SubmittedDocument.create, Wallet.Input.load, Trace.outcome_bind,
    Trace.outcome_liftFault, Trace.outcome_pure, Upload.membersOrEmpty_object, mapError_ok, ok_bind,
    Provenance.ofSelection_eq_ok settings wallet htruthy hplain, membersOrEmpty_vcMeta,
    subtypeOf_formMembers p htruthy]
  -- only the log depends on whether the wallet holds the document
  split <;> simp only [Trace.outcome_bind, Trace.outcome_note, Trace.outcome_liftFault,
    Trace.outcome_pure, mapError_ok, ok_bind, reasons_eq, Json.write_ofTexts, recordedFormat_eq,
    submitted]

end FormProperty

end BenefitForm
