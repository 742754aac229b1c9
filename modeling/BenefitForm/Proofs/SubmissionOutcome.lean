import BenefitForm.Proofs.Display
import BenefitForm.Proofs.RequiredDocument

/-!
# How a submission ends

Each document field becomes its record on its own, and the only step of that which
may fail is the encoding of its value. A value that is no text is taken in its
display form, which always has an encoding; so a submission fails iff the value of
some document field is a text with a surrogate, wherever in the form the field
stands, and gives no part of a result then.

- `recordAmong_eq_error_iff`: when one field fails.
- `countP_isSome_of_records`: how many records there are otherwise.
- `submission_all_or_nothing`: every submission of every compiled form.
-/

namespace BenefitForm

open FormProperty

/-- Whether the value of some document field is a text with a surrogate. -/
def FormSchema.HasUnencodable (form : FormSchema) (data : Members) : Prop :=
  ∃ name ∈ form.documentNames, ∃ t, Members.get? data name = some (.string t) ∧
    ∃ c ∈ t, c.isSurrogate = true

/-- Whether filled values have a value for a name. -/
def Members.fills (data : Members) (name : Text) : Bool :=
  ((get? data name).getD .null).truthy

/-- A submission with one record for each document field that is filled. -/
structure Submission.Complete (s : Submission) (settings : Settings) (form : FormSchema)
    (data : Members) (held : List WalletDocument) : Prop where
  holds : ∀ name ∈ form.documentNames, Members.fills data name = true →
    s.Holds settings form data held name
  count : s.files.length + s.documents.length = form.documentNames.countP (Members.fills data)

/-! ### One field -/

namespace FormProperty

variable {settings : Settings} {held : List WalletDocument} {data : Members} {p : FormProperty}

/-- A field whose value has a plain text fails iff that text has a surrogate. -/
theorem plain_of_recordAmong_eq_error {v : Json} (hv : Members.get? data p.name = some v)
    {t : Text} (ht : v.plain = .ok t) {e : Failure}
    (h : p.recordAmong settings held data = .error e) : ¬ t.Plain := by
  intro hplain
  obtain ⟨content, hcontent⟩ := Content.exists_encodeText hplain
  rw [recordAmong, hv, Option.getD_some] at h
  split at h
  · rw [ht, mapError_ok, ok_bind, hcontent] at h
    cases h
  · cases h

/-- A field fails iff its value is a text with a surrogate. -/
theorem recordAmong_eq_error_iff (hdata : (Json.object data).isWritable = true) {e : Failure} :
    p.recordAmong settings held data = .error e ↔ e = .encodingFailed ∧
      ∃ t, Members.get? data p.name = some (.string t) ∧ ∃ c ∈ t, c.isSurrogate = true := by
  have htext : ∀ v, Members.get? data p.name = some v → ∃ t, v.plain = .ok t :=
    fun v hv => Json.exists_plain (Json.isWritable_of_get? hdata hv)
  constructor
  · intro h
    refine ⟨recordAmong_eq_error_of_plain htext h, ?_⟩
    -- a display form is plain, so the value that failed is a text
    cases hv : Members.get? data p.name with
    | none =>
      rw [recordAmong, hv] at h
      cases h
    | some v =>
      obtain ⟨t, ht⟩ := htext v hv
      have hsurrogate := plain_of_recordAmong_eq_error hv ht h
      refine ⟨t, congrArg some (Json.plain_of_not_string ht hsurrogate), ?_⟩
      simpa [Text.Plain] using hsurrogate
  · rintro ⟨rfl, t, hv, c, hc, hsurrogate⟩
    obtain ⟨e, he⟩ := Content.exists_encodeText_error hc hsurrogate
    rw [recordAmong_of_text hv (List.ne_nil_of_mem hc), he]
    rfl

/-- A field has a record iff it is filled. -/
theorem isSome_of_recordAmong {r : Option FieldRecord}
    (h : p.recordAmong settings held data = .ok r) : r.isSome = Members.fills data p.name := by
  rw [recordAmong] at h
  rw [Members.fills]
  split at h
  · rename_i htruthy
    obtain ⟨text, -, h⟩ := bind_eq_ok_iff.mp h
    obtain ⟨content, -, hpure⟩ := bind_eq_ok_iff.mp h
    cases hpure
    exact htruthy.symm
  · rename_i htruthy
    cases h
    exact (Bool.eq_false_iff.mpr htruthy).symm

end FormProperty

/-! ### Whole submissions -/

/-- Every record is a file or a document. -/
theorem FieldRecord.length_add_length (rs : List (Option FieldRecord)) :
    (rs.filterMap (Option.bind · file?)).length + (rs.filterMap (Option.bind · document?)).length
      = rs.countP (·.isSome) := by
  induction rs with
  | nil => rfl
  | cons r rs ih =>
    rw [List.countP_cons, ← ih]
    rcases r with _ | ⟨name, content⟩ | d
    · rfl
    · exact Nat.add_right_comm _ 1 _
    · rfl

/-- There are as many records as fields that are filled. -/
theorem countP_isSome_of_records {settings : Settings} {held : List WalletDocument} {data : Members}
    {ps : List FormProperty} {rs : List (Option FieldRecord)}
    (h : List.Forall₂ (fun p r => FormProperty.recordAmong settings held data p = .ok r) ps rs) :
    rs.countP (·.isSome) = ps.countP fun p => Members.fills data p.name := by
  induction h with
  | nil => rfl
  | cons hrecord _ ih =>
    rw [List.countP_cons, List.countP_cons, ih, isSome_of_recordAmong hrecord]

namespace Compiled

variable {settings : Settings} {fields : FieldInput} {feed : Json} {wallet : Wallet.Input}
  {form : FormSchema} {rules : NormalizedRules} {documents : List WalletDocument}
  {plans : List DocumentPlan}

/-- The unencodable values of a form are among those of the properties that are submitted. -/
theorem hasUnencodable_iff (h : Compiled settings fields feed wallet form rules documents plans)
    {data : Members} :
    form.HasUnencodable data ↔ ∃ p ∈ (formProperties settings fields.read.fields documents
      plans).filter (·.isSubmitted), ∃ t, Members.get? data p.name = some (.string t) ∧
        ∃ c ∈ t, c.isSurrogate = true := by
  rw [FormSchema.HasUnencodable, h.documentNames]
  constructor
  · rintro ⟨name, hname, htext⟩
    obtain ⟨p, hp, rfl⟩ := List.mem_map.mp hname
    exact ⟨p, hp, htext⟩
  · rintro ⟨p, hp, htext⟩
    exact ⟨p.name, List.mem_map_of_mem hp, htext⟩

/-- The records of a run over the document fields make a complete submission. -/
theorem complete_of_records (h : Compiled settings fields feed wallet form rules documents plans)
    {data : Members} {held : List WalletDocument} {rs : List (Option FieldRecord)}
    (hrun : List.Forall₂ (fun p r => FormProperty.recordAmong settings held data p = .ok r)
      ((formProperties settings fields.read.fields documents plans).filter (·.isSubmitted)) rs)
    (personal : Entries) :
    Submission.Complete
      { personal := personal
        files := rs.filterMap (Option.bind · FieldRecord.file?)
        documents := rs.filterMap (Option.bind · FieldRecord.document?) }
      settings form data held := by
  constructor
  case holds =>
    intro name hname hfills
    obtain ⟨p, hp, hsubmitted, rfl⟩ := h.mem_documentNames_iff.mp hname
    obtain ⟨r, hr, hrecord⟩ :=
      exists_of_mem_left hrun (List.mem_filter.mpr ⟨hp, hsubmitted⟩)
    rw [Members.fills] at hfills
    cases hv : Members.get? data p.name with
    | none =>
      rw [hv] at hfills
      cases hfills
    | some v =>
      rw [hv] at hfills
      exact h.holds_of_truthy hp hv hfills hrecord hr personal
  case count =>
    rw [FieldRecord.length_add_length, h.documentNames, List.countP_map,
      countP_isSome_of_records hrun]
    rfl

end Compiled

/-- A submission of a compiled form fails iff the value of some document field is a text with a
surrogate, and otherwise has one record for each document field that is filled. -/
theorem submission_all_or_nothing {settings : Settings} {fields : FieldInput} {feed : Json}
    {wallet : Wallet.Input} {title benefitId : Json} {form : FormSchema}
    (hform : (compileForm settings fields feed wallet title benefitId).outcome = .ok form)
    {data : Members} (hdata : (Json.object data).isWritable = true) {items : List Json}
    (hitems : ∀ item ∈ items, item.isWritable = true) :
    ((Submission.classify settings (.object data) (.form form) (.records (.array items))
        .null).outcome = .error .encodingFailed ↔ form.HasUnencodable data) ∧
      (∀ e, (Submission.classify settings (.object data) (.form form) (.records (.array items))
        .null).outcome = .error e → e = .encodingFailed) ∧
      (¬ form.HasUnencodable data → ∃ s held, (Wallet.load (.array items)).outcome = .ok held ∧
        (Submission.classify settings (.object data) (.form form) (.records (.array items))
          .null).outcome = .ok s ∧ s.Complete settings form data held) := by
  obtain ⟨rules, documents, plans, hc⟩ := compileForm_ok hform
  obtain ⟨held, hheld⟩ := Wallet.exists_load hitems
  rw [hc.outcome_classify, hheld, ok_bind, hc.hasUnencodable_iff]
  -- the run over the document fields ends with the first that fails, or has a record of each
  cases hrun : ((formProperties settings fields.read.fields documents plans).filter
      (·.isSubmitted)).mapM (FormProperty.recordAmong settings held data) with
  | error e =>
    obtain ⟨p, hp, herror⟩ := exists_of_mapM_eq_error hrun
    obtain ⟨rfl, htext⟩ := (recordAmong_eq_error_iff hdata).mp herror
    exact ⟨⟨fun _ => ⟨p, hp, htext⟩, fun _ => rfl⟩, fun e he => by cases he; rfl,
      fun hnone => absurd ⟨p, hp, htext⟩ hnone⟩
  | ok rs =>
    have hrecords := mapM_eq_ok_iff.mp hrun
    have hnone : ¬ ∃ p ∈ (formProperties settings fields.read.fields documents plans).filter
        (·.isSubmitted), ∃ t, Members.get? data p.name = some (.string t) ∧
          ∃ c ∈ t, c.isSurrogate = true := by
      rintro ⟨p, hp, htext⟩
      obtain ⟨r, -, hrecord⟩ := exists_of_mem_left hrecords hp
      rw [(recordAmong_eq_error_iff hdata).mpr ⟨rfl, htext⟩] at hrecord
      cases hrecord
    refine ⟨⟨fun he => ?_, fun htext => absurd htext hnone⟩, fun e he => ?_,
      fun _ => ⟨_, held, hheld, rfl, hc.complete_of_records hrecords _⟩⟩
    · cases he
    · cases he

/-- A surrogate inside a list. -/
def nestedSurrogate : Members := [(Text.ofString "p", .array [.string [.ofNat 0xD800]])]

/-- The value of the document field is no text, so the surrogate in it is submitted by its
escape. -/
theorem submission_all_or_nothing_of_nestedSurrogate :
    ∃ form, (compileForm .standard (.flat []) (requiring "p") (.documents []) (.string [])
        .null).outcome = .ok form ∧
      (Json.object nestedSurrogate).isWritable = true ∧ ¬ form.HasUnencodable nestedSurrogate ∧
      ∃ s held, (Wallet.load (.array [.null])).outcome = .ok held ∧
        (Submission.classify .standard (.object nestedSurrogate) (.form form)
          (.records (.array [.null])) .null).outcome = .ok s ∧
        s.Complete .standard form nestedSurrogate held := by
  have hany : ((compileForm .standard (.flat []) (requiring "p") (.documents []) (.string [])
      .null).outcome.toOption.any fun _ => true) = true := by
    decide +kernel
  obtain ⟨form, hform, -⟩ := exists_ok_of_any hany
  have hwritable : (Json.object nestedSurrogate).isWritable = true := rfl
  have hnone : ¬ form.HasUnencodable nestedSurrogate := by
    rintro ⟨name, -, t, ht, -⟩
    rw [nestedSurrogate, Members.get?_cons] at ht
    split at ht <;> cases ht
  exact ⟨form, hform, hwritable, hnone,
    (submission_all_or_nothing hform hwritable (by simp [Json.isWritable])).2.2 hnone⟩

end BenefitForm
