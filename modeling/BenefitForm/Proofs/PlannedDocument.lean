import BenefitForm.Proofs.Content
import BenefitForm.Proofs.Plan
import BenefitForm.Proofs.Readable
import BenefitForm.Proofs.Uploads

/-!
# What a document says about its field

The wallet that a form is submitted with need not be the one that it was compiled
for, and a value need not be one of the options. What a document record takes from
the form does not depend on that: the reasons are those of the planned field, and
the subtype is one of its proofs, since every label of the selector is one and so
is what the field records beside them (`DocumentPlan.Complete`).

- `DocumentFields.complete_of_plans`: what there is in every plan of a feed.
- `DocumentPlan.selectedSubtype_mem`: the subtype for any value at all.
- `DocumentPlan.describes_of_create`: what the record of a value says.
- `classify_describes`: every submission of every compiled form.
-/

namespace BenefitForm

open FormProperty

/-! ### Plans -/

/-- Whether a plan has what a document record tells: reasons that can be read back, and proofs with
names, one of which it records. -/
structure DocumentPlan.Complete (plan : DocumentPlan) : Prop where
  reasons_ne_nil : plan.submissionReasons ≠ []
  unpaired : ∀ reason ∈ plan.submissionReasons, reason.Unpaired
  proof_ne_nil : ∀ proof ∈ plan.proofs, proof ≠ []
  recorded : ∃ proof ∈ plan.proofs, plan.documentSubtype? = some proof

/-- Every plan of a feed that a document may hold is complete. -/
theorem DocumentFields.complete_of_plans {feed : Json} (hfeed : feed.isReadable = true)
    {rules : NormalizedRules} (hrules : (RuleFeed.normalize feed).outcome = .ok rules)
    {ps : List DocumentPlan} (hps : plans rules = .ok ps) : ∀ plan ∈ ps, plan.Complete := by
  have hsound := RuleFeed.sound_of_normalize hrules
  have hunpaired := RuleFeed.unpaired_texts_of_normalize hfeed hrules
  have hname : ∀ c ∈ rules.criteria, c.name.Unpaired :=
    fun c hc => hunpaired.criteria c hc c.name List.mem_cons_self
  have hcomplete : ∀ plan ∈ ps, plan.submissionReasons ≠ [] ∧
      (∀ reason ∈ plan.submissionReasons, reason.Unpaired) ∧
      ∃ proof ∈ plan.proofs, plan.documentSubtype? = some proof := by
    refine forall_mem_plans hsound ?_ ?_ ?_ hps
    · intro c hc plan hplan
      have hof := Criterion.isOwn_of_mem hplan
      rw [hof.reasons, hof.proofs]
      exact ⟨List.cons_ne_nil _ _, List.forall_mem_singleton.mpr (hname c hc), hof.recorded⟩
    · intro g hg types plan hmerged
      obtain ⟨first, hfirst, rfl⟩ := ProofGroup.mem_ofCriteria hg
      have hof := ProofGroup.isMerged_of_mergedPlan hmerged
      rw [hof.reasons, hof.proofs]
      refine ⟨?_, ?_, hof.recorded⟩
      · exact List.ne_nil_of_mem (List.mem_map_of_mem (f := Criterion.name)
          (ProofGroup.mem_criteria_among.mpr ⟨hfirst, rfl⟩))
      · intro reason hreason
        obtain ⟨c, hc, rfl⟩ := List.mem_map.mp hreason
        exact hname c (ProofGroup.mem_criteria_among.mp hc).1
    · intro d hd proof hproof
      exact ⟨List.cons_ne_nil _ _, List.forall_mem_singleton.mpr
        (hunpaired.documentRules d hd d.documentType List.mem_cons_self),
        proof, List.mem_cons_self, rfl⟩
  intro plan hplan
  obtain ⟨hreasons, hreadable, hrecorded⟩ := hcomplete plan hplan
  exact ⟨hreasons, hreadable, fun proof => proof_ne_nil hsound hps hplan, hrecorded⟩

/-! ### One document -/

/-- Whether a document says of its field what was planned: the reasons are the planned ones when
they are read, the subtype is one of the planned proofs (so it is the mark of an unknown one only
where the plan has a proof of that name), and the content can be decoded to the text of the
value. -/
structure SubmittedDocument.Describes (d : SubmittedDocument) (plan : DocumentPlan)
    (value : Json) : Prop where
  reasons : Json.read d.submissionReason = .ok (Json.ofTexts plan.submissionReasons)
  subtype : ∃ proof ∈ plan.proofs, d.subtype = .string proof
  content : ∃ text, value.plain = .ok text ∧ Content.Carries d.content text

/-- A value that was encoded has a text, which its content carries. -/
theorem Content.exists_carries {value : Json} {content : Text}
    (h : (encode value).outcome = .ok content) :
    ∃ text, value.plain = .ok text ∧ Carries content text := by
  rw [outcome_encode] at h
  obtain ⟨text, htext, hencoded⟩ := bind_eq_ok_iff.mp h
  exact ⟨text, mapError_eq_ok_iff.mp htext, carries_of_encodeText (mapError_eq_ok_iff.mp hencoded)⟩

namespace DocumentPlan

variable {settings : Settings} {documents : List WalletDocument} {plan : DocumentPlan}

theorem reasons_property (h : plan.Complete) :
    (plan.property settings documents).reasons = plan.submissionReasons := by
  rcases hreasons : plan.submissionReasons with _ | ⟨reason, rest⟩
  · exact absurd hreasons h.reasons_ne_nil
  · simp only [reasons, property, hreasons, Option.map_some, Option.getD_some]

/-- The proof that a field records is one of its own. -/
theorem recordedSubtype_mem (h : plan.Complete) :
    (plan.property settings documents).recordedSubtype ∈ plan.proofs := by
  obtain ⟨proof, hproof, hrecorded⟩ := h.recorded
  have hsubtype : (plan.property settings documents).recordedSubtype = proof := by
    simp only [recordedSubtype, property, Option.bind_some, hrecorded, Option.getD_some,
      Provenance.textOr, List.isEmpty_eq_false_iff.mpr (h.proof_ne_nil proof hproof),
      Bool.false_eq_true, if_false]
  exact hsubtype ▸ hproof

/-- Whatever value is selected, its proof is one of the field: every label is one, and so is what
counts without a label. -/
theorem selectedSubtype_mem (h : plan.Complete) (value : Json) :
    (plan.property settings documents).selectedSubtype value ∈ plan.proofs := by
  have hrecorded : (plan.property settings documents).recordedSubtype ∈ plan.proofs :=
    recordedSubtype_mem h
  have hlabels : ∀ label ∈ (plan.property settings documents).valueNames?.getD [],
      label ∈ plan.proofs := by
    intro label hlabel
    obtain ⟨d, hd, rfl⟩ := List.mem_map.mp hlabel
    exact List.contains_iff_mem.mp (List.mem_filter.mp hd).2
  rw [selectedSubtype, Provenance.textOr]
  split
  · exact hrecorded
  · rename_i hlabel
    cases hfound : ((plan.property settings documents).position? value).bind fun i =>
        ((plan.property settings documents).valueNames?.getD [])[i]? with
    | none =>
      rw [hfound] at hlabel
      exact absurd rfl hlabel
    | some label =>
      obtain ⟨i, -, hi⟩ := Option.bind_eq_some_iff.mp hfound
      exact hlabels label (List.mem_of_getElem? hi)

/-- The record of a value says what was planned, whatever the wallet holds and whether or not the
value is an option. -/
theorem describes_of_create (h : plan.Complete) {held : List WalletDocument} {value : Json}
    (htruthy : value.truthy = true) {d : SubmittedDocument}
    (hcontent : (Content.encode value).outcome = .ok d.content)
    (hcreate : (SubmittedDocument.create settings plan.name value d.content
      (.object (plan.property settings documents).formMembers) (.documents held)).outcome
        = .ok d) : d.Describes plan value := by
  obtain ⟨text, htext, hcarries⟩ := Content.exists_carries hcontent
  have hsubmitted := (outcome_create settings held (plan.property settings documents) htruthy htext
    d.content).symm.trans hcreate
  have hd := Except.ok.inj hsubmitted
  constructor
  case reasons =>
    rw [← hd]
    show Json.read (ProofSet.written (plan.property settings documents).reasons) = _
    rw [reasons_property h, Json.read_written h.unpaired]
  case subtype =>
    rw [← hd]
    exact ⟨_, selectedSubtype_mem h value, rfl⟩
  case content => exact ⟨text, htext, hcarries⟩

end DocumentPlan

/-! ### Whole submissions -/

/-- Whether the property that a form has under the name of a plan was built from the plan. -/
def FormSchema.HasBuilt (form : FormSchema) (settings : Settings)
    (documents : List WalletDocument) (plan : DocumentPlan) : Prop :=
  Members.get? form.properties plan.name
    = some (.object (plan.property settings documents).formMembers)

/-- Whether every submission of a form describes its planned fields. -/
structure FormSchema.DescribesPlans (form : FormSchema) (settings : Settings)
    (declared : List DeclaredField) (documents : List WalletDocument)
    (plans : List DocumentPlan) : Prop where
  /-- A document field is declared, or its property was built from a plan. -/
  declared_or_built : ∀ name ∈ form.documentNames, (∃ f ∈ declared, f.name = name) ∨
    ∃ plan ∈ plans, plan.name = name ∧ form.HasBuilt settings documents plan
  /-- A property that was built from a plan is a document field. -/
  mem_documentNames : ∀ plan ∈ plans, form.HasBuilt settings documents plan →
    plan.name ∈ form.documentNames
  /-- For each filled document field that is no upload there is one document, in the order of the
  form. It describes the plan that the field was built from, whatever the value and the wallet. -/
  describes : ∀ (data : Members) (held : Wallet.Input) (s : Submission),
    (Submission.classify settings (.object data) (.form form) held .null).outcome = .ok s →
      List.Forall₂ (fun name (d : SubmittedDocument) => ∀ plan ∈ plans, plan.name = name →
          form.HasBuilt settings documents plan →
            ∃ value, Members.get? data name = some value ∧ d.Describes plan value)
        (form.documentNames.filter fun name =>
          data.fills name && !Upload.isUploadName settings.uploadPatterns name) s.documents

namespace Compiled

variable {settings : Settings} {fields : FieldInput} {feed : Json} {wallet : Wallet.Input}
  {form : FormSchema} {rules : NormalizedRules} {documents : List WalletDocument}
  {plans : List DocumentPlan}

/-- A document field of a form is declared, or its property was built from a plan. -/
theorem declared_or_built (h : Compiled settings fields feed wallet form rules documents plans)
    {name : Text} (hname : name ∈ form.documentNames) :
    (∃ f ∈ fields.read.fields, f.name = name) ∨
      ∃ plan ∈ plans, plan.name = name ∧ form.HasBuilt settings documents plan := by
  obtain ⟨p, hp, -, rfl⟩ := h.mem_documentNames_iff.mp hname
  rcases List.mem_append.mp ((firstsBy_sublist _ _).mem hp) with hdeclared | hplanned
  · obtain ⟨f, hf, rfl⟩ := List.mem_map.mp hdeclared
    exact .inl ⟨f, hf, rfl⟩
  · obtain ⟨plan, hplan, rfl⟩ := List.mem_map.mp hplanned
    exact .inr ⟨plan, hplan, rfl, h.get?_properties hp⟩

/-- A property that was built from a plan is a document field. -/
theorem mem_documentNames_of_hasBuilt
    (h : Compiled settings fields feed wallet form rules documents plans) {plan : DocumentPlan}
    (hbuilt : form.HasBuilt settings documents plan) : plan.name ∈ form.documentNames := by
  obtain ⟨p, hp, he⟩ := h.mem_properties_iff.mp (Members.mem_of_get? hbuilt)
  obtain ⟨hname, hmembers⟩ := Prod.mk.inj he
  have hsubmitted := isDocumentProperty_formMembers p
  rw [hmembers, isDocumentProperty_formMembers] at hsubmitted
  exact h.mem_documentNames_iff.mpr ⟨p, hp, (Except.ok.inj hsubmitted).symm, hname⟩

/-- The documents of a submission are those of the filled fields that are no uploads, and describe
the plans that the fields were built from. -/
theorem documents_describe
    (h : Compiled settings fields feed wallet form rules documents plans)
    (hcomplete : ∀ plan ∈ plans, plan.Complete) {data : Members} {held : Wallet.Input}
    {s : Submission}
    (hs : (Submission.classify settings (.object data) (.form form) held .null).outcome = .ok s) :
    List.Forall₂ (fun name (d : SubmittedDocument) => ∀ plan ∈ plans, plan.name = name →
        form.HasBuilt settings documents plan →
          ∃ value, Members.get? data name = some value ∧ d.Describes plan value)
      (form.documentNames.filter fun name =>
        data.fills name && !Upload.isUploadName settings.uploadPatterns name) s.documents := by
  obtain ⟨documentsHeld, -, hroutes⟩ := Submission.routes_of_classify_form hs
  have hdocuments := hroutes.documents
  rw [List.filter_congr fun name hname => by
    rw [isFile_of_isUpload (h.isUpload_of_mem_documentNames hname)]] at hdocuments
  have hfilled := (List.forall₂_and_left _ _).mpr
    ⟨fun name hname => (List.mem_filter.mp hname).2, hdocuments⟩
  refine hfilled.imp ?_
  rintro name d ⟨hkept, ⟨value, hvalue, hcontent⟩, value', hvalue', hmade⟩ plan hplan rfl hbuilt
  obtain rfl := Option.some.inj (hvalue.symm.trans hvalue')
  have htruthy : value.truthy = true := by
    have hfills := (Bool.and_eq_true_iff.mp hkept).1
    rwa [Members.fills, hvalue] at hfills
  rw [Entries.propertyOf, Entries.get?_ofMembers, hbuilt, Option.getD_some] at hmade
  exact ⟨value, hvalue, DocumentPlan.describes_of_create (hcomplete plan hplan) htruthy hcontent
    hmade⟩

end Compiled

/-- The documents of every submission of a form that was compiled from rules which a document may
hold describe what was planned, also where the wallet has changed since and where the values were
never offered. -/
theorem classify_describes {settings : Settings} {fields : FieldInput} {feed : Json}
    {wallet : Wallet.Input} {title benefitId : Json} {form : FormSchema}
    (hfeed : feed.isReadable = true)
    (hform : (compileForm settings fields feed wallet title benefitId).outcome = .ok form) :
    ∃ rules documents plans, (RuleFeed.normalize feed).outcome = .ok rules ∧
      wallet.load.outcome = .ok documents ∧ DocumentFields.plans rules = .ok plans ∧
      form.DescribesPlans settings fields.read.fields documents plans := by
  obtain ⟨rules, documents, plans, hc⟩ := compileForm_ok hform
  have hcomplete := DocumentFields.complete_of_plans hfeed hc.normalized hc.planned
  refine ⟨rules, documents, plans, hc.normalized, hc.loaded, hc.planned, ?_⟩
  constructor
  case declared_or_built => exact fun name hname => hc.declared_or_built hname
  case mem_documentNames => exact fun plan _ hbuilt => hc.mem_documentNames_of_hasBuilt hbuilt
  case describes => exact fun data held s hs => hc.documents_describe hcomplete hs

/-- A number that no wallet offers is submitted for `p` after the only document is gone. -/
theorem classify_describes_of_forgedValue :
    (asking ["p", "photo"]).isReadable = true ∧
    ∃ form s, (compileForm .standard (.flat []) (asking ["p", "photo"])
        (.documents (holding "p" ["x"])) (.string []) .null).outcome = .ok form ∧
      (Submission.classify .standard (.object [(Text.ofString "p", .int 5)]) (.form form)
        (.documents []) .null).outcome = .ok s ∧
      (form.documentNames = ["p", "photo"].map Text.ofString ∧
        s.documents.map (·.submissionReason) = [Text.ofString "[\"t\"]"]) ∧
      ∃ rules documents plans, (RuleFeed.normalize (asking ["p", "photo"])).outcome = .ok rules ∧
        (Wallet.Input.documents (holding "p" ["x"])).load.outcome = .ok documents ∧
        DocumentFields.plans rules = .ok plans ∧
        form.DescribesPlans .standard [] documents plans := by
  have hfeed : (asking ["p", "photo"]).isReadable = true := by decide +kernel
  have hany : ((compileForm .standard (.flat []) (asking ["p", "photo"])
      (.documents (holding "p" ["x"])) (.string []) .null).outcome.toOption.any fun form =>
        (Submission.classify .standard (.object [(Text.ofString "p", .int 5)]) (.form form)
          (.documents []) .null).outcome.toOption.any fun s => decide
            (form.documentNames = ["p", "photo"].map Text.ofString ∧
              s.documents.map (·.submissionReason) = [Text.ofString "[\"t\"]"])) = true := by
    decide +kernel
  obtain ⟨form, hform, hany⟩ := exists_ok_of_any hany
  obtain ⟨s, hs, hshown⟩ := exists_ok_of_any hany
  exact ⟨hfeed, form, s, hform, hs, of_decide_eq_true hshown, classify_describes hfeed hform⟩

end BenefitForm
