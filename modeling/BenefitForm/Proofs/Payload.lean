import BenefitForm.Proofs.Submission

/-!
# What is handed on

The payload of a submission is one flat object: the benefit, the personal fields,
and the lists of files and documents where they are not empty. The names of
personal fields are the applicant's choice. None is that of the benefit, which is
a system field, but one may be that of a list: without the list its value stands
where the list would, and with it the list takes its place.

- `Submission.arePersonal_of_classify`: no two personal fields of a submission have one
  key, and none has that of a document.
- `get?_payload`: what the payload has under any text.
- `payload_reserved`: exactly when the reserved keys come from the classification
  alone and no personal value is lost.
-/

namespace BenefitForm

/-! ### Members of different keys -/

namespace Members

variable {κ α : Type} [BEq κ]

/-- Whether no two members have one key. -/
def Distinct (ms : List (κ × α)) : Prop := ms.Pairwise fun m n => (m.1 == n.1) = false

/-- A new key goes to the end. -/
theorem set_of_contains_eq_false {ms : List (κ × α)} {k : κ} {v : α}
    (h : contains ms k = false) : set ms k v = ms ++ [(k, v)] := by
  rw [set, if_neg (by simp [h])]

/-- A key that is present stays where it is. -/
theorem keys_set_of_contains {ms : List (κ × α)} {k : κ} {v : α} (h : contains ms k = true) :
    keys (set ms k v) = keys ms := by
  rw [set, if_pos h, keys, keys, List.map_map]
  refine List.map_congr_left fun m _ => ?_
  show (if m.1 == k then (m.1, v) else m).1 = m.1
  split <;> rfl

theorem distinct_iff {ms : List (κ × α)} :
    Distinct ms ↔ (keys ms).Pairwise fun a b => (a == b) = false := by
  rw [Distinct, keys, List.pairwise_map]

/-- The keys are those before and the one that is written. -/
theorem mem_keys_set {ms : List (κ × α)} {k l : κ} {v : α} (h : l ∈ keys (set ms k v)) :
    l ∈ keys ms ∨ l = k := by
  cases hk : contains ms k with
  | true => exact .inl (keys_set_of_contains hk ▸ h)
  | false =>
    rw [set_of_contains_eq_false hk, keys, List.map_append, List.mem_append] at h
    exact h.imp_right List.mem_singleton.mp

/-- Members stay of different keys when one is written. -/
theorem Distinct.set {ms : List (κ × α)} (h : Distinct ms) (k : κ) (v : α) :
    Distinct (Members.set ms k v) := by
  cases hk : contains ms k with
  | true =>
    rw [distinct_iff, keys_set_of_contains hk]
    exact distinct_iff.mp h
  | false =>
    rw [set_of_contains_eq_false hk, Distinct, List.pairwise_append]
    refine ⟨h, List.pairwise_singleton _ _, fun m hm n hn => ?_⟩
    rw [List.mem_singleton.mp hn]
    exact List.any_eq_false.mp hk m hm |> Bool.eq_false_iff.mpr

/-- Members of different keys are appended when they are written one after another. -/
theorem foldl_set {base ms : List (κ × α)} (h : Distinct (base ++ ms)) :
    ms.foldl (fun p m => Members.set p m.1 m.2) base = base ++ ms := by
  induction ms generalizing base with
  | nil => rw [List.foldl_nil, List.append_nil]
  | cons m ms ih =>
    have hnew : contains base m.1 = false := by
      rw [contains, List.any_eq_false]
      intro n hn
      rw [(List.pairwise_append.mp h).2.2 n hn m List.mem_cons_self]
      exact Bool.false_ne_true
    rw [List.append_cons] at h
    rw [List.foldl_cons, set_of_contains_eq_false hnew, ih h, List.append_cons base m ms]

end Members

/-! ### Entries under texts -/

namespace Key

theorem toJson_eq_string_iff {k : Key} {t : Text} : k.toJson = .string t ↔ k = .text t := by
  cases k <;> simp [toJson]

/-- Only a text is a text's key. -/
theorem beq_text_iff {k : Key} {t : Text} : (k == .text t) = true ↔ k = .text t :=
  Json.equalBy_string_iff.trans toJson_eq_string_iff

/-- The same from the left. -/
theorem text_beq_iff {k : Key} {t : Text} : (Key.text t == k) = true ↔ k = .text t :=
  Json.string_equalBy_iff.trans toJson_eq_string_iff

end Key

namespace Entries

/-- What is found under a text is an entry. -/
theorem mem_of_get? {es : Entries} {t : Text} {v : Json}
    (h : Members.get? es (.text t) = some v) : (.text t, v) ∈ es := by
  induction es with
  | nil => cases h
  | cons e es ih =>
    rw [Members.get?_cons] at h
    split at h
    · rename_i he
      cases h
      rw [← Key.text_beq_iff.mp he]
      exact List.mem_cons_self
    · exact List.mem_cons_of_mem e (ih h)

/-- Where the keys differ, an entry under a text is found. -/
theorem get?_of_mem {es : Entries} (hes : Members.Distinct es) {t : Text} {v : Json}
    (h : (.text t, v) ∈ es) : Members.get? es (.text t) = some v := by
  induction es with
  | nil => cases h
  | cons e es ih =>
    obtain ⟨hhead, hrest⟩ := List.pairwise_cons.mp hes
    rw [Members.get?_cons]
    rcases List.mem_cons.mp h with rfl | hmem
    · rw [if_pos (Key.text_beq_iff.mpr rfl)]
    · have hne : ¬(Key.text t == e.1) = true := fun he =>
        absurd (hhead _ hmem) (by rw [Key.beq_text_iff.mpr (Key.text_beq_iff.mp he)]; decide)
      rw [if_neg hne]
      exact ih hrest hmem

theorem get?_eq_some_iff {es : Entries} (hes : Members.Distinct es) {t : Text} {v : Json} :
    Members.get? es (.text t) = some v ↔ (.text t, v) ∈ es :=
  ⟨mem_of_get?, get?_of_mem hes⟩

/-- A text is a key iff something is found under it. -/
theorem contains_eq_isSome (es : Entries) (t : Text) :
    Members.contains es (.text t) = (Members.get? es (.text t)).isSome := by
  induction es with
  | nil => rfl
  | cons e es ih =>
    rw [Members.get?_cons, Members.contains, List.any_cons]
    by_cases he : e.1 = .text t
    · rw [Key.beq_text_iff.mpr he, if_pos (Key.text_beq_iff.mpr he)]
      rfl
    · rw [Bool.eq_false_iff.mpr (mt Key.beq_text_iff.mp he), if_neg (mt Key.text_beq_iff.mp he)]
      exact ih

/-- What is found once the entries under a text have a new value. -/
theorem get?_map_replace (es : Entries) (t u : Text) (v : Json) :
    Members.get? (es.map fun e => if e.1 == .text t then (e.1, v) else e) (.text u)
      = if u = t then (Members.get? es (.text t)).map fun _ => v
        else Members.get? es (.text u) := by
  induction es with
  | nil => simp
  | cons e es ih =>
    rw [List.map_cons, Members.get?_cons, ih, Members.get?_cons, Members.get?_cons]
    obtain ⟨k, w⟩ := e
    by_cases hk : k = .text t
    · subst hk
      by_cases hu : u = t
      · simp [hu]
      · simp [hu]
    · have ht : ¬(Key.text t == k) = true := mt Key.text_beq_iff.mp hk
      have hk' : ¬(k == .text t) = true := mt Key.beq_text_iff.mp hk
      rw [if_neg hk', if_neg ht]
      by_cases hu : u = t
      · rw [if_pos hu, if_pos hu, hu, if_neg ht]
      · rw [if_neg hu, if_neg hu]

/-- Writing under a text changes what is found under it and nothing else. -/
theorem get?_set (es : Entries) (t u : Text) (v : Json) :
    Members.get? (Members.set es (.text t) v) (.text u)
      = if u = t then some v else Members.get? es (.text u) := by
  have hfound := contains_eq_isSome es t
  cases hk : Members.contains es (.text t) with
  | true =>
    rw [hk, eq_comm, Option.isSome_iff_exists] at hfound
    obtain ⟨w, hw⟩ := hfound
    rw [Members.set, if_pos hk, get?_map_replace, hw]
    rfl
  | false =>
    rw [hk, eq_comm, Option.isSome_eq_false_iff, Option.isNone_iff_eq_none] at hfound
    rw [Members.set_of_contains_eq_false hk, Members.get?_append, Members.get?_cons,
      Members.get?_nil, Key.text_beq]
    by_cases hu : u = t
    · rw [hu, hfound, Option.none_or, if_pos rfl, if_pos (beq_self_eq_true _)]
    · rw [if_neg hu, if_neg (by simpa using hu), Option.or_none]

/-- Writing under a text leaves the entries under other keys. -/
theorem mem_set_of_ne {es : Entries} {e : Key × Json} (he : e ∈ es) {t : Text}
    (hne : e.1 ≠ .text t) (v : Json) : e ∈ Members.set es (.text t) v := by
  rw [Members.set]
  split
  · exact List.mem_map.mpr ⟨e, he, if_neg (mt Key.beq_text_iff.mp hne)⟩
  · exact List.mem_append_left _ he

theorem distinct_ofMembers {members : Members} (h : (Members.keys members).Nodup) :
    Members.Distinct (ofMembers members) := by
  rw [Members.Distinct, ofMembers, List.pairwise_map]
  refine (List.pairwise_map.mp h).imp fun hne => ?_
  rw [Key.text_beq]
  exact beq_eq_false_iff_ne.mpr hne

end Entries

namespace Submission

/-! ### Personal fields -/

/-- Whether entries may be the personal fields beside the given document fields: their keys differ,
and none is that of a document field or of a system field. -/
structure ArePersonal (documents : List Key) (es : Entries) : Prop where
  distinct : Members.Distinct es
  names : ∀ k ∈ Members.keys es, isPersonal documents k = true

theorem ArePersonal.set {documents : List Key} {es : Entries} (h : ArePersonal documents es)
    {name : Key} (hname : isPersonal documents name = true) (v : Json) :
    ArePersonal documents (Members.set es name v) := by
  refine ⟨h.distinct.set name v, fun k hk => ?_⟩
  rcases Members.mem_keys_set hk with hk | rfl
  · exact h.names k hk
  · exact hname

/-- Taking up the values of names, as the personal fields of a list or a text are, keeps them personal
fields. -/
theorem ArePersonal.foldlM {documents : List Key} {fields : Entries}
    (hfields : ArePersonal documents fields) {value : Key → Except Fault Json} {names : List Key}
    (hnames : ∀ name ∈ names, isPersonal documents name = true) {es : Entries}
    (h : names.foldlM (fun fields name => do
      let v ← value name
      return if v.isNull then fields else Members.set fields name v) fields = .ok es) :
    ArePersonal documents es := by
  induction names generalizing fields with
  | nil =>
    cases h
    exact hfields
  | cons name names ih =>
    obtain ⟨hname, hnames⟩ := List.forall_mem_cons.mp hnames
    rw [List.foldlM_cons] at h
    obtain ⟨fields', hstep, h⟩ := bind_eq_ok_iff.mp h
    obtain ⟨v, -, hv⟩ := bind_eq_ok_iff.mp hstep
    cases hv
    refine ih ?_ hnames h
    split
    · exact hfields
    · exact hfields.set hname v

/-- The personal fields among filled values, in whatever form the values are. -/
theorem arePersonal_personalFields {documents : List Key} {values : Json} {es : Entries}
    (hvalues : ∀ members, values = .object members → (Members.keys members).Nodup)
    (h : personalFields documents values = .ok es) : ArePersonal documents es := by
  cases values with
  | object members =>
    cases h
    refine ⟨(Entries.distinct_ofMembers (hvalues members rfl)).filter _, fun k hk => ?_⟩
    obtain ⟨m, hm, rfl⟩ := List.mem_map.mp hk
    exact (Bool.and_eq_true_iff.mp (List.mem_filter.mp hm).2).1
  | _ =>
    obtain ⟨items, -, h⟩ := bind_eq_ok_iff.mp h
    obtain ⟨names, -, h⟩ := bind_eq_ok_iff.mp h
    have hnone : ArePersonal documents [] := ⟨.nil, fun k hk => absurd hk List.not_mem_nil⟩
    exact hnone.foldlM (fun name hname => (List.mem_filter.mp hname).2) h

/-- A submission has the personal fields of the values that it was made of. -/
theorem arePersonal_of_classify {settings : Settings} {values : Json} {schema : SchemaInput}
    {wallet : Wallet.Input} {names : Json} {s : Submission}
    (hvalues : ∀ members, values = .object members → (Members.keys members).Nodup)
    (h : (classify settings values schema wallet names).outcome = .ok s) :
    ∃ documents, ArePersonal documents s.personal := by
  simp only [classify, Trace.outcome_bind, Trace.outcome_liftFault, outcome_addDocuments, foldl_add,
    bind_eq_ok_iff, mapError_eq_ok_iff, pure_eq_ok] at h
  obtain ⟨_, -, _, -, _, -, _, -, documents, -, personal, hpersonal, _, -, hs⟩ := h
  cases hs
  exact ⟨documents, arePersonal_personalFields hvalues hpersonal⟩

/-! ### The payload -/

/-- The key of the benefit in a payload. -/
def benefitName : Text := Text.ofString "benefitId"

/-- The key of the files in a payload. -/
def filesName : Text := Text.ofString "files"

/-- The key of the documents in a payload. -/
def documentsName : Text := Text.ofString "vc_documents"

/-- Entries with a list under a name, unless the list is left out. -/
def withList (es : Entries) (name : Text) (isEmpty : Bool) (list : Json) : Entries :=
  if isEmpty then es else Members.set es (.text name) list

theorem get?_withList (es : Entries) (name t : Text) (isEmpty : Bool) (list : Json) :
    Members.get? (withList es name isEmpty list) (.text t)
      = if t = name ∧ isEmpty = false then some list else Members.get? es (.text t) := by
  cases isEmpty with
  | true => simp [withList]
  | false => simp [withList, Entries.get?_set]

theorem distinct_withList {es : Entries} (h : Members.Distinct es) (name : Text) (isEmpty : Bool)
    (list : Json) : Members.Distinct (withList es name isEmpty list) := by
  rw [withList]
  split
  · exact h
  · exact h.set _ _

theorem mem_withList {es : Entries} {e : Key × Json} (he : e ∈ es) {name : Text}
    (hne : e.1 ≠ .text name) (isEmpty : Bool) (list : Json) :
    e ∈ withList es name isEmpty list := by
  rw [withList]
  split
  · exact he
  · exact Entries.mem_set_of_ne he hne list

section

variable {s : Submission} {documents : List Key} (h : ArePersonal documents s.personal)
  (benefitId : Json)

include h

theorem name_ne_benefitName {e : Key × Json} (he : e ∈ s.personal) : e.1 ≠ .text benefitName := by
  intro hname
  have hpersonal := h.names e.1 (List.mem_map_of_mem (f := Prod.fst) he)
  rw [hname, isPersonal, Bool.and_eq_true, Key.contains_map_text] at hpersonal
  exact absurd hpersonal.2 (by decide)

theorem distinct_benefit_cons :
    Members.Distinct ((.text benefitName, benefitId) :: s.personal : Entries) := by
  refine List.pairwise_cons.mpr ⟨fun e he => ?_, h.distinct⟩
  exact Bool.eq_false_iff.mpr (mt Key.text_beq_iff.mp (name_ne_benefitName h he))

/-- The payload is the benefit and the personal fields, into which the lists are written. -/
theorem payload_eq :
    s.payload benefitId = withList (withList ((.text benefitName, benefitId) :: s.personal)
      filesName s.files.isEmpty s.filesJson) documentsName s.documents.isEmpty s.documentsJson := by
  have hpersonal : s.personal.foldl (fun p m => Members.set p m.1 m.2)
      [(.text benefitName, benefitId)] = (.text benefitName, benefitId) :: s.personal :=
    Members.foldl_set (distinct_benefit_cons h benefitId)
  rw [← hpersonal]
  rfl

/-- What the payload has under a text. -/
theorem get?_payload (t : Text) :
    Members.get? (s.payload benefitId) (.text t)
      = if t = documentsName ∧ s.documents.isEmpty = false then some s.documentsJson
        else if t = filesName ∧ s.files.isEmpty = false then some s.filesJson
        else if t = benefitName then some benefitId
        else Members.get? s.personal (.text t) := by
  rw [payload_eq h, get?_withList, get?_withList, Members.get?_cons, Key.text_beq]
  simp only [beq_iff_eq]

theorem distinct_payload : Members.Distinct (s.payload benefitId) := by
  rw [payload_eq h]
  exact distinct_withList (distinct_withList (distinct_benefit_cons h benefitId) ..) ..

theorem get?_payload_benefitName :
    Members.get? (s.payload benefitId) (.text benefitName) = some benefitId := by
  rw [get?_payload h, if_neg (fun e => absurd e.1 (by decide)),
    if_neg (fun e => absurd e.1 (by decide)), if_pos rfl]

theorem get?_payload_filesName :
    Members.get? (s.payload benefitId) (.text filesName)
      = if s.files.isEmpty then Members.get? s.personal (.text filesName)
        else some s.filesJson := by
  rw [get?_payload h, if_neg (fun e => absurd e.1 (by decide)),
    if_neg (fun e => absurd e (by decide) : ¬filesName = benefitName)]
  cases s.files.isEmpty <;> simp

theorem get?_payload_documentsName :
    Members.get? (s.payload benefitId) (.text documentsName)
      = if s.documents.isEmpty then Members.get? s.personal (.text documentsName)
        else some s.documentsJson := by
  rw [get?_payload h, if_neg (fun e => absurd e.1 (by decide) : ¬(documentsName = filesName ∧ _)),
    if_neg (fun e => absurd e (by decide) : ¬documentsName = benefitName)]
  cases s.documents.isEmpty <;> simp

/-- Nothing takes the place of a personal field whose key is not that of a list. -/
theorem mem_payload {e : Key × Json} (he : e ∈ s.personal) (hfiles : e.1 ≠ .text filesName)
    (hdocuments : e.1 ≠ .text documentsName) : e ∈ s.payload benefitId := by
  rw [payload_eq h]
  exact mem_withList (mem_withList (List.mem_cons_of_mem _ he) hfiles ..) hdocuments ..

end

/-- Whether the reserved keys of the payload come from the classification alone and every personal
value is handed on. -/
structure HandsOn (s : Submission) (benefitId : Json) : Prop where
  benefit : Members.get? (s.payload benefitId) (.text benefitName) = some benefitId
  files : Members.get? (s.payload benefitId) (.text filesName)
    = if s.files.isEmpty then none else some s.filesJson
  documents : Members.get? (s.payload benefitId) (.text documentsName)
    = if s.documents.isEmpty then none else some s.documentsJson
  personal : ∀ e ∈ s.personal, e ∈ s.payload benefitId

/-- Whether no personal field is in the place of a list: none has its name, unless with the list
itself for the value. -/
def KeepsOff (s : Submission) (name : Text) (isEmpty : Bool) (list : Json) : Prop :=
  ∀ v, (.text name, v) ∈ s.personal → isEmpty = false ∧ v = list

/-- Where no personal field has the name of a list, none is in its place. -/
theorem keepsOff_of_contains_eq_false {s : Submission} {name : Text}
    (h : Members.contains s.personal (.text name) = false) (isEmpty : Bool) (list : Json) :
    s.KeepsOff name isEmpty list := by
  intro v hv
  exact absurd (Key.beq_text_iff.mpr rfl) (List.any_eq_false.mp h _ hv)

/-- No personal field is in the place of a list iff the list alone decides what is under its name
and a personal value under that name is not lost. -/
theorem keepsOff_iff {s : Submission} {payload : Entries} {name : Text} {isEmpty : Bool}
    {list : Json} (hpersonal : Members.Distinct s.personal) (hpayload : Members.Distinct payload)
    (hget : Members.get? payload (.text name)
      = if isEmpty then Members.get? s.personal (.text name) else some list) :
    s.KeepsOff name isEmpty list ↔
      Members.get? payload (.text name) = (if isEmpty then none else some list) ∧
        ∀ v, (.text name, v) ∈ s.personal → (.text name, v) ∈ payload := by
  simp only [KeepsOff, ← Entries.get?_eq_some_iff hpersonal, ← Entries.get?_eq_some_iff hpayload,
    hget]
  cases isEmpty with
  | true => simp [Option.eq_none_iff_forall_ne_some]
  | false => simp [eq_comm]

/-- A payload hands everything on iff no personal field is in the place of a list. -/
theorem payload_reserved {settings : Settings} {values : Json} {schema : SchemaInput}
    {wallet : Wallet.Input} {names : Json} {s : Submission}
    (hvalues : ∀ members, values = .object members → (Members.keys members).Nodup)
    (h : (classify settings values schema wallet names).outcome = .ok s) (benefitId : Json) :
    s.HandsOn benefitId ↔ s.KeepsOff filesName s.files.isEmpty s.filesJson ∧
      s.KeepsOff documentsName s.documents.isEmpty s.documentsJson := by
  obtain ⟨documents, hp⟩ := arePersonal_of_classify hvalues h
  have hdistinct := distinct_payload hp benefitId
  rw [keepsOff_iff hp.distinct hdistinct (get?_payload_filesName hp benefitId),
    keepsOff_iff hp.distinct hdistinct (get?_payload_documentsName hp benefitId)]
  constructor
  · intro hon
    exact ⟨⟨hon.files, fun v => hon.personal _⟩, hon.documents, fun v => hon.personal _⟩
  · rintro ⟨⟨hfiles, hfile⟩, hdocuments, hdocument⟩
    refine ⟨get?_payload_benefitName hp benefitId, hfiles, hdocuments, ?_⟩
    rintro ⟨k, v⟩ he
    by_cases hkfiles : k = .text filesName
    · exact hkfiles ▸ hfile v (hkfiles ▸ he)
    by_cases hkdocuments : k = .text documentsName
    · exact hkdocuments ▸ hdocument v (hkdocuments ▸ he)
    exact mem_payload hp benefitId he hkfiles hkdocuments

/-- Filled values and the properties that they belong to, submitted without a wallet. -/
def submitted (properties values : List (String × Json)) : Except Failure Submission :=
  (classify .standard (Json.record values) (.stored (Json.record properties)) (.documents [])
    .null).outcome

/-- A property that is recorded as a document, and whether as an upload. -/
def recordedProperty (isFileUpload : Bool) : Json :=
  Json.record [("vcMeta", Json.record [("isFileUpload", .bool isFileUpload)])]

/-- A file, a document and a personal value are handed on. -/
theorem payload_reserved_of_both :
    ∃ s, submitted [("a", recordedProperty true), ("b", recordedProperty false)]
        [("a", Json.text "x"), ("b", Json.text "y"), ("c", Json.text "z")] = .ok s ∧
      s.files.length = 1 ∧ s.documents.length = 1 ∧ s.personal.length = 1 ∧
      s.HandsOn (Json.text "b-1") := by
  have hany : ((submitted [("a", recordedProperty true), ("b", recordedProperty false)]
      [("a", Json.text "x"), ("b", Json.text "y"), ("c", Json.text "z")]).toOption.any fun s =>
        s.files.length == 1 && s.documents.length == 1 && s.personal.length == 1 &&
        !Members.contains s.personal (.text filesName) &&
        !Members.contains s.personal (.text documentsName)) = true := by
    decide +kernel
  obtain ⟨s, hs, hany⟩ := exists_ok_of_any hany
  simp only [Bool.and_eq_true, beq_iff_eq, Bool.not_eq_true'] at hany
  obtain ⟨⟨⟨⟨hfiles, hdocuments⟩, hpersonal⟩, hnofiles⟩, hnodocuments⟩ := hany
  refine ⟨s, hs, hfiles, hdocuments, hpersonal, (payload_reserved ?_ hs _).mpr
    ⟨keepsOff_of_contains_eq_false hnofiles _ _, keepsOff_of_contains_eq_false hnodocuments _ _⟩⟩
  rintro members hmembers
  cases hmembers
  decide

/-- A personal field in the place of the documents becomes the list of the documents, and one in the
place of the files is lost to the list of the files. -/
theorem payload_taken :
    (∃ s, submitted [] [("vc_documents", Json.text "x")] = .ok s ∧ s.documents.isEmpty = true ∧
      Members.get? (s.payload (Json.text "b-1")) (.text documentsName) = some (Json.text "x")) ∧
    ∃ s, submitted [("a", recordedProperty true)]
        [("files", Json.text "x"), ("a", Json.text "y")] = .ok s ∧
      (.text filesName, Json.text "x") ∈ s.personal ∧
      (.text filesName, Json.text "x") ∉ s.payload (Json.text "b-1") := by
  have hforged : ((submitted [] [("vc_documents", Json.text "x")]).toOption.any fun s =>
      s.documents.isEmpty && (Members.get? (s.payload (Json.text "b-1"))
        (.text documentsName)).any (· == Json.text "x")) = true := by
    decide +kernel
  have hlost : ((submitted [("a", recordedProperty true)]
      [("files", Json.text "x"), ("a", Json.text "y")]).toOption.any fun s =>
        (Members.get? s.personal (.text filesName)).any (· == Json.text "x") &&
        !(s.payload (Json.text "b-1")).any fun e =>
          e.1 == .text filesName && e.2 == Json.text "x") = true := by
    decide +kernel
  constructor
  · obtain ⟨s, hs, hforged⟩ := exists_ok_of_any hforged
    rw [Bool.and_eq_true, Option.any_eq_true] at hforged
    obtain ⟨hnone, v, hv, hx⟩ := hforged
    rw [Json.beq_string_iff.mp hx] at hv
    exact ⟨s, hs, hnone, hv⟩
  · obtain ⟨s, hs, hlost⟩ := exists_ok_of_any hlost
    rw [Bool.and_eq_true, Option.any_eq_true, Bool.not_eq_true', List.any_eq_false] at hlost
    obtain ⟨⟨v, hv, hx⟩, hlost⟩ := hlost
    rw [Json.beq_string_iff.mp hx] at hv
    refine ⟨s, hs, Entries.mem_of_get? hv, fun hmem => hlost _ hmem ?_⟩
    rw [Key.text_beq, Json.text, Json.string_beq]
    simp

end Submission

end BenefitForm
