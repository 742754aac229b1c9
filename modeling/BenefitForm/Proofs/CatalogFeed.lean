import BenefitForm.Proofs.CatalogItem
import BenefitForm.Proofs.Property

/-!
# What is read from a catalog item

The tags of an item hold three lists, its feeds (`CatalogFeed`). A feed is what the
entries of one list add, each entry for itself: some are passed over, some have a text
that is no JSON document, and only a document that cannot be held ends the parsing.

- `CatalogFeed.outcome_tagValues`: a feed is read entry by entry.
- `Catalog.parse_eq_ok_iff`: an answer is parsed iff the item is there and every text
  that is read has a value or is no document.
- `CatalogFeed.entries_itemWithout`: what taking out one entry does to the lists.
- `Catalog.parse_local`: the item that is missing is all that is refused, and an entry
  that adds nothing makes no difference.
-/

namespace BenefitForm

/-- One of the lists that a catalog item holds. -/
inductive CatalogFeed where
  | form
  | eligibility
  | documents

namespace CatalogFeed

/-- The code of the tag that has the list. -/
def tag : CatalogFeed → Text
  | .form => Catalog.formTag
  | .eligibility => Catalog.eligibilityTag
  | .documents => Catalog.documentsTag

/-- The codes of the entries that are asked for. -/
def codes : CatalogFeed → Json
  | .documents => Catalog.documentCodes
  | _ => .null

/-- What was parsed of the list. -/
def of : CatalogFeed → CatalogItem → List Json
  | .form, c => c.fields
  | .eligibility, c => c.eligibility
  | .documents, c => c.documents

/-- Whether an entry with this code is read. -/
def wants : CatalogFeed → Option Text → Bool
  | .documents, code =>
    code == some (Text.ofString "mandatory-doc") || code == some (Text.ofString "optional-doc")
  | _, _ => true

/-- Whether a value that was read is kept. -/
def keeps : CatalogFeed → Json → Bool
  | .form, v => v.asObject?.isSome
  | _, _ => true

variable (feed : CatalogFeed)

/-- The text that is read for an entry. -/
def text? : Json → Option Text
  | .object entry =>
    if feed.wants (Catalog.code? (.object entry)) then (Json.member entry "value").asText? else none
  | _ => none

/-- The value of that text, if it is a document. -/
def decoded? (entry : Json) : Option Json := (feed.text? entry).bind fun t => (Json.read t).toOption

/-- The value that an entry adds. -/
def value? (entry : Json) : Option Json := (feed.decoded? entry).filter feed.keeps

/-- The position of the first tag with the code. -/
def tagIndex? (item : Members) : Option Nat :=
  match Json.member item "tags" with
  | .array tags => tags.findIdx? fun tag => Catalog.code? tag == some feed.tag
  | _ => none

/-- The path from an item to the list of its tag at a position. -/
def listPath (j : Nat) : List PathStep := [.key "tags", .item j, .key "list"]

/-- The entries in the list of the first tag with the code. -/
def entries (item : Members) : List Json :=
  (((feed.tagIndex? item).bind fun j => Json.at? (listPath j) (.object item)).bind
    Json.asArray?).getD []

/-- The texts that are read for the feed. -/
def texts (item : Members) : List Text := (feed.entries item).filterMap feed.text?

/-! ### Entry by entry -/

/-- What an entry gives: a value, or none, or the end of the parsing. -/
def decode (entry : Json) : Except Failure (Option Json) :=
  match feed.text? entry with
  | none => .ok none
  | some t =>
    match Json.read t with
    | .ok v => .ok (some v)
    | .error (.malformed _) => .ok none
    | .error failure => .error (.fault failure.fault)

/-- What the entries of a list give. -/
def decodeAll (entries : List Json) : Except Failure (List Json) :=
  (entries.mapM feed.decode).map fun vs => vs.filterMap id

variable {feed}

theorem decodeAll_cons_of_none {entry : Json} (h : feed.decode entry = .ok none)
    (rest : List Json) : feed.decodeAll (entry :: rest) = feed.decodeAll rest := by
  rw [decodeAll, decodeAll, List.mapM_cons, h, ok_bind]
  cases rest.mapM feed.decode <;> rfl

theorem decodeAll_cons_of_some {entry v : Json} (h : feed.decode entry = .ok (some v))
    (rest : List Json) :
    feed.decodeAll (entry :: rest) = (do
      let vs ← feed.decodeAll rest
      return v :: vs) := by
  rw [decodeAll, decodeAll, List.mapM_cons, h, ok_bind]
  cases rest.mapM feed.decode <;> rfl

theorem decodeAll_cons_of_error {entry : Json} {e : Failure} (h : feed.decode entry = .error e)
    (rest : List Json) : feed.decodeAll (entry :: rest) = .error e := by
  rw [decodeAll, List.mapM_cons, h]
  rfl

theorem isWanted_codes (code : Option Text) :
    Catalog.isWanted feed.codes code = .ok (feed.wants code) := by
  cases feed with
  | documents =>
    refine congrArg Except.ok ?_
    have hbeq : ∀ s : String,
        (Json.ofText? code == Json.text s) = (code == some (Text.ofString s)) := by
      intro s
      cases code with
      | none => rfl
      | some t => exact Json.string_beq t (Text.ofString s)
    show ([Json.text "mandatory-doc", Json.text "optional-doc"].contains (Json.ofText? code)) = _
    rw [List.contains_cons, List.contains_cons, List.contains_nil, Bool.or_false, hbeq, hbeq, wants]
  | _ => rfl

/-- The entries of a list are read one by one. -/
theorem outcome_entryValues (tag : Option Text) (index : Nat) (entries : List Json) :
    (Catalog.entryValues tag feed.codes index entries).outcome = feed.decodeAll entries := by
  induction entries generalizing index with
  | nil => rfl
  | cons entry rest ih =>
    -- an entry that is no object, is not wanted, has no text or holds no JSON is passed over
    cases entry with
    | object members =>
      simp only [Catalog.entryValues, Trace.outcome_bind, Trace.outcome_liftFault, isWanted_codes,
        mapError_ok, ok_bind]
      by_cases hwants : feed.wants (Catalog.code? (.object members)) = true
      · have htext : feed.text? (.object members) = (Json.member members "value").asText? := by
          rw [text?, if_pos hwants]
        rw [if_pos hwants]
        cases hvalue : Json.member members "value" with
        | string t =>
          have ht : feed.text? (.object members) = some t := by rw [htext, hvalue]; rfl
          simp only
          cases hread : Json.read t with
          | ok v =>
            have hdecode : feed.decode (.object members) = .ok (some v) := by
              simp only [decode, ht, hread]
            rw [decodeAll_cons_of_some hdecode, ← ih (index + 1)]
            simp only [Trace.outcome_bind, Trace.outcome_pure, pure_eq_ok]
          | error failure =>
            cases failure with
            | malformed e =>
              rw [decodeAll_cons_of_none (by simp only [decode, ht, hread])]
              exact ih (index + 1)
            | _ =>
              refine Eq.symm (decodeAll_cons_of_error ?_ rest)
              simp only [decode, ht, hread]
        | _ =>
          have ht : feed.text? (.object members) = none := by rw [htext, hvalue]; rfl
          rw [decodeAll_cons_of_none (by rw [decode, ht])]
          exact ih (index + 1)
      · have ht : feed.text? (.object members) = none := by rw [text?, if_neg hwants]
        rw [if_neg hwants, decodeAll_cons_of_none (by rw [decode, ht])]
        exact ih (index + 1)
    | _ =>
      rw [decodeAll_cons_of_none rfl]
      exact ih (index + 1)

/-- A tag with a code is an object. -/
theorem exists_object_of_code? {tag : Json} {c : Text} (h : Catalog.code? tag = some c) :
    ∃ m ms, tag = .object (m :: ms) := by
  cases tag with
  | object members =>
    cases members with
    | nil => cases h
    | cons m ms => exact ⟨m, ms, rfl⟩
  | _ => cases h

theorem findTag?_eq (feed : CatalogFeed) (item : Members) :
    Catalog.findTag? item (some feed.tag)
      = (feed.tagIndex? item).bind fun j => Json.at? [.key "tags", .item j] (.object item) := by
  have hat : ∀ j, Json.at? [.key "tags", .item j] (.object item)
      = (Members.get? item (Text.ofString "tags")).bind (Json.at? [.item j]) := fun _ => rfl
  rw [Catalog.findTag?, tagIndex?, Json.member]
  simp only [hat]
  rcases Members.get? item (Text.ofString "tags") with _ | v
  · rfl
  · cases v with
    | array tags =>
      refine List.find?_eq_bind_findIdx?_getElem?.trans (congrArg _ (funext fun j => ?_))
      exact (Option.bind_fun_some _).symm
    | _ => rfl

theorem entries_eq (feed : CatalogFeed) (item : Members) :
    feed.entries item = (((Catalog.findTag? item (some feed.tag)).bind
      (Json.at? [.key "list"])).bind Json.asArray?).getD [] := by
  have hpath : ∀ j, Json.at? (listPath j) (.object item)
      = (Json.at? [.key "tags", .item j] (.object item)).bind (Json.at? [.key "list"]) :=
    fun j => Json.at?_append [.key "tags", .item j] [.key "list"] (.object item)
  rw [findTag?_eq, entries, funext hpath, ← Option.bind_assoc]

/-- The list of the first tag with the code is the one that is read. -/
theorem outcome_tagValues (feed : CatalogFeed) (item : Members) :
    (Catalog.tagValues (Catalog.findTag? item (some feed.tag)) feed.codes).outcome
      = feed.decodeAll (feed.entries item) := by
  rw [entries_eq]
  cases hfound : Catalog.findTag? item (some feed.tag) with
  | none => rfl
  | some tag =>
    have hcode : Catalog.code? tag = some feed.tag := by
      unfold Catalog.findTag? at hfound
      split at hfound
      · exact beq_iff_eq.mp (List.find?_some (p := fun tag => Catalog.code? tag == some feed.tag)
          hfound)
      · cases hfound
    obtain ⟨m, ms, rfl⟩ := exists_object_of_code? hcode
    have hat : Json.at? [.key "list"] (.object (m :: ms))
        = Members.get? (m :: ms) (Text.ofString "list") := Option.bind_fun_some _
    rw [Option.bind_some, hat]
    show (match Json.member (m :: ms) "list" with
      | .array entries => Catalog.entryValues _ feed.codes 0 entries
      | _ => pure []).outcome = _
    rw [Json.member]
    rcases Members.get? (m :: ms) (Text.ofString "list") with _ | v
    · rfl
    · cases v with
      | array entries => exact outcome_entryValues _ 0 entries
      | _ => rfl

/-! ### Whole feeds -/

/-- Whether a text has a value or is no document at all. -/
def Decodable (t : Text) : Prop :=
  ∀ failure, Json.read t = .error failure → ∃ e, failure = .malformed e

/-- An entry ends the parsing only by its text. -/
theorem decode_eq_ok_iff {entry : Json} {o : Option Json} :
    feed.decode entry = .ok o ↔
      (∀ t, feed.text? entry = some t → Decodable t) ∧ feed.decoded? entry = o := by
  rw [decode, decoded?]
  cases feed.text? entry with
  | none => simp
  | some t =>
    simp only [Option.some.injEq, forall_eq', Option.bind_some, Decodable]
    cases Json.read t with
    | ok v => simp [Except.toOption]
    | error failure => cases failure <;> simp [Except.toOption]

theorem exists_of_decode_eq_error {entry : Json} {e : Failure} (h : feed.decode entry = .error e) :
    ∃ t, feed.text? entry = some t ∧ ∃ failure, Json.read t = .error failure ∧ ¬ Decodable t ∧
      e = .fault failure.fault := by
  unfold decode at h
  split at h
  · cases h
  · rename_i t ht
    split at h
    · cases h
    · cases h
    · rename_i failure hmalformed hread
      cases h
      refine ⟨t, ht, failure, hread, fun hdecodable => ?_, rfl⟩
      obtain ⟨p, hp⟩ := hdecodable failure hread
      exact hmalformed p hp

/-- A list is read to its end iff each of its texts has a value or is no document. -/
theorem decodeAll_eq_ok_iff {entries vs : List Json} :
    feed.decodeAll entries = .ok vs ↔
      (∀ t ∈ entries.filterMap feed.text?, Decodable t) ∧
        entries.filterMap feed.decoded? = vs := by
  rw [decodeAll, map_eq_ok_iff]
  simp only [mapM_eq_ok_iff, decode_eq_ok_iff, List.forall₂_and_left,
    ← List.forall₂_map_left_iff (f := feed.decoded?), List.forall₂_eq_eq_eq]
  constructor
  · rintro ⟨os, ⟨htexts, rfl⟩, hvs⟩
    rw [List.filterMap_map] at hvs
    refine ⟨fun t ht => ?_, hvs⟩
    obtain ⟨entry, hentry, ht⟩ := List.mem_filterMap.mp ht
    exact htexts entry hentry t ht
  · rintro ⟨htexts, hvs⟩
    refine ⟨_, ⟨fun entry hentry t ht => ?_, rfl⟩, ?_⟩
    · exact htexts t (List.mem_filterMap.mpr ⟨entry, hentry, ht⟩)
    · rw [List.filterMap_map]
      exact hvs

/-- What ends it before is a text that is a document but cannot be held. -/
theorem exists_of_decodeAll_eq_error {entries : List Json} {e : Failure}
    (h : feed.decodeAll entries = .error e) :
    ∃ t ∈ entries.filterMap feed.text?, ∃ failure, Json.read t = .error failure ∧
      ¬ Decodable t ∧ e = .fault failure.fault := by
  obtain ⟨entry, hentry, herror⟩ := exists_of_mapM_eq_error (eq_error_of_map h)
  obtain ⟨t, ht, hread⟩ := exists_of_decode_eq_error herror
  exact ⟨t, List.mem_filterMap.mpr ⟨entry, hentry, ht⟩, hread⟩

theorem filter_keeps (feed : CatalogFeed) (entries : List Json) :
    (entries.filterMap feed.decoded?).filter feed.keeps = entries.filterMap feed.value? :=
  List.filter_filterMap

end CatalogFeed

/-! ### Answers -/

namespace Catalog

open CatalogFeed

theorem outcome_parse (response : Json) :
    (parse response).outcome = (do
      let i ← item response
      let fields ← CatalogFeed.form.decodeAll (CatalogFeed.form.entries i)
      let eligibility ← CatalogFeed.eligibility.decodeAll (CatalogFeed.eligibility.entries i)
      let documents ← CatalogFeed.documents.decodeAll (CatalogFeed.documents.entries i)
      return ⟨fields.filter CatalogFeed.form.keeps, eligibility, documents, i⟩) := by
  simp only [parse, Trace.outcome_bind, ← outcome_tagValues]
  rfl

/-- An answer is parsed iff the item is there and every text that is read has a value or is no
document. -/
theorem parse_eq_ok_iff {response : Json} {c : CatalogItem} :
    (parse response).outcome = .ok c ↔
      Json.at? itemPath response = some (.object c.raw) ∧ ∀ feed : CatalogFeed,
        (∀ t ∈ feed.texts c.raw, Decodable t) ∧
          feed.of c = (feed.entries c.raw).filterMap feed.value? := by
  rw [outcome_parse]
  simp only [bind_eq_ok_iff, item_eq_ok_iff, decodeAll_eq_ok_iff, pure_eq_ok, Except.ok.injEq]
  constructor
  · rintro ⟨i, hitem, _, ⟨hform, rfl⟩, _, ⟨heligibility, rfl⟩, _, ⟨hdocuments, rfl⟩, rfl⟩
    refine ⟨hitem, fun feed => ?_⟩
    rw [← filter_keeps]
    cases feed with
    | form => exact ⟨hform, rfl⟩
    | eligibility => exact ⟨heligibility, (List.filter_true _).symm⟩
    | documents => exact ⟨hdocuments, (List.filter_true _).symm⟩
  · rintro ⟨hitem, hfeeds⟩
    refine ⟨c.raw, hitem, _, ⟨(hfeeds .form).1, rfl⟩, _, ⟨(hfeeds .eligibility).1, rfl⟩, _,
      ⟨(hfeeds .documents).1, rfl⟩, ?_⟩
    -- two of the feeds keep every value
    have hform : c.fields = _ := (hfeeds .form).2.trans (filter_keeps _ _).symm
    have heligibility : c.eligibility = _ :=
      (hfeeds .eligibility).2.trans ((filter_keeps _ _).symm.trans (List.filter_true _))
    have hdocuments : c.documents = _ :=
      (hfeeds .documents).2.trans ((filter_keeps _ _).symm.trans (List.filter_true _))
    show CatalogItem.mk _ _ _ c.raw = CatalogItem.mk c.fields c.eligibility c.documents c.raw
    rw [hform, heligibility, hdocuments]

/-- Where the parsing ends otherwise, the item is missing or one of the texts cannot be held. -/
theorem exists_of_parse_eq_error {response : Json} {e : Failure}
    (h : (parse response).outcome = .error e) :
    ((∃ m, e = .catalogParse m) ∧ ∀ i, Json.at? itemPath response ≠ some (.object i)) ∨
      ∃ i, Json.at? itemPath response = some (.object i) ∧ ∃ feed : CatalogFeed,
        ∃ t ∈ feed.texts i, ∃ failure, Json.read t = .error failure ∧ ¬ Decodable t ∧
          e = .fault failure.fault := by
  rw [outcome_parse] at h
  rcases bind_eq_error_iff.mp h with h | ⟨i, hitem, h⟩
  · refine .inl ⟨item_refuses response e h, fun i hi => ?_⟩
    rw [item_eq_ok_iff.mpr hi] at h
    cases h
  · refine .inr ⟨i, item_eq_ok_iff.mp hitem, ?_⟩
    rcases bind_eq_error_iff.mp h with h | ⟨fields, -, h⟩
    · exact ⟨.form, exists_of_decodeAll_eq_error h⟩
    rcases bind_eq_error_iff.mp h with h | ⟨eligibility, -, h⟩
    · exact ⟨.eligibility, exists_of_decodeAll_eq_error h⟩
    rcases bind_eq_error_iff.mp h with h | ⟨documents, -, h⟩
    · exact ⟨.documents, exists_of_decodeAll_eq_error h⟩
    · cases h

end Catalog

/-! ### Answers without an entry -/

/-- A list without one of its items. -/
def Json.withoutItem (k : Nat) : Json → Json
  | .array items => .array (items.eraseIdx k)
  | v => v

/-- A tag is told by its descriptor, not by its list. -/
theorem Catalog.code?_alterAt_list (f : Json → Json) (tag : Json) :
    code? (Json.alterAt f [.key "list"] tag) = code? tag := by
  cases tag with
  | object members =>
    have hdescriptor : Json.member (Members.alter members (Text.ofString "list") f) "descriptor"
        = Json.member members "descriptor" := by
      rw [Json.member, Members.get?_alter_of_ne members (Text.ofString_injective.ne (by decide)) f,
        Json.member]
    show code? (.object (Members.alter members (Text.ofString "list") f)) = _
    rw [code?, hdescriptor, code?]
  | _ => rfl

theorem findIdx?_modify {α : Type} {p : α → Bool} {f : α → α} (h : ∀ x, p (f x) = p x)
    (xs : List α) (j : Nat) : (xs.modify j f).findIdx? p = xs.findIdx? p := by
  induction xs generalizing j with
  | nil => cases j <;> rfl
  | cons x xs ih =>
    cases j with
    | zero => rw [List.modify_zero_cons, List.findIdx?_cons, List.findIdx?_cons, h]
    | succ j => rw [List.modify_succ_cons, List.findIdx?_cons, List.findIdx?_cons, ih]

theorem filterMap_eraseIdx {α β : Type} {f : α → Option β} {xs : List α} {k : Nat}
    (h : xs[k]?.bind f = none) : (xs.eraseIdx k).filterMap f = xs.filterMap f := by
  induction xs generalizing k with
  | nil => rfl
  | cons x xs ih =>
    cases k with
    | zero =>
      have hx : f x = none := h
      rw [List.eraseIdx_zero, List.tail_cons, List.filterMap_cons_none hx]
    | succ k =>
      rw [List.eraseIdx_cons_succ, List.filterMap_cons, List.filterMap_cons, ih h]

namespace CatalogFeed

/-- The item without one entry of the list of one tag. -/
def itemWithout (j k : Nat) (item : Members) : Members :=
  Members.alter item (Text.ofString "tags")
    (Json.alterAt (Json.withoutItem k) [.item j, .key "list"])

variable (feed : CatalogFeed)

/-- The tags stay where they are. -/
theorem tagIndex?_itemWithout (j k : Nat) (item : Members) :
    feed.tagIndex? (itemWithout j k item) = feed.tagIndex? item := by
  rw [tagIndex?, itemWithout, Json.member, Members.get?_alter_self, tagIndex?, Json.member]
  rcases Members.get? item (Text.ofString "tags") with _ | v
  · rfl
  · cases v with
    | array tags =>
      exact findIdx?_modify (fun tag => congrArg (· == some feed.tag)
        (Catalog.code?_alterAt_list (Json.withoutItem k) tag)) tags j
    | _ => rfl

/-- The list of the tag loses the entry, any other list stays as it is. -/
theorem entries_itemWithout (j k : Nat) (item : Members) :
    feed.entries (itemWithout j k item)
      = if feed.tagIndex? item = some j then (feed.entries item).eraseIdx k
        else feed.entries item := by
  rw [entries, tagIndex?_itemWithout, entries]
  have hwithout : Json.object (itemWithout j k item)
      = Json.alterAt (Json.withoutItem k) (listPath j) (.object item) := rfl
  rw [hwithout]
  cases feed.tagIndex? item with
  | none => rfl
  | some i =>
    rw [Option.bind_some, Option.bind_some]
    by_cases hij : i = j
    · subst hij
      rw [if_pos rfl, Json.at?_alterAt]
      rcases Json.at? (listPath i) (.object item) with _ | v
      · rfl
      · cases v <;> rfl
    · have hne : PathStep.item j ≠ .item i := fun e => hij (PathStep.item.inj e).symm
      rw [if_neg fun e => hij (Option.some.inj e)]
      refine congrArg (fun o : Option Json => (o.bind Json.asArray?).getD []) ?_
      exact Json.at?_alterAt_of_ne _ hne [.key "tags"] [.key "list"] [.key "list"] (.object item)

end CatalogFeed

namespace Catalog

/-- The answer without one entry of the list of one tag of its item. -/
def without (j k : Nat) (response : Json) : Json :=
  Json.alterAt (Json.withoutItem k) (itemPath ++ CatalogFeed.listPath j) response

theorem at?_itemPath_without {response : Json} {i : Members}
    (h : Json.at? itemPath response = some (.object i)) (j k : Nat) :
    Json.at? itemPath (without j k response) = some (.object (CatalogFeed.itemWithout j k i)) := by
  rw [without, Json.alterAt_append, Json.at?_alterAt, h]
  rfl

/-- Taking out an entry that adds nothing leaves every feed as it is. -/
theorem parse_without {response : Json} {c : CatalogItem} (h : (parse response).outcome = .ok c)
    {j k : Nat} (hk : ∀ feed : CatalogFeed, feed.tagIndex? c.raw = some j →
      (feed.entries c.raw)[k]?.bind feed.value? = none) :
    (parse (without j k response)).outcome
      = .ok { c with raw := CatalogFeed.itemWithout j k c.raw } := by
  obtain ⟨hitem, hfeeds⟩ := parse_eq_ok_iff.mp h
  refine parse_eq_ok_iff.mpr ⟨at?_itemPath_without hitem j k, fun feed => ?_⟩
  obtain ⟨htexts, hof⟩ := hfeeds feed
  have hsame : feed.of { c with raw := CatalogFeed.itemWithout j k c.raw } = feed.of c := by
    cases feed <;> rfl
  rw [hsame, hof, CatalogFeed.texts, CatalogFeed.entries_itemWithout]
  by_cases hj : feed.tagIndex? c.raw = some j
  · rw [if_pos hj, filterMap_eraseIdx (hk feed hj)]
    refine ⟨fun t ht => htexts t ?_, rfl⟩
    exact ((List.eraseIdx_sublist _ k).filterMap feed.text?).mem ht
  · rw [if_neg hj]
    exact ⟨htexts, rfl⟩

/-- How an answer is parsed. -/
structure Parses (response : Json) : Prop where
  /-- It is refused iff the path of the item leads to no object. -/
  refused : (∃ m, (parse response).outcome = .error (.catalogParse m)) ↔
    ∀ i, Json.at? itemPath response ≠ some (.object i)
  /-- Any other failure is that of a text which can neither be read nor be passed over. -/
  failed : ∀ e, (parse response).outcome = .error e → (∃ m, e = .catalogParse m) ∨
    ∃ i, Json.at? itemPath response = some (.object i) ∧ ∃ feed : CatalogFeed,
      ∃ t ∈ feed.texts i, ∃ failure, Json.read t = .error failure ∧ ¬ CatalogFeed.Decodable t ∧
        e = .fault failure.fault
  /-- What is parsed is the item at the end of the path and, in the order of the lists, the values
  that the entries of each feed add; the rules are those of two feeds. -/
  parsed : ∀ c, (parse response).outcome = .ok c →
    Json.at? itemPath response = some (.object c.raw) ∧
      (∀ feed : CatalogFeed, feed.of c = (feed.entries c.raw).filterMap feed.value?) ∧
      c.rules = c.eligibility ++ c.documents
  /-- An entry that adds nothing to a feed of its tag may be taken out of the answer. -/
  others : ∀ c, (parse response).outcome = .ok c → ∀ j k,
    (∀ feed : CatalogFeed, feed.tagIndex? c.raw = some j →
      (feed.entries c.raw)[k]?.bind feed.value? = none) →
    ∃ c', (parse (without j k response)).outcome = .ok c' ∧
      (∀ feed : CatalogFeed, feed.of c' = feed.of c) ∧ c'.rules = c.rules

/-- Every answer is parsed unless its item is missing or a text cannot be held, and what is parsed
is what single entries add. -/
theorem parse_local (response : Json) : Parses response where
  refused := by
    constructor
    · rintro ⟨m, h⟩
      rcases exists_of_parse_eq_error h with ⟨-, hmissing⟩ | ⟨-, -, -, -, -, failure, -, -, hfault⟩
      · exact hmissing
      · cases hfault
    · intro hmissing
      cases hparse : (parse response).outcome with
      | ok c => exact absurd (parse_eq_ok_iff.mp hparse).1 (hmissing c.raw)
      | error e =>
        rcases exists_of_parse_eq_error hparse with ⟨⟨m, rfl⟩, -⟩ | ⟨i, hitem, -⟩
        · exact ⟨m, rfl⟩
        · exact absurd hitem (hmissing i)
  failed e h := (exists_of_parse_eq_error h).imp_left And.left
  parsed c h := by
    obtain ⟨hitem, hfeeds⟩ := parse_eq_ok_iff.mp h
    exact ⟨hitem, fun feed => (hfeeds feed).2, rfl⟩
  others c h j k hk := by
    refine ⟨_, parse_without h hk, fun feed => ?_, rfl⟩
    cases feed <;> rfl

end Catalog

end BenefitForm
