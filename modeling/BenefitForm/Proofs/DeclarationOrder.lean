import BenefitForm.Proofs.EqualObject
import BenefitForm.Proofs.PropertyViolations
import BenefitForm.Proofs.ReportLimit
import BenefitForm.Proofs.WellFormed

/-!
# Reports and the order of declaration

Two forms with the same properties and the same required names, declared in any
orders, find the same about filled values, in some other order. The reports are
sorted, by a key that is not what is written: the place of the whole data is the empty
text there, and a field may have the empty text for its name. Reports with one key are
nevertheless the same report, for a required name that is missing is told in words that
no message about a value ends in. So nothing is left of the order of declaration.

- `FormFinding.report_eq`: reports of a form with one key are the same.
- `sortedReports_reordered`, `validate_reordered`: forms that differ in order.
-/

namespace BenefitForm

open Json

/-! ### How messages end -/

/-- A quoted text ends in its quote. -/
theorem Text.quoted_ending (t : Text) :
    Text.ofString "'" <:+ t.quoted ∨ Text.ofString "\"" <:+ t.quoted := by
  rw [Text.quoted]
  split
  · exact .inr (List.suffix_append _ _)
  · exact .inl (List.suffix_append _ _)

/-- The ends of messages about the value of a property. -/
def valueEndings : List String := ["'", "\"", "]", "ort", "ong", "pty"]

/-- A message about the value of a property has one of these ends. -/
theorem FormProperty.exists_ending {p : FormProperty} {v : Json} {violation : Violation}
    (h : violation ∈ p.violations v) {message : Text} (hmessage : violation.message = .ok message) :
    ∃ ending ∈ valueEndings, Text.ofString ending <:+ message := by
  have hquoted : ∀ start t : Text, ∃ ending ∈ valueEndings,
      Text.ofString ending <:+ start ++ t.quoted := by
    intro start t
    rcases t.quoted_ending with hending | hending
    · exact ⟨_, by decide, hending.trans (List.suffix_append _ _)⟩
    · exact ⟨_, by decide, hending.trans (List.suffix_append _ _)⟩
  have hwords : ∀ (start : Text) {words : String} (ending : String), ending ∈ valueEndings →
      Text.ofString ending <:+ Text.ofString words → ∃ ending ∈ valueEndings,
        Text.ofString ending <:+ start ++ Text.ofString words :=
    fun start _ _ hmem hsuffix => ⟨_, hmem, hsuffix.trans (List.suffix_append _ _)⟩
  -- messages end with a quoted text, with one of a few words or with a list
  rcases violation_cases h with ⟨-, rfl⟩ | ⟨t, pattern, rfl⟩ | ⟨t, least, rfl⟩ |
    ⟨t, most, rfl⟩ | ⟨ts, rfl⟩
  · obtain ⟨shown, -, hmessage⟩ := bind_eq_ok_iff.mp hmessage
    cases hmessage
    exact hquoted _ _
  · cases hmessage
    exact hquoted _ _
  · cases hmessage
    rw [Violation.shortness]
    split
    · exact hwords t.quoted "pty" (by decide) (by decide)
    · exact hwords t.quoted "ort" (by decide) (by decide)
  · cases hmessage
    rw [Violation.length]
    split
    · exact hwords t.quoted "pty" (by decide) (by decide)
    · exact hwords t.quoted "ong" (by decide) (by decide)
  · obtain ⟨shown, -, hmessage⟩ := bind_eq_ok_iff.mp hmessage
    obtain ⟨others, hothers, hmessage⟩ := bind_eq_ok_iff.mp hmessage
    obtain ⟨items, -, hothers⟩ := bind_eq_ok_iff.mp hothers
    cases hothers
    cases hmessage
    exact ⟨"]", by decide, (List.suffix_append _ _).trans (List.suffix_append _ _)⟩

/-- The message about a required name has none of these ends. -/
theorem not_ending_missing (name : Text) {ending : String} (h : ending ∈ valueEndings) :
    ¬ Text.ofString ending <:+ name.quoted ++ Text.ofString " is a required property" := by
  intro hsuffix
  have hown : Text.ofString "rty" <:+ name.quoted ++ Text.ofString " is a required property" :=
    List.IsSuffix.trans (by decide) (List.suffix_append _ _)
  have hshort : ∀ ending ∈ valueEndings, (Text.ofString ending).length ≤ 3 := by decide
  have hnone : ∀ ending ∈ valueEndings, ¬ Text.ofString ending <:+ Text.ofString "rty" := by decide
  exact hnone ending h (List.suffix_of_suffix_length_le hsuffix hown (hshort ending h))

/-! ### Reports of a form -/

/-- What a form finds: a required name that is missing, at the whole data, or something about the
value of a property, at its name. -/
inductive FormFinding : Finding → Prop
  | missing (name : Text) : FormFinding ⟨[], .missing name⟩
  | value (name : Text) {p : FormProperty} {v : Json} {violation : Violation}
    (h : violation ∈ p.violations v) : FormFinding ⟨[name], violation⟩

namespace FormFinding

/-- The words of a missing name are no words about a value. -/
theorem missing_ne_value {p : FormProperty} {v : Json} {violation : Violation}
    (h : violation ∈ p.violations v) {name message : Text}
    (hmissing : (Violation.missing name).message = .ok message) :
    violation.message ≠ .ok message := by
  intro hvalue
  obtain ⟨ending, hending, hsuffix⟩ := FormProperty.exists_ending h hvalue
  cases hmissing
  exact not_ending_missing name hending hsuffix

/-- Reports of a form with one place and one message are the same. -/
theorem report_eq {f g : Finding} (hf : FormFinding f) (hg : FormFinding g) {a b : Report}
    (ha : Report.ofFinding f = .ok a) (hb : Report.ofFinding g = .ok b)
    (hplace : a.place = b.place) (hmessage : a.message = b.message) : a = b := by
  obtain ⟨m, hm, ha⟩ := bind_eq_ok_iff.mp ha
  obtain ⟨n, hn, hb⟩ := bind_eq_ok_iff.mp hb
  cases ha
  cases hb
  obtain rfl : m = n := hmessage
  cases hf with
  | missing name =>
    cases hg with
    | missing name' => rfl
    | value name' h => exact absurd hn (missing_ne_value h hm)
  | value name h =>
    cases hg with
    | missing name' => exact absurd hm (missing_ne_value h hn)
    | value name' h' =>
      -- the place of one step is that step
      obtain rfl : name = name' := hplace
      rfl

end FormFinding

/-- The findings about the property of a name. -/
def findingsOf (schemas : Members) (entries : Entries) (name : Text) : List Finding :=
  (Members.get? schemas name).toList.flatMap fun schema =>
    (Members.get? entries (.text name)).toList.flatMap fun v => findingsAt schema name v

theorem propertyFindings_eq_flatMap_schemas (schemas : Members) (entries : Entries) :
    propertyFindings schemas entries = schemas.flatMap fun m =>
      (Members.get? entries (.text m.1)).toList.flatMap fun v => findingsAt m.2 m.1 v := by
  induction schemas with
  | nil => rfl
  | cons m schemas ih =>
    rw [propertyFindings, List.flatMap_cons, ih]
    cases Members.get? entries (.text m.1) <;> simp

/-- Where no name comes twice, the findings about properties are those of the names. -/
theorem propertyFindings_eq_flatMap {schemas : Members} (hn : (Members.keys schemas).Nodup)
    (entries : Entries) :
    propertyFindings schemas entries
      = (Members.keys schemas).flatMap (findingsOf schemas entries) := by
  rw [propertyFindings_eq_flatMap_schemas, Members.keys, List.flatMap_map]
  refine List.flatMap_congr fun m hm => ?_
  rw [findingsOf, Members.get?_of_mem hn hm, Option.toList_some, List.flatMap_cons,
    List.flatMap_nil, List.append_nil]

/-! ### Forms with the same properties -/

namespace FormProperty

/-- The keys of slots that are set are among the names of the slots, in order. -/
theorem keys_ofSlots_sublist (slots : List (String × Option Json)) :
    (Members.keys (ofSlots slots)).Sublist (slots.map fun s => Text.ofString s.1) := by
  induction slots with
  | nil => exact .slnil
  | cons slot slots ih =>
    obtain ⟨name, value?⟩ := slot
    cases value? with
    | none => exact ih.cons _
    | some v => exact ih.cons_cons _

/-- A property has each member once. -/
theorem nodup_keys_formMembers (p : FormProperty) : (Members.keys p.formMembers).Nodup := by
  have hnames : (p.formSlots.map Prod.fst).Nodup :=
    (List.filter_sublist.map Prod.fst).nodup p.slotNames_nodup
  rw [formMembers_eq_ofSlots]
  refine (keys_ofSlots_sublist p.formSlots).nodup ?_
  have hmap := hnames.map Text.ofString_injective
  rwa [List.map_map] at hmap

/-- Properties that are written as equal objects allow the same. -/
theorem violations_eq_of_equal {p q : FormProperty}
    (h : equalBy false (.object p.formMembers) (.object q.formMembers) = true) (v : Json) :
    p.violations v = q.violations v := by
  have hslot : ∀ key ≠ "required", Option.Rel (fun v w => equalBy false v w = true)
      (p.slots.lookup key).join (q.slots.lookup key).join := by
    intro key hkey
    rw [← p.get?_formMembers hkey, ← q.get?_formMembers hkey]
    exact rel_get?_of_equal p.nodup_keys_formMembers h (Text.ofString key)
  have htype : some p.type = some q.type :=
    eq_of_rel_map (f := Json.string) eq_of_equal_string (hslot "type" (by decide))
  have hpattern : p.pattern? = q.pattern? :=
    eq_of_rel_map eq_of_equal_string (hslot "pattern" (by decide))
  have hleast : p.minLength? = q.minLength? :=
    eq_of_rel_map eq_of_equal_int (hslot "minLength" (by decide))
  have hmost : p.maxLength? = q.maxLength? :=
    eq_of_rel_map eq_of_equal_int (hslot "maxLength" (by decide))
  have hvalues : p.values? = q.values? :=
    eq_of_rel_map eq_of_equal_ofTexts (hslot "enum" (by decide))
  rw [violations, violations, Option.some.inj htype, hpattern, hleast, hmost, hvalues]

end FormProperty

namespace Compiled

variable {settings : Settings} {fields : FieldInput} {feed : Json} {wallet : Wallet.Input}
  {form : FormSchema} {rules : NormalizedRules} {documents : List WalletDocument}
  {plans : List DocumentPlan}
  (h : Compiled settings fields feed wallet form rules documents plans)

include h

/-- The schema of a name in a form is a property. -/
theorem exists_property {name : Text} {schema : Json}
    (hschema : Members.get? form.properties name = some schema) :
    ∃ p : FormProperty, schema = .object p.formMembers := by
  obtain ⟨p, -, hmember⟩ := h.mem_properties_iff.mp (Members.mem_of_get? hschema)
  exact ⟨p, (congrArg Prod.snd hmember).symm⟩

/-- What a form finds is a required name that is missing, or something about the value of a
property. -/
theorem finding_cases {s : Subject} {entries : Entries} (hs : s.entries? = some entries)
    {f : Finding} (hf : f ∈ form.schema.findings s) :
    (∃ name, f = ⟨[], .missing name⟩) ∨
      ∃ p ∈ formProperties settings fields.read.fields documents plans,
        ∃ v, Members.get? entries (.text p.name) = some v ∧
          ∃ violation ∈ p.violations v, f = ⟨[p.name], violation⟩ := by
  rw [findings_schema form hs, violations_required hs, List.mem_append] at hf
  rcases hf with hmissing | hvalue
  · obtain ⟨violation, hviolation, rfl⟩ := List.mem_map.mp hmissing
    obtain ⟨name, -, hname⟩ := List.mem_filterMap.mp hviolation
    split at hname
    · cases hname
    · cases hname
      exact .inl ⟨name, rfl⟩
  · rw [propertyFindings_eq_flatMap h.nodup_keys] at hvalue
    obtain ⟨name, -, hvalue⟩ := List.mem_flatMap.mp hvalue
    obtain ⟨schema, hschema, hvalue⟩ := List.mem_flatMap.mp hvalue
    obtain ⟨v, hv, hvalue⟩ := List.mem_flatMap.mp hvalue
    obtain ⟨p, hp, hmember⟩ := h.mem_properties_iff.mp
      (Members.mem_of_get? (Option.mem_toList.mp hschema))
    cases hmember
    rw [FormProperty.findingsAt_formMembers] at hvalue
    obtain ⟨violation, hviolation, rfl⟩ := List.mem_map.mp hvalue
    exact .inr ⟨p, hp, v, Option.mem_toList.mp hv, violation, hviolation, rfl⟩

/-- Every finding of a form is about a missing name or about the value of a property. -/
theorem formFinding {s : Subject} {entries : Entries} (hs : s.entries? = some entries) :
    ∀ f ∈ form.schema.findings s, FormFinding f := by
  intro f hf
  rcases h.finding_cases hs hf with ⟨name, rfl⟩ | ⟨p, -, v, -, violation, hviolation, rfl⟩
  · exact .missing name
  · exact .value p.name hviolation

end Compiled

section Reordered

variable {settings settings' : Settings} {fields fields' : FieldInput} {feed feed' : Json}
  {wallet wallet' : Wallet.Input} {form form' : FormSchema} {rules rules' : NormalizedRules}
  {documents documents' : List WalletDocument} {plans plans' : List DocumentPlan}
  (h : Compiled settings fields feed wallet form rules documents plans)
  (h' : Compiled settings' fields' feed' wallet' form' rules' documents' plans')
  (hproperties : (Json.object form.properties == .object form'.properties) = true)
  (hrequired : ∀ name, name ∈ form.required ↔ name ∈ form'.required)
  {s : Subject} {entries : Entries} (hs : s.entries? = some entries)

include h h' hproperties

/-- Under each name forms with the same properties find the same. -/
theorem findingsOf_reordered (name : Text) :
    findingsOf form.properties entries name = findingsOf form'.properties entries name := by
  have hrel : Option.Rel (fun v w => equalBy false v w = true)
      (Members.get? form.properties name) (Members.get? form'.properties name) :=
    rel_get?_of_equal h.nodup_keys hproperties name
  rw [findingsOf, findingsOf]
  cases hschema : Members.get? form.properties name with
  | none =>
    rw [hschema] at hrel
    cases hschema' : Members.get? form'.properties name with
    | none => rfl
    | some schema' =>
      rw [hschema'] at hrel
      cases hrel
  | some schema =>
    rw [hschema] at hrel
    cases hschema' : Members.get? form'.properties name with
    | none =>
      rw [hschema'] at hrel
      cases hrel
    | some schema' =>
      rw [hschema'] at hrel
      obtain ⟨p, rfl⟩ := h.exists_property hschema
      obtain ⟨q, rfl⟩ := h'.exists_property hschema'
      cases hrel with
      | some hequal =>
        simp only [Option.toList_some, List.flatMap_cons, List.flatMap_nil, List.append_nil,
          FormProperty.findingsAt_formMembers, FormProperty.violations_eq_of_equal hequal]

include hrequired hs

/-- Forms with the same properties and required names find the same, in some order. -/
theorem findings_reordered : (form.schema.findings s).Perm (form'.schema.findings s) := by
  have hnames : form.required.Perm form'.required :=
    (List.perm_ext_iff_of_nodup h.nodup_required h'.nodup_required).mpr hrequired
  have hkeys : (Members.keys form.properties).Perm (Members.keys form'.properties) :=
    perm_keys_of_equal h.nodup_keys (show equalBy false _ _ = true from hproperties)
  rw [findings_schema form hs, findings_schema form' hs, violations_required hs,
    violations_required hs, propertyFindings_eq_flatMap h.nodup_keys,
    propertyFindings_eq_flatMap h'.nodup_keys]
  refine ((hnames.filterMap _).map _).append ?_
  rw [List.flatMap_congr fun name _ => findingsOf_reordered h h' hproperties name]
  exact hkeys.flatMap_right _

/-- So the sorted reports of the two are the same list. -/
theorem sortedReports_reordered :
    sortedReports form.schema s = sortedReports form'.schema s := by
  have halike := EndsAlike.mapM_perm (f := Report.ofFinding)
    (fun _ _ => Report.ofFinding_eq_error)
    (findings_reordered h h' hproperties hrequired hs)
  rw [sortedReports, sortedReports]
  cases hreports : (form.schema.findings s).mapM Report.ofFinding with
  | error e =>
    rw [hreports] at halike
    cases hreports' : (form'.schema.findings s).mapM Report.ofFinding with
    | error e' =>
      rw [hreports'] at halike
      cases halike
      rfl
    | ok reports' =>
      rw [hreports'] at halike
      cases halike
  | ok reports =>
    rw [hreports] at halike
    cases hreports' : (form'.schema.findings s).mapM Report.ofFinding with
    | error e' =>
      rw [hreports'] at halike
      cases halike
    | ok reports' =>
      rw [hreports'] at halike
      cases halike with
      | ok hperm =>
        have hsorted : (reports.mergeSort Report.le).Perm (reports'.mergeSort Report.le) :=
          (List.mergeSort_perm reports _).trans
            (hperm.trans (List.mergeSort_perm reports' _).symm)
        refine congrArg Except.ok (hsorted.eq_of_pairwise ?_ (Report.pairwise_mergeSort reports)
          (Report.pairwise_mergeSort reports'))
        -- two reports with one key are the same, so there is one sorted order
        intro a b ha hb hab hba
        obtain ⟨f, hf, hfa⟩ := exists_of_mem_right (mapM_eq_ok_iff.mp hreports)
          (List.mem_mergeSort.mp ha)
        obtain ⟨g, hg, hgb⟩ := exists_of_mem_right (mapM_eq_ok_iff.mp hreports')
          (List.mem_mergeSort.mp hb)
        obtain ⟨hplace, hmessage⟩ := Report.eq_of_le_of_le hab hba
        exact (h.formFinding hs f hf).report_eq (h'.formFinding hs g hg) hfa hgb hplace hmessage

end Reordered

/-- Validation does not depend on the order in which a form was declared. Two compiled forms with
equal properties under the same names and with the same required names, whatever they were compiled
from, give the same list for all filled values and all limits: the same reports in the same order,
cut off at the same place, or the same failure. -/
theorem validate_reordered {settings settings' : Settings} {fields fields' : FieldInput}
    {feed feed' : Json} {wallet wallet' : Wallet.Input} {title title' : Text}
    {benefitId benefitId' : Json} {form form' : FormSchema}
    (hform : (compileForm settings fields feed wallet (.string title) benefitId).outcome
      = .ok form)
    (hform' : (compileForm settings' fields' feed' wallet' (.string title') benefitId').outcome
      = .ok form')
    (hproperties : (Json.object form.properties == .object form'.properties) = true)
    (hrequired : ∀ name, name ∈ form.required ↔ name ∈ form'.required)
    (current : Settings) (data limit : Json) :
    validate current (.form form) data limit = validate current (.form form') data limit := by
  obtain ⟨rules, documents, plans, hc⟩ := compileForm_ok hform
  obtain ⟨rules', documents', plans', hc'⟩ := compileForm_ok hform'
  have hwhole : problemsOf form.schema = .ok [] :=
    hc.problemsOf_schema_iff.mpr ⟨title, title_of_compileForm hform⟩
  have hwhole' : problemsOf form'.schema = .ok [] :=
    hc'.problemsOf_schema_iff.mpr ⟨title', title_of_compileForm hform'⟩
  have hreports : ∀ entries : Entries, sortedReports form.schema (.ofEntries entries)
      = sortedReports form'.schema (.ofEntries entries) := fun entries =>
    sortedReports_reordered hc hc' hproperties hrequired (Subject.entries?_ofEntries entries)
  rw [validate_eq current rfl hwhole, validate_eq current rfl hwhole']
  simp only [hreports]

/-- Two required fields, the second with a pattern. -/
def pincodeLast : List DeclaredField :=
  [{ name := Text.ofString "a", required := true },
    { name := Text.ofString "pincode", required := true }]

/-- The same fields in the opposite order require the same names in the opposite order, and report
the same. -/
theorem validate_reordered_of_reverse :
    ∃ form form', (compileForm .standard (.flat (pincodeLast.map .declared)) .null
        (.documents []) (.string []) .null).outcome = .ok form ∧
      (compileForm .standard (.flat (pincodeLast.reverse.map .declared)) .null
        (.documents []) (.string []) .null).outcome = .ok form' ∧
      form.required = ["a", "pincode"].map Text.ofString ∧
      form'.required = ["pincode", "a"].map Text.ofString ∧
      ∀ (current : Settings) (data limit : Json),
        validate current (.form form) data limit = validate current (.form form') data limit := by
  have hany : ((compileForm .standard (.flat (pincodeLast.map .declared)) .null
      (.documents []) (.string []) .null).outcome.toOption.any fun form =>
        (compileForm .standard (.flat (pincodeLast.reverse.map .declared)) .null
          (.documents []) (.string []) .null).outcome.toOption.any fun form' =>
          (Json.object form.properties == .object form'.properties) &&
          (form.required = ["a", "pincode"].map Text.ofString &&
            form'.required = ["pincode", "a"].map Text.ofString)) = true := by
    decide +kernel
  obtain ⟨form, hform, hany⟩ := exists_ok_of_any hany
  obtain ⟨form', hform', hany⟩ := exists_ok_of_any hany
  simp only [Bool.and_eq_true, decide_eq_true_eq] at hany
  obtain ⟨hproperties, hnames, hnames'⟩ := hany
  have hrequired : ∀ name, name ∈ form.required ↔ name ∈ form'.required := by
    intro name
    rw [hnames, hnames']
    simp only [List.map_cons, List.map_nil, List.mem_cons, List.not_mem_nil, or_false]
    exact or_comm
  exact ⟨form, form', hform, hform', hnames, hnames',
    validate_reordered hform hform' hproperties hrequired⟩

end BenefitForm
