import BenefitForm.Proofs.PropertyViolations
import BenefitForm.Proofs.ReportLimit
import BenefitForm.Proofs.WellFormed
import BenefitForm.Proofs.WholeLine

/-!
# The values of well-known fields

The title of a well-known field says what its values look like: so many digits, so many
capitals. Its pattern and its lengths are meant to allow these values and no others.
They allow more. The pattern stops at the last line end, so a value may have a line feed
after it, and the length of a bank account number counts it; and the pattern of a phone
number means decimal digits of every script. Among texts of ASCII without line feeds the
values that are allowed are those that are described.

- `ValueFormat.Documented`, `ValueFormat.Accepted`: the values of a format as it is
  described, and as they are allowed.
- `ValueFormat.documented_iff`: what the two differ in.
- `FieldTemplate.Describes`: that a template allows the values of a format.
- `values_accepted`: the values that the form of a single field allows.
- `values_misread`: values that are allowed and have not the format.
-/

namespace BenefitForm

open Stretch

/-! ### Kinds of code points -/

namespace CodePoint

/-- A decimal digit of any script. -/
def isDecimalDigit (c : CodePoint) : Bool := c.digit?.isSome

/-- ASCII, and no line feed. -/
def isPlain (c : CodePoint) : Bool := c.val < 0x80 && c.val ≠ 0x0A

/-- Capitals and digits of ASCII. -/
def isAsciiUpperOrDigit (c : CodePoint) : Bool := c.isAsciiUpper || c.isAsciiDigit

/-- The first digit of a mobile number. -/
def leadsMobile (c : CodePoint) : Bool := 0x36 ≤ c.val && c.val ≤ 0x39

/-- The decimal digits among plain code points are those of ASCII. -/
theorem isAsciiDigit_eq (c : CodePoint) : c.isAsciiDigit = (c.isDecimalDigit && c.isPlain) := by
  have htable : ∀ n (h : n < 0x80), (⟨n, by omega⟩ : CodePoint).isAsciiDigit
      = ((⟨n, by omega⟩ : CodePoint).isDecimalDigit && (⟨n, by omega⟩ : CodePoint).isPlain) := by
    decide +kernel
  by_cases hascii : c.val < 0x80
  · exact htable c.val hascii
  · have hplain : c.isPlain = false := by simp [isPlain, hascii]
    rw [hplain, Bool.and_false, isAsciiDigit]
    simp only [Bool.and_eq_false_iff, decide_eq_false_iff_not]
    omega

end CodePoint

/-! ### Formats -/

/-- What the values of a field look like. -/
structure ValueFormat where
  /-- The stretches of a value, where it is given which code points are digits. -/
  row : (CodePoint → Bool) → List Stretch
  /-- The least length of a value, where there is one besides those of the stretches. -/
  least? : Option Nat := none
  /-- The greatest length of a value, where there is one besides those of the stretches. -/
  most? : Option Nat := none

namespace ValueFormat

/-- Whether a value has a length of the format. -/
def HasLength (f : ValueFormat) (v : Text) : Prop :=
  (∀ n ∈ f.least?, n ≤ v.length) ∧ ∀ n ∈ f.most?, v.length ≤ n

/-- Whether a value has the format: the digits are those of ASCII. -/
def Documented (f : ValueFormat) (v : Text) : Prop :=
  Row (f.row CodePoint.isAsciiDigit) v ∧ f.HasLength v

/-- Whether a value is allowed: the digits are those of all scripts and a line feed may follow. -/
def Accepted (f : ValueFormat) (v : Text) : Prop :=
  (∃ w, Row (f.row CodePoint.isDecimalDigit) w ∧ (v = w ∨ v = w ++ [lineFeed])) ∧ f.HasLength v

/-- 9 to 18 digits. -/
def bankAccount : ValueFormat where
  row _ := [⟨CodePoint.isAsciiDigit, 1, none⟩]
  least? := some 9
  most? := some 18

/-- Four capitals, a zero and six capitals or digits. -/
def bankBranch : ValueFormat where
  row _ := [times 4 CodePoint.isAsciiUpper, only '0', times 6 CodePoint.isAsciiUpperOrDigit]

/-- The country code, a digit from 6 on and nine digits. -/
def phone : ValueFormat where
  row digit := [only '+', only '9', only '1', times 1 CodePoint.leadsMobile, times 9 digit]

/-- Five capitals, four digits and a capital. -/
def taxNumber : ValueFormat where
  row _ := [times 5 CodePoint.isAsciiUpper, times 4 CodePoint.isAsciiDigit,
    times 1 CodePoint.isAsciiUpper]

/-- Twelve digits. -/
def identityNumber : ValueFormat where
  row _ := [times 12 CodePoint.isAsciiDigit]

/-- Six digits. -/
def postalCode : ValueFormat where
  row _ := [times 6 CodePoint.isAsciiDigit]

/-- The well-known names whose values have a format. -/
def table : List (String × ValueFormat) :=
  [("bankAccountNumber", bankAccount), ("bankIfscCode", bankBranch), ("phone", phone),
    ("mobileNumber", phone), ("panCard", taxNumber), ("aadharCard", identityNumber),
    ("uidai", identityNumber), ("pincode", postalCode), ("postalCode", postalCode)]

end ValueFormat

/-! ### What is described and what is allowed -/

namespace Stretch

/-- Whether a stretch is another one, restricted to plain code points. -/
structure Narrows (s s' : Stretch) : Prop where
  kind : ∀ c, s.kind c = (s'.kind c && c.isPlain)
  least : s.least = s'.least
  most : s.most? = s'.most?

theorem Narrows.times {n : Nat} {kind kind' : CodePoint → Bool}
    (h : ∀ c, kind c = (kind' c && c.isPlain)) : (times n kind).Narrows (times n kind') :=
  ⟨h, rfl, rfl⟩

/-- A stretch of plain code points is the same when it is restricted to these. -/
theorem Narrows.of_plain {s : Stretch} (h : ∀ c, s.kind c = true → c.isPlain = true) :
    s.Narrows s where
  kind c := by
    cases hkind : s.kind c with
    | true => rw [h c hkind, Bool.and_true]
    | false => rw [Bool.false_and]
  least := rfl
  most := rfl

theorem Narrows.only {c : Char} (h : (CodePoint.ofChar c).isPlain = true) :
    (only c).Narrows (only c) :=
  .of_plain fun x hx => by
    rw [beq_iff_eq.mp hx]
    exact h

/-- A text is a restricted stretch iff it is the stretch and plain. -/
theorem Narrows.fits_iff {s s' : Stretch} (h : s.Narrows s') {w : Text} :
    s.Fits w ↔ s'.Fits w ∧ ∀ x ∈ w, x.isPlain = true := by
  rw [Fits, Fits, h.least, h.most]
  simp only [h.kind, Bool.and_eq_true, forall₂_and]
  tauto

/-- A text is a row of restricted stretches iff it is the row of the stretches and plain. -/
theorem row_iff_of_narrows {row row' : List Stretch} (h : List.Forall₂ Narrows row row')
    {t : Text} : Row row t ↔ Row row' t ∧ ∀ x ∈ t, x.isPlain = true := by
  -- the text is cut at the same places for both rows
  induction h generalizing t with
  | nil =>
    constructor
    · rintro rfl
      exact ⟨rfl, nofun⟩
    · exact fun h => h.1
  | cons hfirst _ ih =>
    constructor
    · rintro ⟨u, v, rfl, hu, hv⟩
      obtain ⟨hu, hplain⟩ := hfirst.fits_iff.mp hu
      obtain ⟨hv, hrest⟩ := ih.mp hv
      exact ⟨⟨u, v, rfl, hu, hv⟩, List.forall_mem_append.mpr ⟨hplain, hrest⟩⟩
    · rintro ⟨⟨u, v, rfl, hu, hv⟩, hplain⟩
      obtain ⟨hplain, hrest⟩ := List.forall_mem_append.mp hplain
      exact ⟨u, v, rfl, hfirst.fits_iff.mpr ⟨hu, hplain⟩, ih.mpr ⟨hv, hrest⟩⟩

end Stretch

namespace CodePoint

/-- Code points between two that come after the line feed and belong to ASCII are plain. -/
theorem isPlain_of_between {c : CodePoint} (low high : Nat) (hlow : 0x0A < low)
    (hhigh : high < 0x80) (h : (low ≤ c.val && c.val ≤ high) = true) : c.isPlain = true := by
  rw [Bool.and_eq_true, decide_eq_true_iff, decide_eq_true_iff] at h
  rw [isPlain, Bool.and_eq_true, decide_eq_true_iff, decide_eq_true_iff]
  omega

theorem isPlain_of_isAsciiDigit (c : CodePoint) (h : c.isAsciiDigit = true) : c.isPlain = true :=
  isPlain_of_between 0x30 0x39 (by decide) (by decide) h

theorem isPlain_of_isAsciiUpper (c : CodePoint) (h : c.isAsciiUpper = true) : c.isPlain = true :=
  isPlain_of_between 0x41 0x5A (by decide) (by decide) h

theorem isPlain_of_isAsciiUpperOrDigit (c : CodePoint) (h : c.isAsciiUpperOrDigit = true) :
    c.isPlain = true :=
  (Bool.or_eq_true_iff.mp h).elim (isPlain_of_isAsciiUpper c) (isPlain_of_isAsciiDigit c)

theorem isPlain_of_leadsMobile (c : CodePoint) (h : c.leadsMobile = true) : c.isPlain = true :=
  isPlain_of_between 0x36 0x39 (by decide) (by decide) h

end CodePoint

namespace ValueFormat

open CodePoint

/-- In every format the digits of ASCII are what is plain of the digits of all scripts, and the
other kinds are plain. -/
theorem narrows_of_mem_table {entry : String × ValueFormat} (h : entry ∈ table) :
    List.Forall₂ Narrows (entry.2.row isAsciiDigit) (entry.2.row isDecimalDigit) := by
  have hdigits : ∀ n, (times n isAsciiDigit).Narrows (times n isAsciiDigit) :=
    fun _ => .of_plain isPlain_of_isAsciiDigit
  have hcapitals : ∀ n, (times n isAsciiUpper).Narrows (times n isAsciiUpper) :=
    fun _ => .of_plain isPlain_of_isAsciiUpper
  have hphone : List.Forall₂ Narrows (phone.row isAsciiDigit) (phone.row isDecimalDigit) :=
    .cons (.only rfl) (.cons (.only rfl) (.cons (.only rfl)
      (.cons (.of_plain isPlain_of_leadsMobile) (.cons (.times isAsciiDigit_eq) .nil))))
  have hbankAccount : List.Forall₂ Narrows (bankAccount.row isAsciiDigit)
      (bankAccount.row isDecimalDigit) := .cons (.of_plain isPlain_of_isAsciiDigit) .nil
  have hbankBranch : List.Forall₂ Narrows (bankBranch.row isAsciiDigit)
      (bankBranch.row isDecimalDigit) :=
    .cons (hcapitals 4) (.cons (.only rfl)
      (.cons (.of_plain isPlain_of_isAsciiUpperOrDigit) .nil))
  have htaxNumber : List.Forall₂ Narrows (taxNumber.row isAsciiDigit)
      (taxNumber.row isDecimalDigit) :=
    .cons (hcapitals 5) (.cons (hdigits 4) (.cons (hcapitals 1) .nil))
  simp only [table, List.mem_cons, List.not_mem_nil, or_false] at h
  rcases h with rfl | rfl | rfl | rfl | rfl | rfl | rfl | rfl | rfl
  · exact hbankAccount
  · exact hbankBranch
  · exact hphone
  · exact hphone
  · exact htaxNumber
  · exact .cons (hdigits 12) .nil
  · exact .cons (hdigits 12) .nil
  · exact .cons (hdigits 6) .nil
  · exact .cons (hdigits 6) .nil

/-- The values that have a format are those that are allowed and plain. -/
theorem documented_iff {entry : String × ValueFormat} (h : entry ∈ table) {v : Text} :
    entry.2.Documented v ↔ entry.2.Accepted v ∧ ∀ x ∈ v, x.isPlain = true := by
  have hrow := fun t => row_iff_of_narrows (narrows_of_mem_table h) (t := t)
  constructor
  · rintro ⟨hdocumented, hlength⟩
    obtain ⟨hrest, hplain⟩ := (hrow v).mp hdocumented
    exact ⟨⟨⟨v, hrest, .inl rfl⟩, hlength⟩, hplain⟩
  · rintro ⟨⟨⟨w, hw, rfl | rfl⟩, hlength⟩, hplain⟩
    · exact ⟨(hrow v).mpr ⟨hw, hplain⟩, hlength⟩
    · -- a line feed is not plain
      have hfeed := hplain lineFeed (List.mem_append_right w List.mem_cons_self)
      cases hfeed

end ValueFormat

/-! ### The templates -/

/-- Whether a template allows the values of a format. -/
structure FieldTemplate.Describes (t : FieldTemplate) (f : ValueFormat) : Prop where
  pattern : ∃ p parts, t.pattern? = some p ∧
    Pattern.read? (Text.ofString p) = some (Pattern.wholeLine parts) ∧
    parts.map LinePart.stretch = f.row CodePoint.isDecimalDigit
  least : t.minLength? = f.least?.map Int.ofNat
  most : t.maxLength? = f.most?.map Int.ofNat

namespace PointSet

/-- `[0-9]` -/
def digits : PointSet := .anyOf false [.range (CodePoint.ofChar '0') (CodePoint.ofChar '9')]

/-- `[A-Z]` -/
def capitals : PointSet := .anyOf false [.range (CodePoint.ofChar 'A') (CodePoint.ofChar 'Z')]

/-- `[A-Z0-9]` -/
def capitalsOrDigits : PointSet :=
  .anyOf false [.range (CodePoint.ofChar 'A') (CodePoint.ofChar 'Z'),
    .range (CodePoint.ofChar '0') (CodePoint.ofChar '9')]

/-- `[6-9]` -/
def mobileLeads : PointSet := .anyOf false [.range (CodePoint.ofChar '6') (CodePoint.ofChar '9')]

/-- `\d` -/
def decimalDigits : PointSet := .anyOf false [.digit false false]

/-- A set of one class holds what the class holds. -/
theorem holds_anyOf_singleton (c : PointClass) (x : CodePoint) :
    (anyOf false [c]).holds .exact x = c.holds .exact true x := by
  show ((c.holds .exact true x || false) != false) = _
  rw [Bool.or_false, Bool.bne_false]

theorem holds_digits : (fun x => digits.holds .exact x) = CodePoint.isAsciiDigit :=
  funext (holds_anyOf_singleton _)

theorem holds_capitals : (fun x => capitals.holds .exact x) = CodePoint.isAsciiUpper :=
  funext (holds_anyOf_singleton _)

theorem holds_capitalsOrDigits :
    (fun x => capitalsOrDigits.holds .exact x) = CodePoint.isAsciiUpperOrDigit := by
  funext x
  show ((x.isAsciiUpper || (x.isAsciiDigit || false)) != false) = (x.isAsciiUpper || x.isAsciiDigit)
  rw [Bool.or_false, Bool.bne_false]

theorem holds_mobileLeads : (fun x => mobileLeads.holds .exact x) = CodePoint.leadsMobile :=
  funext (holds_anyOf_singleton _)

theorem holds_decimalDigits : (fun x => decimalDigits.holds .exact x) = CodePoint.isDecimalDigit :=
  funext fun x => (holds_anyOf_singleton _ x).trans (Bool.bne_false _)

theorem holds_point (c : Char) : (fun x => (PointSet.point (CodePoint.ofChar c)).holds .exact x)
    = fun x => x == CodePoint.ofChar c := rfl

end PointSet

namespace FieldTemplate

open PointSet

theorem describes_bankAccount : bankAccount.Describes .bankAccount where
  pattern := by
    refine ⟨_, [.run digits 1 none], rfl, by decide +kernel, ?_⟩
    simp only [List.map_cons, List.map_nil, LinePart.stretch, holds_digits]
    rfl
  least := rfl
  most := rfl

theorem describes_bankBranch : bankBranch.Describes .bankBranch where
  pattern := by
    refine ⟨_, [.run capitals 4 (some 4), .point (.point (CodePoint.ofChar '0')),
      .run capitalsOrDigits 6 (some 6)], rfl, by decide +kernel, ?_⟩
    simp only [List.map_cons, List.map_nil, LinePart.stretch, holds_capitals, holds_point,
      holds_capitalsOrDigits]
    rfl
  least := rfl
  most := rfl

theorem describes_phone : phone.Describes .phone where
  pattern := by
    refine ⟨_, [.point (.point (CodePoint.ofChar '+')), .point (.point (CodePoint.ofChar '9')),
      .point (.point (CodePoint.ofChar '1')), .point mobileLeads,
      .run decimalDigits 9 (some 9)], rfl, by decide +kernel, ?_⟩
    simp only [List.map_cons, List.map_nil, LinePart.stretch, holds_point, holds_mobileLeads,
      holds_decimalDigits]
    rfl
  least := rfl
  most := rfl

theorem describes_taxNumber : taxNumber.Describes .taxNumber where
  pattern := by
    refine ⟨_, [.run capitals 5 (some 5), .run digits 4 (some 4), .run capitals 1 (some 1)], rfl,
      by decide +kernel, ?_⟩
    simp only [List.map_cons, List.map_nil, LinePart.stretch, holds_capitals, holds_digits]
    rfl
  least := rfl
  most := rfl

theorem describes_identityNumber : identityNumber.Describes .identityNumber where
  pattern := by
    refine ⟨_, [.run digits 12 (some 12)], rfl, by decide +kernel, ?_⟩
    simp only [List.map_cons, List.map_nil, LinePart.stretch, holds_digits]
    rfl
  least := rfl
  most := rfl

theorem describes_postalCode : postalCode.Describes .postalCode where
  pattern := by
    refine ⟨_, [.run digits 6 (some 6)], rfl, by decide +kernel, ?_⟩
    simp only [List.map_cons, List.map_nil, LinePart.stretch, holds_digits]
    rfl
  least := rfl
  most := rfl

/-- The template of a well-known name allows the values of the format of the name. -/
theorem exists_describes {entry : String × ValueFormat} (h : entry ∈ ValueFormat.table) :
    ∃ t, find? (Text.ofString entry.1) = some t ∧ t.Describes entry.2 := by
  simp only [ValueFormat.table, List.mem_cons, List.not_mem_nil, or_false] at h
  rcases h with rfl | rfl | rfl | rfl | rfl | rfl | rfl | rfl | rfl
  · exact ⟨bankAccount, rfl, describes_bankAccount⟩
  · exact ⟨bankBranch, rfl, describes_bankBranch⟩
  · exact ⟨phone, rfl, describes_phone⟩
  · exact ⟨phone, rfl, describes_phone⟩
  · exact ⟨taxNumber, rfl, describes_taxNumber⟩
  · exact ⟨identityNumber, rfl, describes_identityNumber⟩
  · exact ⟨identityNumber, rfl, describes_identityNumber⟩
  · exact ⟨postalCode, rfl, describes_postalCode⟩
  · exact ⟨postalCode, rfl, describes_postalCode⟩

end FieldTemplate

/-- The property of a field that is nothing but a well-known name allows the texts that are allowed
in the format of the name. -/
theorem DeclaredField.violations_eq_nil_iff {entry : String × ValueFormat}
    (h : entry ∈ ValueFormat.table) {v : Text} :
    ({ name := Text.ofString entry.1 } : DeclaredField).property.violations (.string v) = [] ↔
      entry.2.Accepted v := by
  obtain ⟨t, ht, hdescribes⟩ := FieldTemplate.exists_describes h
  obtain ⟨p, parts, hp, hread, hrow⟩ := hdescribes.pattern
  have hproperty : ({ name := Text.ofString entry.1 } : DeclaredField).property =
      { name := Text.ofString entry.1
        title := Text.ofString t.title
        pattern? := some (Text.ofString p)
        format? := t.format?.map Text.ofString
        minLength? := entry.2.least?.map Int.ofNat
        maxLength? := entry.2.most?.map Int.ofNat } := by
    simp only [property, ht, Option.bind_some, hp, Option.map_some, hdescribes.least,
      hdescribes.most]
    rfl
  rw [hproperty, FormProperty.violations_string_eq_nil_iff rfl, ValueFormat.Accepted,
    ValueFormat.HasLength, ← hrow, ← Pattern.search_wholeLine_iff]
  constructor
  · rintro ⟨hpattern, hleast, hmost, -⟩
    have hfound := hpattern _ rfl
    rw [hread, Option.any_some] at hfound
    exact ⟨hfound, fun n hn => Int.ofNat_le.mp (hleast n (Option.mem_map_of_mem _ hn)),
      fun n hn => Int.ofNat_le.mp (hmost n (Option.mem_map_of_mem _ hn))⟩
  · rintro ⟨hfound, hleast, hmost⟩
    refine ⟨?_, fun n hn => ?_, fun n hn => ?_, nofun⟩
    · rintro _ ⟨⟩
      rw [hread, Option.any_some]
      exact hfound
    · obtain ⟨k, hk, rfl⟩ := Option.map_eq_some_iff.mp hn
      exact Int.ofNat_le.mpr (hleast k hk)
    · obtain ⟨k, hk, rfl⟩ := Option.map_eq_some_iff.mp hn
      exact Int.ofNat_le.mpr (hmost k hk)

/-! ### The form of a single field -/

/-- A field record with a name and nothing else. -/
def nameRecord (name : String) : Json := Json.record [("name", Json.text name)]

/-- Of a single field, which is not required and has no group, a form is compiled that has its
property and requires nothing. -/
theorem exists_form_of_field {input : FieldInput} {field : DeclaredField}
    (hread : input.read = ⟨[.ok field], none⟩) (hrequired : field.required = false)
    (hgroup : field.groupName = .null) (settings : Settings) (title benefitId : Json) :
    ∃ form, (compileForm settings input (.array []) (.records .null) title benefitId).outcome
        = .ok form ∧
      form.properties = [field.property.formMember] ∧ form.required = [] := by
  have hfields : formProperties settings input.read.fields [] [] = [field.property] := by
    rw [hread]
    rfl
  have hnone : input.read.failure? = none := by rw [hread]
  have houtcome : (compileForm settings input (.array []) (.records .null) title benefitId).outcome
      = FormSchema.ofProperties (formProperties settings input.read.fields [] []) title
        (compilationWarnings settings input.read {} [] []) :=
    outcome_compileForm_of_read settings hnone rfl rfl rfl title benefitId
  have hkeyed : ([field.property].all (·.groupName.isGroupName)) = true := by
    rw [List.all_cons, List.all_nil, Bool.and_true, DeclaredField.property, hgroup]
    rfl
  have hmade := FormSchema.map_ofProperties [field.property] title
    (compilationWarnings settings input.read {} [] [])
  rw [if_pos hkeyed] at hmade
  obtain ⟨form, hform⟩ := exists_ok_of_map hmade
  rw [hfields, hform] at houtcome
  obtain ⟨hints, -, hpure⟩ := bind_eq_ok_iff.mp hform
  cases hpure
  have hnames : [field.property].filter (·.required) = [] :=
    List.filter_eq_nil_iff.mpr fun p hp => by
      rw [List.mem_singleton.mp hp, DeclaredField.property, hrequired]
      exact Bool.false_ne_true
  exact ⟨_, houtcome, rfl, congrArg (List.map _) hnames⟩

/-- A form of one property that is not required finds nothing about a text under its name iff the
property allows the text. -/
theorem findings_single_eq_nil_iff {form : FormSchema} {p : FormProperty}
    (hproperties : form.properties = [p.formMember]) (hrequired : form.required = []) {v : Json} :
    form.schema.findings (.json (.object [(p.name, v)])) = [] ↔ p.violations v = [] := by
  have hfound : Members.get? [(p.name, v)] p.name = some v := by
    rw [Members.get?_cons, if_pos (beq_self_eq_true _)]
  rw [findings_schema_eq_nil_iff, hproperties, hrequired]
  simp only [List.not_mem_nil, false_imp_iff, implies_true, true_and, List.forall_mem_singleton]
  constructor
  · intro h
    have hnone := h v hfound
    rw [FormProperty.formMember, FormProperty.findingsAt_formMembers] at hnone
    exact List.map_eq_nil_iff.mp hnone
  · intro h w hw
    obtain rfl : v = w := Option.some.inj (hfound.symm.trans hw)
    rw [FormProperty.formMember, FormProperty.findingsAt_formMembers, h, List.map_nil]

/-- From a field record with a well-known name and nothing else a form is compiled that allows the
texts that are allowed in the format of the name, whatever the limit. -/
theorem exists_form_accepting {entry : String × ValueFormat} (h : entry ∈ ValueFormat.table)
    (settings : Settings) (title : Text) (benefitId : Json) :
    ∃ form, (compileForm settings (.flat [.record (nameRecord entry.1)]) (.array [])
        (.records .null) (.string title) benefitId).outcome = .ok form ∧
      ∀ (current : Settings) (v : Text) (limit : Json),
        (validate current (.form form) (.object [(Text.ofString entry.1, .string v)])
          limit).outcome = .ok [] ↔ entry.2.Accepted v := by
  have hread : ∀ name ∈ ValueFormat.table.map Prod.fst,
      (FieldInput.flat [.record (nameRecord name)]).read
        = ⟨[.ok { name := Text.ofString name }], none⟩ := by
    simp only [ValueFormat.table, List.map_cons, List.map_nil, List.forall_mem_cons,
      List.not_mem_nil, false_imp_iff, implies_true, and_true]
    exact ⟨rfl, rfl, rfl, rfl, rfl, rfl, rfl, rfl, rfl⟩
  obtain ⟨form, hform, hproperties, hrequired⟩ := exists_form_of_field
    (hread entry.1 (List.mem_map_of_mem h)) rfl rfl settings (.string title) benefitId
  obtain ⟨rules, documents, plans, hc⟩ := compileForm_ok hform
  have hproblems : problemsOf form.schema = .ok [] :=
    hc.problemsOf_schema_iff.mpr ⟨title, title_of_compileForm hform⟩
  refine ⟨form, hform, fun current v limit => ?_⟩
  rw [outcome_validate_eq_nil_iff hproblems, ← DeclaredField.violations_eq_nil_iff h]
  exact findings_single_eq_nil_iff hproperties hrequired

/-- The values of well-known fields that are allowed. From a field record with a well-known name and
nothing else a form is compiled, and whatever the limit nothing is reported of a text under the name
iff it is a value of the format of the name with decimal digits of any script where the pattern
leaves that open, alone or with a line feed after it, and as long as the lengths of the format say.
Among these the values that have the documented format are exactly those of ASCII without a line
feed. -/
theorem values_accepted {name : String} {format : ValueFormat}
    (h : (name, format) ∈ ValueFormat.table) (settings : Settings) (title : Text)
    (benefitId : Json) :
    ∃ form, (compileForm settings (.flat [.record (nameRecord name)]) (.array []) (.records .null)
        (.string title) benefitId).outcome = .ok form ∧
      ∀ (current : Settings) (v : Text) (limit : Json),
        ((validate current (.form form) (.object [(Text.ofString name, .string v)]) limit).outcome
          = .ok [] ↔ format.Accepted v) ∧
        (format.Documented v ↔ format.Accepted v ∧ ∀ c ∈ v, c.isPlain = true) := by
  obtain ⟨form, hform, haccepts⟩ := exists_form_accepting h settings title benefitId
  exact ⟨form, hform, fun current v limit =>
    ⟨haccepts current v limit, ValueFormat.documented_iff h⟩⟩

namespace Stretch

theorem fits_times_iff {n : Nat} {kind : CodePoint → Bool} {w : Text} :
    (times n kind).Fits w ↔ (∀ x ∈ w, kind x = true) ∧ w.length = n := by
  simp only [Fits, times, Option.mem_some_iff, forall_eq']
  exact and_congr_right fun _ => ⟨fun h => le_antisymm h.2 h.1, fun h => ⟨h.ge, h.le⟩⟩

theorem row_singleton_iff {s : Stretch} {w : Text} : Row [s] w ↔ s.Fits w := by
  constructor
  · rintro ⟨u, v, rfl, hu, rfl⟩
    rwa [List.append_nil]
  · exact fun h => ⟨w, [], (List.append_nil w).symm, h, rfl⟩

end Stretch

/-- A postal code of six digits is allowed. -/
theorem values_accepted_of_postalCode :
    ∃ form, (compileForm .standard (.flat [.record (nameRecord "pincode")]) (.array [])
        (.records .null) (.string []) .null).outcome = .ok form ∧
      (validate .standard (.form form)
        (.object [(Text.ofString "pincode", Json.text "560001")]) .null).outcome = .ok [] := by
  have hmem : ("pincode", ValueFormat.postalCode) ∈ ValueFormat.table := by
    simp [ValueFormat.table]
  obtain ⟨form, hform, hall⟩ := values_accepted hmem .standard [] .null
  have hdigits : Row (ValueFormat.postalCode.row CodePoint.isDecimalDigit)
      (Text.ofString "560001") := row_singleton_iff.mpr (fits_times_iff.mpr ⟨by decide, rfl⟩)
  exact ⟨form, hform, (hall .standard _ .null).1.mpr ⟨⟨_, hdigits, .inl rfl⟩, nofun, nofun⟩⟩

/-- Whether a text without the documented format of a name is allowed by the form of a field with
the name and nothing else. -/
def Misread (name : String) (format : ValueFormat) (v : Text) : Prop :=
  ∃ form, (compileForm .standard (.flat [.record (nameRecord name)]) (.array []) (.records .null)
      (.string []) .null).outcome = .ok form ∧
    (validate .standard (.form form) (.object [(Text.ofString name, .string v)]) .null).outcome
      = .ok [] ∧ ¬ format.Documented v

theorem misread_of_accepted {entry : String × ValueFormat} (h : entry ∈ ValueFormat.table)
    {v : Text} (hv : entry.2.Accepted v) (hplain : ¬ ∀ x ∈ v, x.isPlain = true) :
    Misread entry.1 entry.2 v := by
  obtain ⟨form, hform, haccepts⟩ := exists_form_accepting h .standard [] .null
  exact ⟨form, hform, (haccepts .standard v .null).mpr hv,
    fun hdocumented => hplain ((ValueFormat.documented_iff h).mp hdocumented).2⟩

/-- Not every value that is allowed has the format that is documented: six digits and a line feed
are allowed as a postal code, eight digits and a line feed as a bank account number, and a phone
number with digits of another script. -/
theorem values_misread :
    Misread "pincode" .postalCode (Text.ofString "123456\n") ∧
    Misread "bankAccountNumber" .bankAccount (Text.ofString "12345678\n") ∧
    Misread "phone" .phone (Text.ofString "+916٠١٢٣٤٥٦٧٨") := by
  have hpincode : ValueFormat.postalCode.Accepted (Text.ofString "123456\n") := by
    have hrow : Row (ValueFormat.postalCode.row CodePoint.isDecimalDigit)
        (Text.ofString "123456") := row_singleton_iff.mpr (fits_times_iff.mpr ⟨by decide, rfl⟩)
    exact ⟨⟨_, hrow, .inr rfl⟩, nofun, nofun⟩
  have hbankAccount : ValueFormat.bankAccount.Accepted (Text.ofString "12345678\n") := by
    have hrow : Row (ValueFormat.bankAccount.row CodePoint.isDecimalDigit)
        (Text.ofString "12345678") := row_singleton_iff.mpr ⟨by decide, by decide, nofun⟩
    refine ⟨⟨_, hrow, .inr rfl⟩, ?_, ?_⟩
    · rintro _ ⟨⟩
      decide
    · rintro _ ⟨⟩
      decide
  have hphone : ValueFormat.phone.Accepted (Text.ofString "+916٠١٢٣٤٥٦٧٨") := by
    have hcode : ∀ c : Char, (only c).Fits (Text.ofString c.toString) := fun c =>
      fits_times_iff.mpr ⟨by simp [Text.ofString], by simp [Text.ofString]⟩
    have hrow : Row (ValueFormat.phone.row CodePoint.isDecimalDigit)
        (Text.ofString "+916٠١٢٣٤٥٦٧٨") :=
      ⟨Text.ofString "+", _, rfl, hcode '+', Text.ofString "9", _, rfl, hcode '9',
        Text.ofString "1", _, rfl, hcode '1', Text.ofString "6", _, rfl,
        fits_times_iff.mpr ⟨by decide, rfl⟩,
        row_singleton_iff.mpr (fits_times_iff.mpr ⟨by decide +kernel, rfl⟩)⟩
    exact ⟨⟨_, hrow, .inl rfl⟩, nofun, nofun⟩
  have hmem : ∀ entry ∈ [("pincode", ValueFormat.postalCode),
      ("bankAccountNumber", ValueFormat.bankAccount), ("phone", ValueFormat.phone)],
      entry ∈ ValueFormat.table := by
    simp [ValueFormat.table]
  simp only [List.forall_mem_cons] at hmem
  obtain ⟨hpincodes, haccounts, hphones, -⟩ := hmem
  exact ⟨misread_of_accepted hpincodes hpincode (by decide),
    misread_of_accepted haccounts hbankAccount (by decide),
    misread_of_accepted hphones hphone (by decide)⟩

end BenefitForm
