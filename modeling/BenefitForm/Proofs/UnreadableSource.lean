import BenefitForm.Proofs.Content

/-!
# Sources that cannot be read

A command reads its sources in a fixed order, and the first one that cannot be read
ends it before any work is done. How it ends depends on what is wrong with that source:
a file that is not there or holds a text that is no JSON document is refused with status
2, but bytes that are the UTF-8 form of no text, and names that no file can have, are
faults that the command does not take care of.

- `Utf8.decode_eq_ok_iff`: strict decoding succeeds on the forms of texts and on nothing
  else.
- `Command.map_work`, `Command.run_readAll`: reading goes through the sources in order.
- `CommandCall.run_unreadable`: how a command with an unreadable source ends.
-/

namespace BenefitForm

/-! ### Strict UTF-8 -/

namespace Utf8

section

variable {a b c d : UInt8}

/-! The code point that is read from bytes has these bytes, whatever their count. -/

theorem encodePoint_one (ha : a.toNat < 0x80) : encodePoint (.ofNat a.toNat) = [a] := by
  have hval : (CodePoint.ofNat a.toNat).val = a.toNat := CodePoint.val_ofNat (by omega)
  rw [encodePoint, hval, if_pos ha, toUInt8_eq (b := a) rfl]

theorem encodePoint_two (hmin : 0xC2 ≤ a.toNat) (hmax : a.toNat < 0xE0)
    (hb : isContinuation b = true) :
    encodePoint (assemble (a.toNat - 0xC0) [b]) = [a, b] := by
  rw [isContinuation_iff] at hb
  have hval : (assemble (a.toNat - 0xC0) [b]).val = (a.toNat - 0xC0) * 64 + (b.toNat - 0x80) :=
    CodePoint.val_ofNat (by simp only [List.foldl_cons, List.foldl_nil]; omega)
  rw [encodePoint, hval, if_neg (by omega), if_pos (by omega), toUInt8_eq (b := a) (by omega),
    toUInt8_eq (b := b) (by omega)]

theorem encodePoint_three (hmin : 0xE0 ≤ a.toNat) (hmax : a.toNat < 0xF0)
    (hb : isContinuation b = true) (hc : isContinuation c = true)
    (hshort : a.toNat = 0xE0 → 0xA0 ≤ b.toNat) :
    encodePoint (assemble (a.toNat - 0xE0) [b, c]) = [a, b, c] := by
  rw [isContinuation_iff] at hb hc
  have hval : (assemble (a.toNat - 0xE0) [b, c]).val
      = ((a.toNat - 0xE0) * 64 + (b.toNat - 0x80)) * 64 + (c.toNat - 0x80) :=
    CodePoint.val_ofNat (by simp only [List.foldl_cons, List.foldl_nil]; omega)
  rw [encodePoint, hval, if_neg (by omega), if_neg (by omega), if_pos (by omega),
    toUInt8_eq (b := a) (by omega), toUInt8_eq (b := b) (by omega),
    toUInt8_eq (b := c) (by omega)]

theorem encodePoint_four (hmin : 0xF0 ≤ a.toNat) (hmax : a.toNat < 0xF5)
    (hb : isContinuation b = true) (hc : isContinuation c = true) (hd : isContinuation d = true)
    (hshort : a.toNat = 0xF0 → 0x90 ≤ b.toNat) (hlast : a.toNat = 0xF4 → b.toNat < 0x90) :
    encodePoint (assemble (a.toNat - 0xF0) [b, c, d]) = [a, b, c, d] := by
  rw [isContinuation_iff] at hb hc hd
  have hval : (assemble (a.toNat - 0xF0) [b, c, d]).val
      = (((a.toNat - 0xF0) * 64 + (b.toNat - 0x80)) * 64 + (c.toNat - 0x80)) * 64
        + (d.toNat - 0x80) :=
    CodePoint.val_ofNat (by simp only [List.foldl_cons, List.foldl_nil]; omega)
  rw [encodePoint, hval, if_neg (by omega), if_neg (by omega), if_neg (by omega),
    toUInt8_eq (b := a) (by omega), toUInt8_eq (b := b) (by omega),
    toUInt8_eq (b := c) (by omega), toUInt8_eq (b := d) (by omega)]

end

/-- What is read after `acc` has the bytes that it was read from. -/
theorem flatMap_of_decodeFrom {pass : Bool} {pos : Nat} {acc : Text} {bytes : List UInt8}
    {t : Text} (h : decodeFrom pass pos acc bytes = .ok t) :
    ∃ u, t = acc.reverse ++ u ∧ u.flatMap encodePoint = bytes := by
  -- one more code point is first in the accumulator and hence first in what is read
  have hnext : ∀ {p : CodePoint} {acc : Text} {rest : List UInt8} (form), encodePoint p = form →
      (∃ u, t = (p :: acc).reverse ++ u ∧ u.flatMap encodePoint = rest) →
      ∃ u, t = acc.reverse ++ u ∧ u.flatMap encodePoint = form ++ rest := by
    rintro p acc rest form hform ⟨u, ht, hrest⟩
    refine ⟨p :: u, ?_, ?_⟩
    · rw [ht, List.reverse_cons, List.append_assoc, List.singleton_append]
    · rw [List.flatMap_cons, hform, hrest]
  fun_induction decodeFrom pass pos acc bytes
  case case1 =>
    cases h
    exact ⟨[], (List.append_nil _).symm, rfl⟩
  case case2 a rest ha ih =>
    refine hnext [a] (encodePoint_one ?_) (ih h)
    simpa only [UInt8.lt_iff_toNat_lt, UInt8.reduceToNat] using ha
  case case5 a hone htwo hmax b rest hb ih =>
    simp only [UInt8.lt_iff_toNat_lt, UInt8.reduceToNat] at hone htwo hmax
    exact hnext [a, b] (encodePoint_two (by omega) hmax hb) (ih h)
  case case11 a hone htwo hthree ha b surrogate hab c rest hc ih =>
    simp only [surrogate, Bool.or_eq_true, not_or, Bool.not_eq_true', Bool.and_eq_true,
      decide_eq_true_iff, UInt8.lt_iff_toNat_lt, UInt8.le_iff_toNat_le, UInt8.reduceToNat,
      ← UInt8.toNat_inj, Bool.not_eq_false] at hone htwo hthree ha hab
    exact hnext [a, b, c]
      (encodePoint_three (by omega) ha hab.1.1 hc (by omega)) (ih h)
  case case19 a hone htwo hthree hfour ha b hab c hc d rest hd ih =>
    simp only [Bool.or_eq_true, not_or, Bool.not_eq_true', Bool.and_eq_true, decide_eq_true_iff,
      UInt8.lt_iff_toNat_lt, UInt8.le_iff_toNat_le, UInt8.reduceToNat, ← UInt8.toNat_inj,
      Bool.not_eq_false] at hone htwo hthree hfour ha hab hc
    exact hnext [a, b, c, d]
      (encodePoint_four (by omega) ha hab.1.1 hc hd (by omega) (by omega)) (ih h)
  all_goals cases h

/-- Strict decoding reads the UTF-8 forms of texts and nothing else. -/
theorem decode_eq_ok_iff {bytes : List UInt8} {t : Text} :
    decode false bytes = .ok t ↔ encode t = .ok bytes := by
  refine ⟨fun h => ?_, decode_encode⟩
  obtain ⟨u, rfl, hbytes⟩ := flatMap_of_decodeFrom h
  rw [encode, firstSurrogates_eq_none_iff.mpr (plain_decode h)]
  exact congrArg Except.ok hbytes

end Utf8

/-! ### One source -/

/-- Whether a content is the UTF-8 form of a text. -/
def Utf8.IsText (content : List UInt8) : Prop := ∃ t, encode t = .ok content

/-- Whether a name can be that of a file: it has bytes, and none of them is zero. -/
def FileName.IsUsable (name : Text) : Prop := ∃ named, bytes name = .ok named ∧ 0 ∉ named

namespace Command

/-- Whether a content is the UTF-8 form of a text that holds one JSON document. -/
def IsDocument (content : List UInt8) : Prop :=
  ∃ t, Utf8.encode t = .ok content ∧ ∃ v, Json.read t.unifyLines = .ok v

/-- Whether a text is read as JSON or is malformed, and is not beyond what can be read. -/
def IsWithinLimits (content : List UInt8) : Prop :=
  ∀ t failure, Utf8.encode t = .ok content → Json.read t.unifyLines = .error failure →
    ∃ e, failure = .malformed e

/-- Whether a source is the input or can be the name of a file. -/
def IsNamed (source : Text) : Prop :=
  source = inputName ∨ FileName.IsUsable (FileName.normalize source)

/-- What is read as a document is within the limits. -/
theorem IsDocument.isWithinLimits {content : List UInt8} (h : IsDocument content) :
    IsWithinLimits content := by
  obtain ⟨t, ht, v, hv⟩ := h
  intro u failure hu hread
  -- bytes are the form of one text only
  cases (Utf8.decode_encode ht).symm.trans (Utf8.decode_encode hu)
  cases hv.symm.trans hread

theorem exists_decodeSource_eq_ok_iff (source : Text) {content : List UInt8} :
    (∃ v, decodeSource source content = .ok v) ↔ IsDocument content := by
  constructor
  · rintro ⟨v, hv⟩
    unfold decodeSource at hv
    split at hv
    · cases hv
    · rename_i t ht
      split at hv
      · rename_i read hread
        exact ⟨t, Utf8.decode_eq_ok_iff.mp ht, read, hread⟩
      · cases hv
      · cases hv
  · rintro ⟨t, ht, v, hv⟩
    exact ⟨v, by simp only [decodeSource, Utf8.decode_eq_ok_iff.mpr ht, hv]⟩

/-- A text that is no document is refused, with what is wrong with it. -/
theorem exists_decodeSource_eq_refusal (source : Text) {content : List UInt8} {t : Text}
    (ht : Utf8.encode t = .ok content) (hdocument : ¬ IsDocument content)
    (hlimits : IsWithinLimits content) :
    ∃ e, Json.read t.unifyLines = .error (.malformed e) ∧
      decodeSource source content = .error (refusal source e.message) := by
  cases hread : Json.read t.unifyLines with
  | ok v => exact absurd ⟨t, ht, v, hread⟩ hdocument
  | error failure =>
    obtain ⟨e, rfl⟩ := hlimits t failure ht hread
    exact ⟨e, rfl, by simp only [decodeSource, Utf8.decode_eq_ok_iff.mpr ht, hread]⟩

/-- Bytes that are the form of no text are a fault. -/
theorem exists_decodeSource_eq_undecodable (source : Text) {content : List UInt8}
    (h : ¬ Utf8.IsText content) :
    ∃ e, decodeSource source content = .error (.broken (.fault (.undecodable e))) := by
  cases hdecoded : Utf8.decode false content with
  | ok t => exact absurd ⟨t, Utf8.decode_eq_ok_iff.mp hdecoded⟩ h
  | error e => exact ⟨e, by simp only [decodeSource, hdecoded]⟩

end Command

namespace CommandInput

/-- The content of a source after others were read. The input can be read once. -/
def content (given : CommandInput) (before : List Text) (source : Text) :
    Except FileProblem (List UInt8) :=
  if source = Command.inputName then
    .ok (if Command.inputName ∈ before then [] else given.input)
  else given.file (FileName.normalize source)

/-- Whether a source can be read after others. -/
structure Readable (given : CommandInput) (before : List Text) (source : Text) : Prop where
  named : Command.IsNamed source
  document : ∃ content, given.content before source = .ok content ∧ Command.IsDocument content

/-- Whether the source can be named and holds a text, if it holds anything. -/
def Textual (given : CommandInput) (before : List Text) (source : Text) : Prop :=
  Command.IsNamed source ∧
    ∀ content, given.content before source = .ok content → Utf8.IsText content

/-- How a source that cannot be read ends a command. -/
inductive Stops (given : CommandInput) (before : List Text) (source : Text) : CommandEnd → Prop
  /-- The file is not there, or is no file. -/
  | missing (p : FileProblem) (hnamed : Command.IsNamed source)
    (hcontent : given.content before source = .error p) :
    Stops given before source (Command.refusal source (Text.ofString p.message
      ++ Text.ofString ": " ++ (FileName.normalize source).quoted))
  /-- The text is no JSON document. -/
  | malformed {content : List UInt8} {t : Text} (e : ReadError) (hnamed : Command.IsNamed source)
    (hcontent : given.content before source = .ok content) (ht : Utf8.encode t = .ok content)
    (hread : Json.read t.unifyLines = .error (.malformed e)) :
    Stops given before source (Command.refusal source e.message)
  /-- The bytes are no text. -/
  | undecodable {content : List UInt8} (e : DecodeError)
    (hcontent : given.content before source = .ok content) (htext : ¬ Utf8.IsText content) :
    Stops given before source (.broken (.fault (.undecodable e)))
  /-- The name has no bytes. -/
  | unencodable (e : EncodeError) (hnamed : ¬ Command.IsNamed source) :
    Stops given before source (.broken (.fault (.unencodable e)))
  /-- The name has a byte that no name can have. -/
  | invalidName (hnamed : ¬ Command.IsNamed source) :
    Stops given before source (.broken (.fault .invalidValue))

/-- A command is refused for a source exactly if the source can be named and is not there or holds a
text. -/
theorem Stops.refused_iff {given : CommandInput} {before : List Text} {source : Text}
    {ending : CommandEnd} (h : given.Stops before source ending) :
    (∃ report, ending = .refused 2 report) ↔ given.Textual before source := by
  cases h with
  | missing p hnamed hcontent =>
    refine iff_of_true ⟨_, rfl⟩ ⟨hnamed, fun content hfound => ?_⟩
    cases hcontent.symm.trans hfound
  | @malformed content t e hnamed hcontent ht hread =>
    refine iff_of_true ⟨_, rfl⟩ ⟨hnamed, fun found hfound => ?_⟩
    cases hcontent.symm.trans hfound
    exact ⟨t, ht⟩
  | undecodable e hcontent htext =>
    exact iff_of_false (fun ⟨_, he⟩ => by cases he) fun htextual =>
      htext (htextual.2 _ hcontent)
  | unencodable e hnamed =>
    exact iff_of_false (fun ⟨_, he⟩ => by cases he) fun htextual => hnamed htextual.1
  | invalidName hnamed =>
    exact iff_of_false (fun ⟨_, he⟩ => by cases he) fun htextual => hnamed htextual.1

end CommandInput

namespace Command

section

variable {given : CommandInput} {before : List Text} {source : Text}

/-- Reading a source with a usable name decodes what it holds. -/
theorem run_readSource (hnamed : IsNamed source) :
    (readSource given source).run (decide (inputName ∈ before)) =
      match given.content before source with
      | .ok content => (decodeSource source content).map
          (·, decide (inputName ∈ before ++ [source]))
      | .error p => .error (refusal source (Text.ofString p.message ++ Text.ofString ": "
          ++ (FileName.normalize source).quoted)) := by
  by_cases hsource : source = inputName
  · subst hsource
    have hafter : decide (inputName ∈ before ++ [inputName]) = true := by simp
    rw [hafter]
    simp only [CommandInput.content, readSource, if_true, StateT.run_bind, StateT.run_get,
      StateT.run_set, pure_bind, decide_eq_true_eq]
    cases decodeSource inputName (if inputName ∈ before then [] else given.input) <;> rfl
  · obtain ⟨named, hbytes, hzero⟩ := hnamed.resolve_left hsource
    have hafter : decide (inputName ∈ before ++ [source]) = decide (inputName ∈ before) := by
      simp [Ne.symm hsource]
    have hnone : named.contains 0 = false := by simpa using hzero
    rw [hafter]
    simp only [CommandInput.content, readSource, if_neg hsource, hbytes, hnone]
    cases hfile : given.file (FileName.normalize source) with
    | error p => rfl
    | ok content => cases decodeSource source content <;> rfl

/-- A readable source is read. -/
theorem run_readSource_of_readable (h : given.Readable before source) :
    ∃ v, (readSource given source).run (decide (inputName ∈ before))
      = .ok (v, decide (inputName ∈ before ++ [source])) := by
  obtain ⟨hnamed, content, hcontent, hdocument⟩ := h
  obtain ⟨v, hv⟩ := (exists_decodeSource_eq_ok_iff source).mpr hdocument
  refine ⟨v, ?_⟩
  rw [run_readSource hnamed, hcontent]
  simp only [hv]
  rfl

/-- Reading stops at a source that cannot be read. -/
theorem exists_stops (hunread : ¬ given.Readable before source)
    (hlimits : ∀ content, given.content before source = .ok content → IsWithinLimits content) :
    ∃ ending, given.Stops before source ending ∧
      (readSource given source).run (decide (inputName ∈ before)) = .error ending := by
  by_cases hnamed : IsNamed source
  case neg =>
    obtain ⟨hsource, hunusable⟩ := not_or.mp hnamed
    simp only [readSource, if_neg hsource]
    cases hbytes : FileName.bytes (FileName.normalize source) with
    | error e => exact ⟨_, .unencodable e hnamed, rfl⟩
    | ok named =>
      have hzero : named.contains 0 = true := by
        by_contra hnone
        exact hunusable ⟨named, hbytes, fun hmem => hnone (List.contains_iff_mem.mpr hmem)⟩
      simp only [hzero, if_true]
      exact ⟨_, .invalidName hnamed, rfl⟩
  case pos =>
    rw [run_readSource hnamed]
    cases hcontent : given.content before source with
    | error p => exact ⟨_, .missing p hnamed hcontent, rfl⟩
    | ok content =>
      by_cases htext : Utf8.IsText content
      · obtain ⟨t, ht⟩ := htext
        obtain ⟨e, hread, he⟩ := exists_decodeSource_eq_refusal source ht
          (fun hdocument => hunread ⟨hnamed, content, hcontent, hdocument⟩)
          (hlimits content hcontent)
        simp only [he]
        exact ⟨_, .malformed e hnamed hcontent ht hread, rfl⟩
      · obtain ⟨e, he⟩ := exists_decodeSource_eq_undecodable source htext
        simp only [he]
        exact ⟨_, .undecodable e hcontent htext, rfl⟩

end

/-! ### The sources of a command -/

/-- The source that an option names, if it names one. -/
def optional (source? : Option Text) : List Text := (source?.filter fun s => !s.isEmpty).toList

/-- The sources that a command reads, in the order in which it reads them. -/
def readOrder : Command → List Text
  | .compile rules fields? wallet? _ => optional fields? ++ rules :: optional wallet?
  | .catalog answer prefill? => answer :: optional prefill?
  | .reclassify data schema _ wallet? => schema :: data :: optional wallet?

/-- Read sources one after another. -/
def readAll (given : CommandInput) (sources : List Text) : Reading Unit :=
  sources.forM fun source => do let _ ← readSource given source

theorem readAll_cons (given : CommandInput) (source : Text) (sources : List Text) :
    readAll given (source :: sources) = (do
      let _ ← readSource given source
      readAll given sources) := by
  simp [readAll]

theorem readAll_append (given : CommandInput) (sources more : List Text) :
    readAll given (sources ++ more) = (do
      readAll given sources
      readAll given more) := by
  simp [readAll]

theorem map_readOptional (given : CommandInput) (source? : Option Text) :
    (fun _ => ()) <$> readOptional given source? = readAll given (optional source?) := by
  unfold readOptional optional
  cases source?.filter fun s => !s.isEmpty with
  | none => simp [readAll]
  | some source => simp [readAll]

/-- Before its work a command reads its sources in order, and nothing else. -/
theorem map_work (settings : Settings) (given : CommandInput) (c : Command) :
    (fun _ => ()) <$> c.work settings given = readAll given c.readOrder := by
  cases c with
  | compile rules fields? wallet? title =>
    simp only [work, readOrder, readAll_append, readAll_cons, ← map_readOptional]
    simp
  | catalog answer prefill? =>
    simp only [work, readOrder, readAll_cons, ← map_readOptional]
    simp
  | reclassify data schema benefit wallet? =>
    simp only [work, readOrder, readAll_cons, ← map_readOptional]
    simp

/-- Sources that can all be read at their turns are read. -/
theorem run_readAll_of_readable {given : CommandInput} (before : List Text) {sources : List Text}
    (h : ∀ earlier other, earlier ++ [other] <+: sources →
      given.Readable (before ++ earlier) other) :
    (readAll given sources).run (decide (inputName ∈ before))
      = .ok ((), decide (inputName ∈ before ++ sources)) := by
  -- what was read grows along the sources, and with it whether the input is gone
  induction sources generalizing before with
  | nil =>
    rw [List.append_nil]
    rfl
  | cons source rest ih =>
    have hfirst : given.Readable before source := by
      simpa using h [] source (List.prefix_append [source] rest)
    obtain ⟨v, hv⟩ := run_readSource_of_readable hfirst
    have hrest := ih (before ++ [source]) fun earlier other hinit => by
      simpa using h (source :: earlier) other ((List.prefix_cons_inj source).mpr hinit)
    rw [readAll_cons, StateT.run_bind, hv, ok_bind, hrest, List.append_assoc,
      List.singleton_append]

/-- The first source that cannot be read ends the command. -/
theorem run_work_eq_error {settings : Settings} {given : CommandInput} {c : Command}
    {before : List Text} {source : Text} (hinit : before ++ [source] <+: c.readOrder)
    (hbefore : ∀ earlier other, earlier ++ [other] <+: before → given.Readable earlier other)
    {ending : CommandEnd}
    (hstop : (readSource given source).run (decide (inputName ∈ before)) = .error ending) :
    (c.work settings given).run' false = .error ending := by
  obtain ⟨rest, hrest⟩ := hinit
  have hread : (readAll given before).run false = .ok ((), decide (inputName ∈ before)) :=
    run_readAll_of_readable [] hbefore
  have hall : (readAll given c.readOrder).run false = .error ending := by
    rw [← hrest, List.append_assoc, List.singleton_append, readAll_append, StateT.run_bind, hread,
      ok_bind, readAll_cons, StateT.run_bind, hstop]
    rfl
  -- only the reading can fail; what is left of the command is its work
  rw [← map_work settings given c, StateT.run_map] at hall
  cases hwork : (c.work settings given).run false with
  | ok done =>
    rw [hwork] at hall
    cases hall
  | error e =>
    rw [hwork] at hall
    cases hall
    show Prod.fst <$> (c.work settings given).run false = _
    rw [hwork]
    rfl

end Command

/-- Of the places in a list that lack a property one is the first. -/
theorem exists_first_prefix {α : Type} {P : List α → α → Prop} {xs : List α}
    (h : ∃ before x, before ++ [x] <+: xs ∧ ¬ P before x) :
    ∃ before x, before ++ [x] <+: xs ∧
      (∀ earlier y, earlier ++ [y] <+: before → P earlier y) ∧ ¬ P before x := by
  obtain ⟨before, x, hinit, hnot⟩ := h
  -- an earlier place that lacks the property has less before it
  induction hlength : before.length using Nat.strong_induction_on generalizing before x with
  | _ n ih =>
    by_cases hearlier : ∀ earlier y, earlier ++ [y] <+: before → P earlier y
    · exact ⟨before, x, hinit, hearlier, hnot⟩
    · simp only [not_forall] at hearlier
      obtain ⟨earlier, y, hshort, hmissing⟩ := hearlier
      have hlt : earlier.length < n := by
        have := hshort.length_le
        rw [List.length_append, List.length_singleton] at this
        omega
      have hlonger : earlier ++ [y] <+: xs :=
        hshort.trans ((List.prefix_append before [x]).trans hinit)
      exact ih _ hlt earlier y hlonger hmissing rfl

/-- A command one of whose sources cannot be read does nothing: the first such source ends it. The
status is 2 exactly where that source can be named and is not there or holds a text, which is then
no JSON document. Otherwise the command breaks off. -/
theorem CommandCall.run_unreadable {settings : Settings} {given : CommandInput} {c : CommandCall}
    (hunread : ∃ before source, before ++ [source] <+: c.command.readOrder ∧
      ¬ given.Readable before source)
    (hlimits : ∀ before source content, before ++ [source] <+: c.command.readOrder →
      given.content before source = .ok content → Command.IsWithinLimits content) :
    ∃ before source, before ++ [source] <+: c.command.readOrder ∧
      (∀ earlier other, earlier ++ [other] <+: before → given.Readable earlier other) ∧
      ¬ given.Readable before source ∧
      ((∃ report, c.run settings given = ⟨[], .refused 2 report⟩) ↔
        given.Textual before source) ∧
      ∃ ending, given.Stops before source ending ∧ c.run settings given = ⟨[], ending⟩ := by
  obtain ⟨before, source, hinit, hbefore, hnot⟩ := exists_first_prefix hunread
  obtain ⟨ending, hstops, hstop⟩ := Command.exists_stops hnot
    fun content => hlimits before source content hinit
  have hrun : c.run settings given = ⟨[], ending⟩ := by
    rw [run, Command.run_work_eq_error hinit hbefore hstop]
  refine ⟨before, source, hinit, hbefore, hnot, ?_, ending, hstops, hrun⟩
  rw [← hstops.refused_iff, hrun]
  simp only [CommandResult.mk.injEq, true_and]

/-- A folder with an empty object in the file `s` and the UTF-16 form of an empty list in `r`. -/
def mixedFolder : CommandInput where
  file := (Folder.ofFiles [(Text.ofString "s", [0x7B, 0x7D]),
    (Text.ofString "r", [0xFF, 0xFE, 0x5B, 0x00, 0x5D, 0x00])]).read
  input := []

theorem Utf8.not_isText_utf16 : ¬ Utf8.IsText [0xFF, 0xFE, 0x5B, 0x00, 0x5D, 0x00] := by
  rintro ⟨t, ht⟩
  have herror : decode false [0xFF, 0xFE, 0x5B, 0x00, 0x5D, 0x00]
      = .error ⟨.utf8, 0, [0xFF], .startByte⟩ := rfl
  cases herror.symm.trans (decode_encode ht)

theorem mixedFolder_not_readable (before : List Text) :
    ¬ mixedFolder.Readable before (Text.ofString "r") := by
  rintro ⟨-, content, hcontent, t, ht, -⟩
  cases (show mixedFolder.content before (Text.ofString "r") = .ok _ from rfl).symm.trans hcontent
  exact Utf8.not_isText_utf16 ⟨t, ht⟩

/-- The filled values of `r` against the schema of `s`. -/
def mixedCall : CommandCall where
  verbose := false
  compact := false
  command := .reclassify (Text.ofString "r") (Text.ofString "s") [] none

/-- Filled values that are no text break off a command whose schema was read. -/
theorem CommandCall.run_unreadable_of_undecodable :
    mixedCall.command.readOrder = [Text.ofString "s", Text.ofString "r"] ∧
    ∃ before source, before ++ [source] <+: mixedCall.command.readOrder ∧
      (∀ earlier other, earlier ++ [other] <+: before → mixedFolder.Readable earlier other) ∧
      ¬ mixedFolder.Readable before source ∧
      ((∃ report, mixedCall.run .standard mixedFolder = ⟨[], .refused 2 report⟩) ↔
        mixedFolder.Textual before source) ∧
      ∃ ending, mixedFolder.Stops before source ending ∧
        mixedCall.run .standard mixedFolder = ⟨[], ending⟩ := by
  refine ⟨rfl, CommandCall.run_unreadable ?_ ?_⟩
  · exact ⟨[Text.ofString "s"], Text.ofString "r", List.prefix_rfl, mixedFolder_not_readable _⟩
  · intro before source content hinit hcontent
    have hmem : source ∈ [Text.ofString "s", Text.ofString "r"] :=
      hinit.subset (List.mem_append_right before List.mem_cons_self)
    rcases List.mem_pair.mp hmem with rfl | rfl
    · cases (show mixedFolder.content before (Text.ofString "s") = .ok _ from rfl).symm.trans
        hcontent
      exact Command.IsDocument.isWithinLimits ⟨Text.ofString "\x7b\x7d", rfl, .object [], rfl⟩
    · cases (show mixedFolder.content before (Text.ofString "r") = .ok _ from rfl).symm.trans
        hcontent
      exact fun t failure ht => absurd ⟨t, ht⟩ Utf8.not_isText_utf16

/-- Whether a command breaks off at the first source that it reads, which cannot be read, and does
not end with a status. -/
def Command.BreaksOff (given : CommandInput) (source : Text) (c : Command) : Prop :=
  [] ++ [source] <+: c.readOrder ∧ ¬ given.Readable [] source ∧
    ∃ e, (CommandCall.run .standard given ⟨false, false, c⟩).ending = .broken e

/-- Each of the commands breaks off at a file that holds no text. -/
theorem CommandCall.run_undecodable_not_refused :
    Command.BreaksOff mixedFolder (Text.ofString "r") (.compile (Text.ofString "r") none none []) ∧
    Command.BreaksOff mixedFolder (Text.ofString "r") (.catalog (Text.ofString "r") none) ∧
    Command.BreaksOff mixedFolder (Text.ofString "r")
      (.reclassify (Text.ofString "r") (Text.ofString "r") [] none) := by
  have hbreaks : ∀ c : Command, [] ++ [Text.ofString "r"] <+: c.readOrder →
      (∃ e, (run .standard mixedFolder ⟨false, false, c⟩).ending = .broken e) →
      Command.BreaksOff mixedFolder (Text.ofString "r") c :=
    fun _ hfirst hbroken => ⟨hfirst, mixedFolder_not_readable [], hbroken⟩
  exact ⟨hbreaks _ (by decide) ⟨_, rfl⟩, hbreaks _ (by decide) ⟨_, rfl⟩,
    hbreaks _ (by decide) ⟨_, rfl⟩⟩

end BenefitForm
