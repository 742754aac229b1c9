import BenefitForm.Command.Folder
import BenefitForm.Command.Line
import BenefitForm.Compile
import BenefitForm.Json.Writer
import BenefitForm.Submission
import BenefitForm.Validation

/-!
# Commands

`CommandCall.run` carries out a command: it reads the sources that the command
names, one after another, does the work and says what is printed, what is
reported and how the program ends.

A source is the name of a file, or a hyphen for the input, which can be read once.
A source that is not there or holds no JSON ends the program with status 2, and
so does a catalog answer that cannot be used; a submission that cannot be made
ends it with status 3. Any other fault is left to the caller.
-/

namespace BenefitForm

/-- What a command can read. -/
structure CommandInput where
  /-- The content of a file. -/
  file : Text → Except FileProblem (List UInt8)
  /-- The content of the input. -/
  input : List UInt8

/-- What is written to the error output. -/
inductive ErrorLine where
  | record (r : LogRecord)
  | text (t : Text)

/-- How a command ends. -/
inductive CommandEnd where
  /-- The output is printed. -/
  | printed (output : Text)
  /-- An error is reported and the program ends with a status. -/
  | refused (status : Nat) (report : Text)
  /-- The program cannot go on. -/
  | broken (e : Failure)

/-- What a command does. -/
structure CommandResult where
  /-- The lines on the error output. -/
  errors : List ErrorLine
  /-- How it ends. -/
  ending : CommandEnd

/-- Reading sources one after another; the state is whether the input has been read. -/
abbrev Reading := StateT Bool (Except CommandEnd)

/-- A text in which every line ends with a line feed. -/
def Text.unifyLines : Text → Text
  | [] => []
  | [c] => [if c.val = 0x0D then '\n' else c]
  | c :: d :: rest =>
    if c.val = 0x0D then
      if d.val = 0x0A then unifyLines (d :: rest)
      else CodePoint.ofChar '\n' :: unifyLines (d :: rest)
    else c :: unifyLines (d :: rest)

namespace Command

/-- What follows a control sequence of a terminal, if the text begins with one: escape, bracket,
digits and marks, and a letter. -/
def afterControl? : Text → Option Text
  | e :: b :: rest =>
    if e.val = 0x1B && b.val = 0x5B then
      match rest.dropWhile fun c => c.isAsciiDigit || c.val = 0x3B || c.val = 0x3F with
      | c :: rest => if c.isAsciiLower || c.isAsciiUpper then some rest else none
      | [] => none
    else none
  | _ => none

/-- A text without control sequences of a terminal. -/
def withoutControls (t : Text) : Text := go t.length t
where
  go : Nat → Text → Text
    | 0, t => t
    | _, [] => []
    | fuel + 1, c :: rest =>
      match afterControl? (c :: rest) with
      | some rest => go fuel rest
      | none => c :: go fuel rest

/-- The report about a source that cannot be read. -/
def refusal (source reason : Text) : CommandEnd :=
  .refused 2 (withoutControls
    (Text.ofString "error: cannot read JSON from " ++ source ++ Text.ofString ": " ++ reason))

/-- The value that a source with a content holds. -/
def decodeSource (source : Text) (content : List UInt8) : Except CommandEnd Json :=
  match Utf8.decode false content with
  | .error e => .error (.broken (.fault (.undecodable e)))
  | .ok t =>
    match Json.read t.unifyLines with
    | .ok v => .ok v
    | .error (.malformed e) => .error (refusal source e.message)
    | .error failure => .error (.broken (.fault failure.fault))

/-- The name that stands for the input. -/
def inputName : Text := Text.ofString "-"

/-- Read a source. The input is empty once it has been read. -/
def readSource (given : CommandInput) (source : Text) : Reading Json := do
  if source = inputName then
    let inputRead ← get
    set true
    decodeSource source (if inputRead then [] else given.input)
  else
    let name := FileName.normalize source
    match FileName.bytes name with
    | .error e => throw (.broken (.fault (.unencodable e)))
    | .ok bytes =>
      if bytes.contains 0 then throw (.broken (.fault .invalidValue))
      else match given.file name with
        | .ok content => decodeSource source content
        | .error p =>
          throw (refusal source (Text.ofString p.message ++ Text.ofString ": " ++ name.quoted))

/-- Read a source that need not be given; one that is not, or has an empty name, holds null. -/
def readOptional (given : CommandInput) (source? : Option Text) : Reading Json :=
  match source?.filter fun source => !source.isEmpty with
  | some source => readSource given source
  | none => return .null

/-- The value, or an empty list for what counts as nothing. -/
def orEmpty (v : Json) : Json := if v.truthy then v else .array []

/-- The members of the output with a compiled form. -/
def formMembers (f : FormSchema) : List (String × Json) :=
  [("schema", f.schema), ("uiSchema", .object f.hints),
    ("documentFieldNames", Json.ofTexts f.documentNames),
    ("missingDocuments", Json.ofTexts f.missing),
    ("extraErrors", .object (extraErrors (f.missingErrors true))),
    ("warnings", .array (f.warnings.map CompilationWarning.toJson))]

/-- The schema in the output of a compilation, or the value itself. -/
def innerSchema (v : Json) : Json :=
  match v with
  | .object members =>
    match Members.get? members (Text.ofString "schema") with
    | some (.object schema) => .object schema
    | _ => v
  | _ => v

/-- Read the sources of a command; what is left is its work. -/
def work (settings : Settings) (given : CommandInput) : Command → Reading (Trace Json)
  | .compile rules fields? wallet? title => do
    let fields ← readOptional given fields?
    let rules ← readSource given rules
    let wallet ← readOptional given wallet?
    return do
      let form ← compileForm settings (.ofJson (orEmpty fields)) rules (.records (orEmpty wallet))
        (.string title) .null
      return Json.record (formMembers form)
  | .catalog answer prefill? => do
    let answer ← readSource given answer
    let prefill ← readOptional given prefill?
    return do
      let compiled ← compileCatalog settings answer prefill .null
      return Json.record (formMembers compiled.form ++
        [("formData", .object (compiled.formData.map fun m => (m.1, Json.string m.2))),
          ("remark", Json.ofText? compiled.remark?)])
  | .reclassify data schema benefit wallet? => do
    let schema ← readSource given schema
    let data ← readSource given data
    let wallet ← readOptional given wallet?
    return do
      let submission ← Submission.classify settings data (.stored (innerSchema schema))
        (orEmpty wallet) .null
      return (submission.payload (.string benefit)).toJson

/-- The sources that a command may read. -/
def sources : Command → List Text
  | .compile rules fields? wallet? _ => rules :: (fields?.toList ++ wallet?.toList)
  | .catalog answer prefill? => answer :: prefill?.toList
  | .reclassify data schema _ wallet? => [schema, data] ++ wallet?.toList

/-- The status with which a failure of the domain ends a command. -/
def failureStatus? : Command → Option Nat
  | .compile .. => none
  | .catalog .. => some 2
  | .reclassify .. => some 3

end Command

namespace CommandCall

/-- The log on the error output: all records, or the messages of errors alone. -/
def shownRecords (c : CommandCall) (records : List LogRecord) : List ErrorLine :=
  if c.verbose then records.map .record
  else (records.filter fun r => r.level = .error).map fun r => .text r.message

/-- Print a value. What has no encoding cannot be printed. -/
def print (c : CommandCall) (v : Json) : CommandEnd :=
  match Json.write (if c.compact then .compact else .indented) v with
  | .error f => .broken (.fault f)
  | .ok t =>
    match Utf8.encode t with
    | .ok _ => .printed (t ++ Text.ofString "\n")
    | .error e => .broken (.fault (.unencodable e))

/-- How a command ends whose work fails. -/
def failed (c : CommandCall) (e : Failure) : CommandEnd :=
  match e.code?, c.command.failureStatus? with
  | some code, some status =>
    .refused status (Command.withoutControls
      (Text.ofString "error: " ++ Text.ofString code ++ Text.ofString ": " ++ e.message))
  | _, _ => .broken e

/-- Carry out a command. -/
def run (settings : Settings) (given : CommandInput) (c : CommandCall) : CommandResult :=
  match (c.command.work settings given).run' false with
  | .error ending => ⟨[], ending⟩
  | .ok work =>
    ⟨c.shownRecords work.records, match work.outcome with
      | .ok v => c.print v
      | .error e => c.failed e⟩

end CommandCall

end BenefitForm
