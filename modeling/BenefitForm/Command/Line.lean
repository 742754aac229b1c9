import BenefitForm.Text

/-!
# The command line

A command line is options of the program, the name of a command, and the
command's own options and operands in any order. `CommandLine.read` says what it
asks for: a command, help, or nothing that makes sense.

An option is written with two hyphens and takes its value from the same word,
after an equals sign, or from the next one; of an option given twice the last
value counts. A word of two hyphens ends the options, and a single hyphen is an
operand.
-/

namespace BenefitForm

/-- What the program is asked to do. -/
inductive Command where
  /-- Compile a rule feed, with fields and a wallet where they are given. -/
  | compile (rules : Text) (fields? wallet? : Option Text) (title : Text)
  /-- Compile the form of a catalog answer. -/
  | catalog (answer : Text) (prefill? : Option Text)
  /-- Split filled values by a schema. -/
  | reclassify (data schema benefit : Text) (wallet? : Option Text)
deriving DecidableEq

/-- A command and how it is carried out. -/
structure CommandCall where
  /-- Whether the log is shown. -/
  verbose : Bool
  /-- Whether the output has one line. -/
  compact : Bool
  /-- The command. -/
  command : Command
deriving DecidableEq

/-- What a command line asks for. -/
inductive CommandLine where
  | call (c : CommandCall)
  | help
  | misuse
deriving DecidableEq

/-- An option: its name, its letter where it has one, and whether it takes a value. -/
structure OptionShape where
  name : String
  letter? : Option Char := none
  takesValue : Bool := false

/-- The options and operands that were found. -/
structure FoundOptions where
  /-- The options in order, each with its value or the empty text. -/
  options : List (String × Text) := []
  /-- The operands in order. -/
  operands : List Text := []

namespace FoundOptions

/-- The last value of an option. -/
def value? (f : FoundOptions) (name : String) : Option Text :=
  (f.options.reverse.find? fun o => o.1 = name).map (·.2)

/-- Whether an option is there. -/
def has (f : FoundOptions) (name : String) : Bool := (f.value? name).isSome

/-- The options with one more. -/
def add (f : FoundOptions) (name : String) (value : Text) : FoundOptions :=
  { f with options := f.options ++ [(name, value)] }

end FoundOptions

namespace CommandLine

/-- The options that a word of letters stands for, where each is known and takes no value. -/
def letters? (shapes : List OptionShape) (word : Text) : Option (List String) :=
  (word.drop 1).mapM fun c =>
    (shapes.find? fun s => !s.takesValue && s.letter?.any fun l => CodePoint.ofChar l = c).map
      (·.name)

/-- Find options and operands. Where operands may not stand among the options, the first word that
is no option ends them. Returns the words that are left. -/
def collect (shapes : List OptionShape) (mixed : Bool) (f : FoundOptions) :
    List Text → Option (FoundOptions × List Text)
  | [] => some (f, [])
  | word :: rest =>
    let isOption := (word.head?.map (·.val)) = some 0x2D && word.length > 1
    if word = Text.ofString "--" then
      if mixed then some ({ f with operands := f.operands ++ rest }, []) else some (f, rest)
    else if isOption then
      let name := word.takeWhile (·.val ≠ 0x3D)
      let attached? :=
        if name.length < word.length then some (word.drop (name.length + 1)) else none
      match shapes.find? fun s => Text.ofString ("--" ++ s.name) = name with
      | some shape =>
        if shape.takesValue then
          match attached?, rest with
          | some value, rest => collect shapes mixed (f.add shape.name value) rest
          | none, value :: rest => collect shapes mixed (f.add shape.name value) rest
          | none, [] => none
        else if attached?.isSome then none
        else collect shapes mixed (f.add shape.name []) rest
      | none =>
        if (Text.ofString "--").isPrefixOf word then none
        else match letters? shapes word with
          | some names =>
            collect shapes mixed (names.foldl (fun f name => f.add name []) f) rest
          | none => none
    else if mixed then collect shapes mixed { f with operands := f.operands ++ [word] } rest
    else some (f, word :: rest)

/-- The option that asks for help. -/
def helpOption : OptionShape := { name := "help" }

/-- The options of the program. -/
def programOptions : List OptionShape :=
  [{ name := "verbose", letter? := some 'v' }, helpOption]

/-- The options of a command. -/
def commandOptions : String → List OptionShape
  | "compile" =>
    [{ name := "fields", takesValue := true }, { name := "wallet", takesValue := true },
      { name := "title", takesValue := true }, { name := "compact" }, helpOption]
  | "catalog" => [{ name := "prefill", takesValue := true }, { name := "compact" }, helpOption]
  | _ =>
    [{ name := "benefit-id", takesValue := true }, { name := "wallet", takesValue := true },
      { name := "compact" }, helpOption]

/-- The command of a name with its options and operands. -/
def command? (name : String) (f : FoundOptions) : Option Command :=
  match name, f.operands with
  | "compile", [rules] =>
    some (.compile rules (f.value? "fields") (f.value? "wallet") ((f.value? "title").getD []))
  | "catalog", [answer] => some (.catalog answer (f.value? "prefill"))
  | "reclassify", [data, schema] =>
    (f.value? "benefit-id").map fun benefit => .reclassify data schema benefit (f.value? "wallet")
  | _, _ => none

/-- The names of the commands. -/
def commandNames : List String := ["compile", "catalog", "reclassify"]

/-- What a command line asks for. -/
def read (words : List Text) : CommandLine :=
  match collect programOptions false {} words with
  | none => .misuse
  | some (f, rest) =>
    if f.has "help" then .help
    else match rest with
      | [] => .misuse
      | word :: rest =>
        match commandNames.find? fun name => Text.ofString name = word with
        | none => .misuse
        | some name =>
          match collect (commandOptions name) true {} rest with
          | none => .misuse
          | some (g, _) =>
            if g.has "help" then .help
            else match command? name g with
              | some c => .call ⟨f.has "verbose", g.has "compact", c⟩
              | none => .misuse

end CommandLine

end BenefitForm
