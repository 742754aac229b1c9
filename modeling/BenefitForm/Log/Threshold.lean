import BenefitForm.Log
import BenefitForm.Failure

/-!
# The threshold of the log

A deployment names the level from which records are kept, in any letter case.
A name that means nothing stands for the usual threshold, but two names are set
aside for the layout of records and are refused.
-/

namespace BenefitForm

/-- Where records go. -/
inductive LogDestination where
  | console
  | file
deriving DecidableEq

/-- The set-up of the log. -/
structure LogSetup where
  /-- The number of the least level that is kept. -/
  threshold : Nat
  /-- Where records go, each written as a JSON object. -/
  destinations : List LogDestination
deriving DecidableEq

/-- The capital letters of a code point, as far as they are ASCII letters. -/
def CodePoint.asciiCapitals (c : CodePoint) : Text :=
  match c.val with
  | 0xDF => Text.ofString "SS"
  | 0x131 => Text.ofString "I"
  | 0x17F => Text.ofString "S"
  | 0xFB00 => Text.ofString "FF"
  | 0xFB01 => Text.ofString "FI"
  | 0xFB02 => Text.ofString "FL"
  | 0xFB03 => Text.ofString "FFI"
  | 0xFB04 => Text.ofString "FFL"
  | 0xFB05 => Text.ofString "ST"
  | 0xFB06 => Text.ofString "ST"
  | _ => [c.asciiUpper]

namespace LogSetup

/-- The names of thresholds. -/
def thresholds : List (String × Nat) :=
  [("CRITICAL", 50), ("FATAL", 50), ("ERROR", 40), ("WARNING", 30), ("WARN", 30), ("INFO", 20),
    ("DEBUG", 10), ("NOTSET", 0)]

/-- The names that are set aside. -/
def reserved : List (String × Fault) :=
  [("BASIC_FORMAT", .invalidValue), ("_STYLES", .wrongKind)]

/-- The usual threshold. -/
def standard : Nat := LogLevel.info.number

/-- The threshold of a name. -/
def thresholdOf (name : Text) : Except Fault Nat :=
  let capitals := name.flatMap CodePoint.asciiCapitals
  match reserved.findSome? fun r => if capitals = Text.ofString r.1 then some r.2 else none with
  | some fault => .error fault
  | none => .ok ((thresholds.findSome? fun t =>
      if capitals = Text.ofString t.1 then some t.2 else none).getD standard)

/-- The set-up for a chosen name, or for that of the environment where none is chosen. -/
def choose (chosen? environment? : Option Text) : Except Fault LogSetup := do
  let name := match chosen? with
    | some name => if name.isEmpty then environment? else some name
    | none => environment?
  let threshold ← match name with
    | some name => thresholdOf name
    | none => .ok standard
  return ⟨threshold, [.console, .file]⟩

end LogSetup

end BenefitForm
