import BenefitForm.Command

/-!
# The program

`main` reads what a command needs, carries the command out and prints what came
of it.
-/

open BenefitForm

/-- How the program is called. -/
def usage : String :=
  "Usage: benefit-form [-v|--verbose] COMMAND [ARGS]...\n\n" ++
  "Commands:\n" ++
  "  compile RULES [--fields F] [--wallet W] [--title T] [--compact]\n" ++
  "  catalog CATALOG [--prefill P] [--compact]\n" ++
  "  reclassify FORM_DATA SCHEMA --benefit-id ID [--wallet W] [--compact]"

/-- The settings that the environment makes. -/
def environmentSettings : IO (Except Fault Settings) := do
  let found ← Settings.variableNames.filterMapM fun name => do
    return (← IO.getEnv name).map fun value => (Text.ofString name, Text.ofString value)
  return Settings.ofEnvironment found

/-- Read a file. -/
def readFile (name : Text) : IO (Except FileProblem (List UInt8)) := do
  try
    let content ← IO.FS.readBinFile name.asString
    return .ok content.toList
  catch e =>
    match e with
    | .noFileOrDirectory .. => return .error .absent
    | _ => return .error .folder

/-- Read the whole input. -/
partial def readInput (read : ByteArray) : IO ByteArray := do
  let more ← (← IO.getStdin).read 65536
  if more.isEmpty then return read else readInput (read ++ more)

/-- Carry out a command. -/
def carryOut (settings : Settings) (call : CommandCall) : IO UInt32 := do
  let sources := call.command.sources
  let files ← (sources.filter (· ≠ Command.inputName)).mapM fun name => do
    let name := FileName.normalize name
    return (name, ← readFile name)
  let input ← if sources.contains Command.inputName then readInput .empty else pure .empty
  let given : CommandInput :=
    { file := fun name => (Members.get? files name).getD (.error .absent), input := input.toList }
  let result := call.run settings given
  for line in result.errors do
    match line with
    | .text t => IO.eprintln t.asString
    | .record r =>
      match Json.write .spaced r.toJson with
      | .ok t => IO.eprintln t.asString
      | .error _ => pure ()
  match result.ending with
  | .printed output => IO.print output.asString; return 0
  | .refused status report => IO.eprintln report.asString; return status.toUInt32
  | .broken _ => IO.eprintln "error: the input cannot be used"; return 1

/-- The program. -/
def main (args : List String) : IO UInt32 := do
  match CommandLine.read (args.map Text.ofString) with
  | .help => IO.println usage; return 0
  | .misuse => IO.eprintln usage; return 2
  | .call call =>
    match ← environmentSettings with
    | .ok settings => carryOut settings call
    | .error _ => IO.eprintln "error: the settings cannot be read"; return 1
