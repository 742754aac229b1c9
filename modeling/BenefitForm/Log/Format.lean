import BenefitForm.Log
import BenefitForm.Text.Directive

/-!
# The written form of a log entry

Whoever writes to the log hands in a `LogEntry`: a level by its number, the name
of the logger, a message with directives and their arguments, attributes and at
times an error. `LogEntry.format` is the object that is written: level, logger
and message, then those of the attributes that the log knows, in a fixed order,
then the error.
-/

namespace BenefitForm

/-- An error that an entry reports. -/
structure LoggedError where
  /-- The kind of error. -/
  kind : Text
  /-- What the error says. -/
  message : Text

/-- What is handed to the log. -/
structure LogEntry where
  /-- The number of the level. -/
  level : Int
  /-- The name of the logger. -/
  logger : Text
  /-- The message, any value. -/
  message : Json
  /-- The values for the directives of the message. -/
  arguments : List Json
  /-- The attributes. -/
  attributes : Members
  /-- The error that is reported. -/
  error? : Option LoggedError

/-- The names of the levels. -/
def levelNames : List (Int × String) :=
  [(50, "CRITICAL"), (40, "ERROR"), (30, "WARNING"), (20, "INFO"), (10, "DEBUG"), (0, "NOTSET")]

/-- The name of a level, or its number where it has none. -/
def levelText (level : Int) : Text :=
  match levelNames.lookup level with
  | some name => Text.ofString name
  | none => Text.ofString "Level " ++ Text.ofInt level

/-- The attributes that the log knows, in the order in which they are written. -/
def knownAttributes : List String :=
  ["request_id", "route", "remote_addr", "benefit_id", "field_name"]

/-- The line about an error: its kind and, where it says anything, its message. -/
def LoggedError.line (e : LoggedError) : Text :=
  if e.message.isEmpty then e.kind else e.kind ++ Text.ofString ": " ++ e.message

namespace LogEntry

/-- The message with its arguments. A message without arguments has no directives. -/
def filledMessage (e : LogEntry) : Except Fault Text := do
  let message ← e.message.plain
  if e.arguments.isEmpty then return message
  Directive.fill message e.arguments

/-- The object that is written. -/
def format (e : LogEntry) : Except Fault Members := do
  let message ← e.filledMessage
  return [(Text.ofString "level", .string (levelText e.level)),
      (Text.ofString "logger", .string e.logger), (Text.ofString "msg", .string message)]
    ++ knownAttributes.filterMap (fun name =>
      (Members.get? e.attributes (Text.ofString name)).map (Text.ofString name, ·))
    ++ (e.error?.map fun error => (Text.ofString "exc_info", Json.string error.line)).toList

end LogEntry

end BenefitForm
