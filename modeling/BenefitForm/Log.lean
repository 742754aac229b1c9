import BenefitForm.Failure
import BenefitForm.Json

/-!
# Log records and traced computations

A computation reports what it meets in log records. `Trace α` is such a
computation as a value: the records in the order they were written, and the
result or the failure that ended it. Records written before a failure are kept.
-/

namespace BenefitForm

/-- How serious a log record is. -/
inductive LogLevel where
  | debug
  | info
  | warning
  | error
deriving DecidableEq

namespace LogLevel

/-- The name of a level. -/
def name : LogLevel → String
  | .debug => "DEBUG"
  | .info => "INFO"
  | .warning => "WARNING"
  | .error => "ERROR"

/-- The number of a level; a more serious level has a greater number. -/
def number : LogLevel → Nat
  | .debug => 10
  | .info => 20
  | .warning => 30
  | .error => 40

end LogLevel

/-- The part of the program that writes a record. -/
inductive LogSource where
  | rules
  | documents
  | fields
  | registry
  | matcher
  | assembler
  | submission
  | catalog
  | prefill
  | compiler
  | validation
deriving DecidableEq

/-- The name of a source in the log. -/
def LogSource.name : LogSource → String
  | .rules => "app.benefits.rules"
  | .documents => "app.benefits.documents"
  | .fields => "app.benefits.fields"
  | .registry => "app.benefits.registry"
  | .matcher => "app.benefits.matcher"
  | .assembler => "app.benefits.assembler"
  | .submission => "app.benefits.submission"
  | .catalog => "app.benefits.catalog"
  | .prefill => "app.benefits.prefill"
  | .compiler => "app.benefits.compiler"
  | .validation => "app.benefits.validation"

/-- One entry of the log. -/
structure LogRecord where
  /-- How serious it is. -/
  level : LogLevel
  /-- Where it was written. -/
  source : LogSource
  /-- What it says. -/
  message : Text
  /-- The benefit it is about. -/
  benefitId? : Option Json
  /-- The field it is about. -/
  fieldName? : Option Json

namespace LogRecord

/-- A record about no benefit or field in particular. -/
def plain (level : LogLevel) (source : LogSource) (message : Text) : LogRecord :=
  ⟨level, source, message, none, none⟩

/-- A record about a field. -/
def ofField (level : LogLevel) (source : LogSource) (field : Json) (message : Text) : LogRecord :=
  ⟨level, source, message, none, some field⟩

/-- The record as a JSON object. -/
def toJson (r : LogRecord) : Json :=
  .object ([(Text.ofString "level", Json.text r.level.name),
    (Text.ofString "logger", Json.text r.source.name), (Text.ofString "msg", .string r.message)]
    ++ (r.benefitId?.map fun b => (Text.ofString "benefit_id", b)).toList
    ++ (r.fieldName?.map fun f => (Text.ofString "field_name", f)).toList)

end LogRecord

/-- A computation with the records it wrote and the way it ended. -/
structure Trace (α : Type) where
  /-- The records, in order. -/
  records : List LogRecord
  /-- The result, or why there is none. -/
  outcome : Except Failure α

namespace Trace

variable {α β : Type}

/-- A computation that writes nothing. -/
def ofExcept (e : Except Failure α) : Trace α := ⟨[], e⟩

/-- Write one record. -/
def note (r : LogRecord) : Trace Unit := ⟨[r], .ok ()⟩

/-- Write records. -/
def notes (rs : List LogRecord) : Trace Unit := ⟨rs, .ok ()⟩

/-- Continue a computation that gave a result. -/
def andThen (x : Trace α) (f : α → Trace β) : Trace β :=
  match x.outcome with
  | .error e => ⟨x.records, .error e⟩
  | .ok a => ⟨x.records ++ (f a).records, (f a).outcome⟩

instance : Monad Trace where
  pure a := ⟨[], .ok a⟩
  bind := andThen

instance : MonadLift (Except Failure) Trace := ⟨ofExcept⟩

end Trace

end BenefitForm
