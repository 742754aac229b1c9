import BenefitForm.Property
import BenefitForm.Warning

/-!
# Registry of a compilation

A `Registry` collects the properties of one compilation under their names. The
first property of a name stays; a later one is left out with a warning
(`Registry.add`). A `Fragment` is what a registry holds at some moment.
-/

namespace BenefitForm

/-- Part of a form schema, as one builder leaves it. -/
structure Fragment where
  /-- The properties, in the order they were added; their names differ. -/
  properties : List FormProperty := []
  /-- The names of the required ones, in that order. -/
  required : List Text := []
  /-- What was found on the way. -/
  warnings : List CompilationWarning := []

/-- The properties and warnings of one compilation. -/
structure Registry where
  /-- The properties, in the order they were added. -/
  properties : List FormProperty := []
  /-- The names of the required ones, in that order. -/
  required : List Text := []
  /-- The warnings, in the order they arose. -/
  warnings : List CompilationWarning := []

namespace CompilationWarning

/-- The log record that a registry writes with a warning; without a name it shows a dash. -/
def record (w : CompilationWarning) : LogRecord :=
  .ofField .warning .registry (if w.fieldName.truthy then w.fieldName else Json.text "-") w.message

end CompilationWarning

namespace Registry

/-- Whether a name is taken. -/
def contains (r : Registry) (name : Text) : Bool := r.properties.any fun p => p.name == name

/-- How many properties there are. -/
def size (r : Registry) : Nat := r.properties.length

/-- Record a warning. -/
def warn (r : Registry) (w : CompilationWarning) : Registry :=
  { r with warnings := r.warnings ++ [w] }

/-- Take over warnings that another stage has logged. -/
def adopt (r : Registry) (ws : List CompilationWarning) : Registry :=
  { r with warnings := r.warnings ++ ws }

/-- Add a property, and say whether its name was free. -/
def add (r : Registry) (p : FormProperty) : Registry × Bool :=
  if r.contains p.name then (r.warn (.duplicate (.text p.name)), false)
  else ({ r with
    properties := r.properties ++ [p]
    required := if p.required then r.required ++ [p.name] else r.required }, true)

/-- Add properties in order. -/
def addAll (r : Registry) (ps : List FormProperty) : Registry :=
  ps.foldl (fun r p => (r.add p).1) r

/-- What the registry holds. -/
def fragment (r : Registry) : Fragment := ⟨r.properties, r.required, r.warnings⟩

/-- The log records of the warnings that came after an earlier state. -/
def recordsSince (earlier later : Registry) : List LogRecord :=
  (later.warnings.drop earlier.warnings.length).map CompilationWarning.record

end Registry

/-- How a builder ends: the registry as it leaves it, also where it fails, what it logged, and
the fragment. -/
structure Built where
  /-- The registry afterwards. -/
  registry : Registry
  /-- The log records, in order. -/
  records : List LogRecord
  /-- The fragment, or why there is none. -/
  outcome : Except Failure Fragment

namespace Built

/-- The builder's trace without the registry. -/
def trace (b : Built) : Trace Fragment := ⟨b.records, b.outcome⟩

end Built

namespace Fragment

/-- The fragment as a JSON schema. -/
def toJson (f : Fragment) : Json :=
  Json.record [("type", Json.text "object"),
    ("properties", .object (f.properties.map fun p => (p.name, p.toJson))),
    ("required", Json.ofTexts f.required)]

end Fragment

end BenefitForm
