import BenefitForm.Pattern.Reader
import BenefitForm.Validation.Violation

/-!
# What a schema asks of a value

`Json.findings schema v` lists what the schema does not allow about a value,
keyword by keyword in the order the schema has them. The keywords that count are
those of `Assertion`; the others say nothing about values. A schema may also be
a truth value: `true` allows everything and `false` nothing.

A finding below a property or an item has that step in its path, with one
exception: where the schema of a property is `false`, the finding stands at the
object itself. `items` holds one schema for all items or a list of schemas for
the first ones; a list is no schema, so `findingsAt` has nothing to say for it.
-/

namespace BenefitForm

/-- The keywords that restrict values. -/
inductive Assertion where
  | type
  | enum
  | const
  | pattern
  | minLength
  | maxLength
  | minimum
  | maximum
  | required
  | properties
  | items
  | additionalProperties
deriving DecidableEq

/-- The keyword of a name. -/
def Assertion.ofName? (name : Text) : Option Assertion :=
  [("type", Assertion.type), ("enum", .enum), ("const", .const), ("pattern", .pattern),
    ("minLength", .minLength), ("maxLength", .maxLength), ("minimum", .minimum),
    ("maximum", .maximum), ("required", .required), ("properties", .properties),
    ("items", .items), ("additionalProperties", .additionalProperties)].findSome?
    fun (e : String × Assertion) => if name = Text.ofString e.1 then some e.2 else none

/-- The types of values. -/
inductive ValueType where
  | array
  | boolean
  | integer
  | null
  | number
  | object
  | string
deriving DecidableEq

namespace ValueType

/-- The names of the types. -/
def names : List (String × ValueType) :=
  [("array", .array), ("boolean", .boolean), ("integer", .integer), ("null", .null),
    ("number", .number), ("object", .object), ("string", .string)]

/-- The type of a name. -/
def ofName? (name : Text) : Option ValueType :=
  names.findSome? fun e => if name = Text.ofString e.1 then some e.2 else none

/-- Whether a value has a type. A floating-point number without a fraction is an integer, and
truth values are no numbers. -/
def holds (v : Json) : ValueType → Bool
  | .array => v.asArray?.isSome
  | .boolean => v.asBool?.isSome
  | .integer =>
    match v with
    | .int _ => true
    | .float x => x.toInt?.isSome
    | _ => false
  | .null => v.isNull
  | .number =>
    match v with
    | .int _ => true
    | .float _ => true
    | _ => false
  | .object => v.asObject?.isSome
  | .string => v.asText?.isSome

end ValueType

namespace Json

/-- Whether a subject has the type that a value names. -/
def hasTypeNamed (s : Subject) (type : Json) : Bool :=
  match type with
  | .string name => (ValueType.ofName? name).any fun t =>
    match s with
    | .json v => t.holds v
    | .keyed _ => t = .object
  | _ => false

/-- Whether one number is less than another; values that are no numbers are not. -/
def isLess (v w : Json) : Bool :=
  match v.number?, w.number? with
  | some m, some n => m.compare? n == some .lt
  | _, _ => false

/-- Whether a subject is a constant; an object with a key that is no text is none. -/
def isConstant (s : Subject) (constant : Json) : Bool := s.asJson?.any (sameConstant constant)

/-- What a keyword without subschemas does not allow about a value. -/
def violations (k : Assertion) (argument : Json) (s : Subject) : List Violation :=
  match k, s with
  | .type, s =>
    let types := match argument with
      | .array types => types
      | t => [t]
    if types.any (hasTypeNamed s) then [] else [.type s types]
  | .enum, s =>
    let allowed := argument.asArray?.getD []
    if allowed.any (isConstant s) then [] else [.unlisted s allowed]
  | .const, s => if isConstant s argument then [] else [.constant argument]
  | .pattern, .json (.string t) =>
    match argument with
    | .string p => if (Pattern.read? p).any (·.search t) then [] else [.pattern t p]
    | _ => []
  | .minLength, .json (.string t) =>
    if isLess (.int t.length) argument then [.tooShort t argument] else []
  | .maxLength, .json (.string t) =>
    if isLess argument (.int t.length) then [.tooLong t argument] else []
  -- truth values compare as numbers, but they are none
  | .minimum, .json v =>
    if ValueType.number.holds v && isLess v argument then [.tooSmall v argument] else []
  | .maximum, .json v =>
    if ValueType.number.holds v && isLess argument v then [.tooGreat v argument] else []
  | .required, s =>
    match s.entries? with
    | none => []
    | some entries =>
      ((argument.asArray?.getD []).filterMap asText?).filterMap fun name =>
        if Members.contains entries (.text name) then none else some (.missing name)
  | _, _ => []

/-- The members of an object that a schema's `properties` do not declare. -/
def undeclared (siblings : Members) (entries : Entries) : Entries :=
  match member siblings "properties" with
  | .object declared =>
    entries.filter fun e => !e.1.asText?.any (Members.contains declared)
  | _ => entries

/-- The positions and items of a list, from a position on. -/
def positioned (n : Nat) : List Json → List (Text × Json)
  | [] => []
  | v :: rest => (Text.ofNat n, v) :: positioned (n + 1) rest

mutual

/-- What a schema does not allow about a part of a value. -/
def findingsAt : Json → Text → Json → List Finding
  | .bool allowed, _, v => if allowed then [] else [⟨[], .refused (.json v)⟩]
  | .object keywords, step, v =>
    (keywordFindings keywords keywords (.json v)).map (Finding.within step)
  | _, _, _ => []
termination_by structural schema => schema

/-- What a schema's keywords do not allow about a value; `siblings` are all of them. -/
def keywordFindings (siblings : Members) : List (Text × Json) → Subject → List Finding
  | [], _ => []
  | (name, argument) :: rest, s =>
    (match Assertion.ofName? name with
      | none => []
      | some .properties =>
        match argument, s.entries? with
        | .object schemas, some entries => propertyFindings schemas entries
        | _, _ => []
      | some .items =>
        match s with
        | .json (.array items) =>
          -- a list of schemas is for the first items alone, and one schema for all of them
          (match argument with
            | .array schemas => leadingFindings schemas (positioned 0 items)
            | _ => []) ++ (positioned 0 items).flatMap fun i => findingsAt argument i.1 i.2
        | _ => []
      | some .additionalProperties =>
        match s.entries? with
        | some entries =>
          let extras := undeclared siblings entries
          match argument.asBool? with
          | some allowed =>
            if allowed || extras.isEmpty then []
            else [⟨[], .unexpected (Members.keys extras)⟩]
          | none => extras.flatMap fun e => findingsAt argument e.1.label e.2
        | none => []
      | some k => (violations k argument s).map (⟨[], ·⟩)) ++ keywordFindings siblings rest s
termination_by structural keywords => keywords

/-- What the schemas of properties do not allow about those that an object has. -/
def propertyFindings : List (Text × Json) → Entries → List Finding
  | [], _ => []
  | (name, schema) :: rest, entries =>
    (match Members.get? entries (.text name) with
      | some v => findingsAt schema name v
      | none => []) ++ propertyFindings rest entries
termination_by structural schemas => schemas

/-- What schemas do not allow about the items they stand beside. -/
def leadingFindings : List Json → List (Text × Json) → List Finding
  | schema :: schemas, (step, v) :: rest =>
    findingsAt schema step v ++ leadingFindings schemas rest
  | _, _ => []
termination_by structural schemas => schemas

end

/-- What a schema does not allow about a value. -/
def findings : Json → Subject → List Finding
  | .bool allowed, s => if allowed then [] else [⟨[], .refused s⟩]
  | .object keywords, s => keywordFindings keywords keywords s
  | _, _ => []

end Json

end BenefitForm
