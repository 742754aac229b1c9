import BenefitForm.Validation.Conformance

/-!
# Well-formed schemas

A schema is a truth value or an object, and the argument of each keyword has the
form that the keyword asks for; names that are no keywords may hold anything.

- `Json.schemaProblems`: all that keeps a value from being a schema, with the path
  to each part in question, in the order of `schemaVocabulary`, not in that in which
  the schema has its keywords.
- `SchemaFinding.mostRelevant?`: the one that is reported. The fewer steps lead to
  it, the more of the schema is in question.
- `Json.schemaProblem?`: the problem that is reported, unless a pattern cannot even
  be looked at.
-/

namespace BenefitForm

/-- What the argument of a keyword has to be. -/
inductive KeywordForm where
  | anything
  | text
  | pattern
  | flag
  | number
  /-- A number greater than zero. -/
  | positive
  /-- A whole number from zero on. -/
  | count
  | list
  /-- A list of different texts. -/
  | names
  /-- The name of a type, or a list of different ones. -/
  | types
  | schema
  /-- A list of schemas, not empty. -/
  | schemas
  | schemaOrSchemas
  /-- An object whose values are schemas. -/
  | schemaMap
  /-- An object whose values are schemas and whose keys are patterns. -/
  | patternMap
  /-- An object whose values are schemas or lists of different texts. -/
  | schemaOrNamesMap
deriving DecidableEq

/-- The keywords and their forms, in the order in which they are looked at. -/
def schemaVocabulary : List (String × KeywordForm) :=
  [("$id", .text), ("$schema", .text), ("$ref", .text), ("$comment", .text), ("title", .text),
    ("description", .text), ("default", .anything), ("readOnly", .flag), ("examples", .list),
    ("multipleOf", .positive), ("maximum", .number), ("exclusiveMaximum", .number),
    ("minimum", .number), ("exclusiveMinimum", .number), ("maxLength", .count),
    ("minLength", .count), ("pattern", .pattern), ("additionalItems", .schema),
    ("items", .schemaOrSchemas), ("maxItems", .count), ("minItems", .count),
    ("uniqueItems", .flag), ("contains", .schema), ("maxProperties", .count),
    ("minProperties", .count), ("required", .names), ("additionalProperties", .schema),
    ("definitions", .schemaMap), ("properties", .schemaMap), ("patternProperties", .patternMap),
    ("dependencies", .schemaOrNamesMap), ("propertyNames", .schema), ("const", .anything),
    ("enum", .list), ("type", .types), ("format", .text), ("contentMediaType", .text),
    ("contentEncoding", .text), ("if", .schema), ("then", .schema), ("else", .schema),
    ("allOf", .schemas), ("anyOf", .schemas), ("oneOf", .schemas), ("not", .schema)]

/-- Why a schema is not well formed. -/
inductive SchemaProblem where
  /-- The value has none of the types. -/
  | type (v : Json) (types : List String)
  /-- The count is less than zero. -/
  | negative (v : Json)
  /-- The number is not greater than zero. -/
  | notPositive (v : Json)
  /-- The text is no pattern. -/
  | pattern (t : Text) (why : PatternProblem)
  /-- The list is empty. -/
  | empty (v : Json)
  /-- The list has an item twice. -/
  | repeated (v : Json)
  /-- The value has none of the forms that the keyword allows. -/
  | noForm (v : Json)

namespace SchemaProblem

/-- The problem in words. -/
def message : SchemaProblem → Except Fault Text
  | .type v types => do
    let shown ← v.display
    return shown ++ Text.ofString " is not of type "
      ++ Text.join (Text.ofString ", ") (types.map fun t => (Text.ofString t).quoted)
  | .negative v => do
    let shown ← v.display
    return shown ++ Text.ofString " is less than the minimum of 0"
  | .notPositive v => do
    let shown ← v.display
    return shown ++ Text.ofString " is less than or equal to the minimum of 0"
  | .pattern t _ => .ok (t.quoted ++ Text.ofString " is not a 'regex'")
  | .empty v => do
    let shown ← v.display
    return shown ++ Text.ofString " should be non-empty"
  | .repeated v => do
    let shown ← v.display
    return shown ++ Text.ofString " has non-unique elements"
  | .noForm v => do
    let shown ← v.display
    return shown ++ Text.ofString " is not valid under any of the given schemas"

/-- The fault that a pattern is beyond what can be looked at. -/
def fault? : SchemaProblem → Option Fault
  | .pattern _ .tooLarge => some .tooLarge
  | .pattern _ .invalid => some .invalidValue
  | .pattern _ .tooDeep => some .tooDeep
  | _ => none

end SchemaProblem

/-- A step from a schema to a part of it. -/
inductive SchemaStep where
  | name (t : Text)
  | position (n : Nat)
deriving DecidableEq

/-- Whether one step comes after another at the same place. -/
def SchemaStep.isAfter : SchemaStep → SchemaStep → Bool
  | .name t, .name u => !Text.le t u
  | .position m, .position n => n < m
  | _, _ => false

/-- A problem and the path to the part of the schema that has it. -/
structure SchemaFinding where
  path : List SchemaStep
  problem : SchemaProblem

namespace SchemaFinding

/-- A problem of the schema itself. -/
def here (p : SchemaProblem) : SchemaFinding := ⟨[], p⟩

/-- The same problem one step further down. -/
def within (step : SchemaStep) (f : SchemaFinding) : SchemaFinding :=
  { f with path := step :: f.path }

/-- Whether one path comes after another of the same length. -/
def isAfter : List SchemaStep → List SchemaStep → Bool
  | s :: p, t :: q => if s = t then isAfter p q else s.isAfter t
  | _, _ => false

/-- Whether a problem is more relevant than another: it has fewer steps in its path, or as many and
comes later. -/
def isMoreRelevant (f g : SchemaFinding) : Bool :=
  if f.path.length = g.path.length then isAfter f.path g.path
  else f.path.length < g.path.length

/-- The most relevant problem; of two on one path the first. -/
def mostRelevant? : List SchemaFinding → Option SchemaFinding
  | [] => none
  | f :: rest => some (rest.foldl (fun best g => if g.isMoreRelevant best then g else best) f)

/-- What keeps a value from having either of two forms: that it has none of them, but a pattern
that cannot be looked at counts by itself. -/
def either (v : Json) (first second : List SchemaFinding) : List SchemaFinding :=
  (first ++ second).filter (·.problem.fault?.isSome)
    ++ if first.isEmpty || second.isEmpty then [] else [here (.noForm v)]

end SchemaFinding

namespace Json

open SchemaFinding

/-- Whether an item occurs again later in its list. -/
def hasRepeats : List Json → Bool
  | [] => false
  | v :: rest => rest.any (sameConstant v) || hasRepeats rest

/-- Why a value has none of the types. -/
def typeProblems (types : List (String × ValueType)) (v : Json) : List SchemaProblem :=
  if types.any fun t => t.2.holds v then [] else [.type v (types.map (·.1))]

/-- Why a value is no text. -/
def textProblems (v : Json) : List SchemaProblem := typeProblems [("string", .string)] v

/-- Why a text is no pattern. -/
def patternProblems (t : Text) : List SchemaProblem :=
  match Pattern.read t with
  | .ok _ => []
  | .error why => [.pattern t why]

/-- Why the keys of an object are no patterns. -/
def keyProblems : Json → List SchemaFinding
  | .object members => (members.flatMap fun m => patternProblems m.1).map here
  | _ => []

/-- The problems of items at their positions, from a position on. -/
def atPositions (problems : Json → List SchemaProblem) : Nat → List Json → List SchemaFinding
  | _, [] => []
  | n, v :: rest =>
    (problems v).map (fun p => (here p).within (.position n)) ++ atPositions problems (n + 1) rest

/-- Why a value is no list of different texts. -/
def namesProblems : Json → List SchemaFinding
  | .array items =>
    atPositions textProblems 0 items
      ++ if hasRepeats items then [here (.repeated (.array items))] else []
  | v => (typeProblems [("array", .array)] v).map here

/-- Whether a value names a type. -/
def isTypeName (v : Json) : Bool := (v.asText?.bind ValueType.ofName?).isSome

/-- Whether a value names a type, or several different ones. -/
def namesTypes : Json → Bool
  | .array items => !items.isEmpty && items.all isTypeName && !hasRepeats items
  | v => v.isTypeName

/-- Why a value has not a form that is not about schemas. -/
def plainProblems (form : KeywordForm) (v : Json) : List SchemaFinding :=
  match form with
  | .text => (textProblems v).map here
  | .pattern =>
    (match v with
      | .string t => patternProblems t
      | v => textProblems v).map here
  | .flag => (typeProblems [("boolean", .boolean)] v).map here
  | .number => (typeProblems [("number", .number)] v).map here
  | .positive =>
    let tooSmall := isLess v (.int 0) || equal v (.int 0)
    (typeProblems [("number", .number)] v
      ++ if tooSmall then [SchemaProblem.notPositive v] else []).map here
  | .count =>
    (typeProblems [("integer", .integer)] v
      ++ if isLess v (.int 0) then [SchemaProblem.negative v] else []).map here
  | .list => (typeProblems [("array", .array)] v).map here
  | .names => namesProblems v
  | .types => if v.namesTypes then [] else [here (.noForm v)]
  | _ => []

/-- The problems of keywords in the order of the vocabulary. -/
def inVocabularyOrder (problems : List (Text × List SchemaFinding)) : List SchemaFinding :=
  schemaVocabulary.flatMap fun k => (Members.get? problems (Text.ofString k.1)).getD []

/-- The form of the argument that goes with a name. -/
def keywordForm (name : Text) : KeywordForm :=
  (schemaVocabulary.findSome? fun k => if name = Text.ofString k.1 then some k.2 else none).getD
    .anything

mutual

/-- All that keeps a value from being a schema. -/
def schemaProblems : Json → List SchemaFinding
  | .bool _ => []
  | .object keywords => inVocabularyOrder (keywordProblems keywords)
  | v => [here (.type v ["object", "boolean"])]
termination_by structural v => v

/-- The problems in the argument of each keyword. -/
def keywordProblems : List (Text × Json) → List (Text × List SchemaFinding)
  | [] => []
  | (name, argument) :: rest =>
    (name, (match keywordForm name with
      | .schema => schemaProblems argument
      | .schemas => schemaListProblems argument
      | .schemaOrSchemas => either argument (schemaProblems argument) (schemaListProblems argument)
      | .schemaMap => schemaMapProblems argument
      | .patternMap => schemaMapProblems argument ++ keyProblems argument
      | .schemaOrNamesMap => dependenciesProblems argument
      | form => plainProblems form argument).map (within (.name name))) :: keywordProblems rest
termination_by structural keywords => keywords

/-- Why a value is no list of schemas. -/
def schemaListProblems : Json → List SchemaFinding
  | .array [] => [here (.empty (.array []))]
  | .array (v :: rest) => itemProblems 0 (v :: rest)
  | v => [here (.type v ["array"])]
termination_by structural v => v

/-- The problems of the schemas in a list, from a position on. -/
def itemProblems (n : Nat) : List Json → List SchemaFinding
  | [] => []
  | v :: rest => (schemaProblems v).map (within (.position n)) ++ itemProblems (n + 1) rest
termination_by structural schemas => schemas

/-- Why a value is no object of schemas. -/
def schemaMapProblems : Json → List SchemaFinding
  | .object members => memberProblems members
  | v => [here (.type v ["object"])]
termination_by structural v => v

/-- The problems of the schemas in an object. -/
def memberProblems : List (Text × Json) → List SchemaFinding
  | [] => []
  | (name, v) :: rest => (schemaProblems v).map (within (.name name)) ++ memberProblems rest
termination_by structural members => members

/-- Why a value is no object of schemas and lists of names. -/
def dependenciesProblems : Json → List SchemaFinding
  | .object members => dependencyProblems members
  | v => [here (.type v ["object"])]
termination_by structural v => v

/-- The problems of the schemas and lists of names in an object. -/
def dependencyProblems : List (Text × Json) → List SchemaFinding
  | [] => []
  | (name, v) :: rest =>
    (either v (schemaProblems v) (namesProblems v)).map (within (.name name))
      ++ dependencyProblems rest
termination_by structural members => members

end

/-- What is reported of a value that is no schema. -/
def schemaProblem? (v : Json) : Except Fault (Option SchemaProblem) :=
  let problems := v.schemaProblems
  match problems.findSome? (·.problem.fault?) with
  | some fault => .error fault
  | none => .ok ((mostRelevant? problems).map (·.problem))

end Json

end BenefitForm
