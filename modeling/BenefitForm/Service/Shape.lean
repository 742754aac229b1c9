import BenefitForm.Json.Equal

/-!
# Shapes of request contents

The content of a request is an object whose fields have shapes. `Shape.problems`
says what keeps a value from having a shape, with the place of each problem;
where a field has a choice of shapes and has none of them, the problems of every
choice are named, below the name of the choice (`Shape.name`).
-/

namespace BenefitForm

/-- A step from a value to one of its parts. -/
inductive PlaceStep where
  | key (t : Text)
  | index (n : Nat)
deriving DecidableEq

/-- What is wrong with a part of a request. -/
inductive ProblemKind where
  /-- A field that has to be there is not. -/
  | missing
  /-- The content is not JSON. -/
  | unreadable
  /-- The content is no object. -/
  | notFields
  | notText
  | notList
  | notObject
deriving DecidableEq

/-- A problem and where it is. -/
structure InputProblem where
  /-- What is wrong. -/
  kind : ProblemKind
  /-- The steps to the part that is wrong. -/
  place : List PlaceStep
deriving DecidableEq

/-- The same problem one step further down. -/
def InputProblem.within (step : PlaceStep) (p : InputProblem) : InputProblem :=
  { p with place := step :: p.place }

/-- What a value has to be. -/
inductive Shape where
  | anything
  | text
  /-- A list whose items have a shape. -/
  | list (item : Shape)
  /-- An object whose values have a shape. -/
  | object (value : Shape)
  /-- One of two shapes. -/
  | either (a b : Shape)
  /-- Null, or a value of the shape. -/
  | optional (s : Shape)

namespace Shape

/-- The name of a shape among choices. -/
def name : Shape → String
  | anything => "any"
  | text => "str"
  | list item => "list[" ++ item.name ++ "]"
  | object value => "dict[str," ++ value.name ++ "]"
  | either a b => "union[" ++ a.name ++ "," ++ b.name ++ "]"
  | optional s => "nullable[" ++ s.name ++ "]"

/-- The step to a choice. -/
def step (s : Shape) : PlaceStep := .key (Text.ofString s.name)

/-- The problems of the items of a list, from a position on. -/
def itemProblems (problems : Json → List InputProblem) (n : Nat) : List Json → List InputProblem
  | [] => []
  | v :: rest =>
    (problems v).map (InputProblem.within (.index n)) ++ itemProblems problems (n + 1) rest

/-- What keeps a value from having a shape. -/
def problems : Shape → Json → List InputProblem
  | anything, _ => []
  | text, v => if v.asText?.isSome then [] else [⟨.notText, []⟩]
  | list item, v =>
    match v with
    | .array items => itemProblems item.problems 0 items
    | _ => [⟨.notList, []⟩]
  | object value, v =>
    match v with
    | .object members =>
      members.flatMap fun m => (value.problems m.2).map (InputProblem.within (.key m.1))
    | _ => [⟨.notObject, []⟩]
  | either a b, v =>
    if (a.problems v).isEmpty || (b.problems v).isEmpty then []
    else (a.problems v).map (InputProblem.within a.step)
      ++ (b.problems v).map (InputProblem.within b.step)
  | optional s, v => if v.isNull then [] else s.problems v

end Shape

/-- A field of a request. -/
structure FieldShape where
  /-- The name of the field. -/
  name : String
  /-- What its value has to be. -/
  shape : Shape
  /-- Whether it has to be there. -/
  required : Bool := false

namespace FieldShape

/-- What keeps members from having a field as they should. -/
def problems (f : FieldShape) (members : Members) : List InputProblem :=
  let found : List InputProblem := match Members.get? members (Text.ofString f.name) with
    | some v => f.shape.problems v
    | none => if f.required then [⟨.missing, []⟩] else []
  found.map (InputProblem.within (.key (Text.ofString f.name)))

end FieldShape

end BenefitForm
