import BenefitForm.Text.Layout

/-!
# Templates

A template is a text with places in braces. A place names a value, and may ask
for an item or a property of it, for its quoted form and for a layout:

    name[0].kind!r:*^20.5

Braces that belong to the text are written twice. `Template.fill` puts values in
the places. A layout may hold places of its own, but those may not hold further
ones.

Besides JSON values a place can come to a `Kind`, of which every value has one:
the kind has a name and a lineage of more general kinds.
-/

namespace BenefitForm

namespace Template

/-- The kinds of values. -/
inductive Kind where
  | text
  | whole
  | truth
  | number
  | nothing
  | list
  | record
  | series
  | kind
  | anything
deriving DecidableEq

namespace Kind

/-- The name of a kind. -/
def name : Kind → String
  | .text => "str"
  | .whole => "int"
  | .truth => "bool"
  | .number => "float"
  | .nothing => "NoneType"
  | .list => "list"
  | .record => "dict"
  | .series => "tuple"
  | .kind => "type"
  | .anything => "object"

/-- A kind and the more general ones, up to that of anything. -/
def lineage : Kind → List Kind
  | .anything => [.anything]
  | .truth => [.truth, .whole, .anything]
  | k => [k, .anything]

/-- The kind of a value. -/
def ofJson : Json → Kind
  | .null => .nothing
  | .bool _ => .truth
  | .int _ => .whole
  | .float _ => .number
  | .string _ => .text
  | .array _ => .list
  | .object _ => .record

/-- A kind as it shows. -/
def display (k : Kind) : Text := Text.ofString ("<class '" ++ k.name ++ "'>")

end Kind

/-- What a place can come to. -/
inductive Value where
  | json (v : Json)
  | kind (k : Kind)
  /-- A fixed series of kinds. -/
  | kinds (ks : List Kind)

namespace Value

/-- The text of a value in its display form. -/
def display : Value → Except Fault Text
  | .json v => v.display
  | .kind k => .ok k.display
  | .kinds ks =>
    .ok (Text.ofString "(" ++ Text.join (Text.ofString ", ") (ks.map Kind.display)
      ++ Text.ofString (if ks.length = 1 then ",)" else ")"))

/-- A value in the layout that a text describes. -/
def laidOut (layout : Text) : Value → Except Fault Text
  | .json v => v.laidOut layout
  | v => if layout.isEmpty then v.display else .error .wrongKind

/-- The value at a position. -/
def at? (position : Nat) : Value → Except Fault Value
  | .json (.string t) =>
    match t[position]? with
    | some c => .ok (.json (.string [c]))
    | none => .error .missingPosition
  | .json (.array items) =>
    match items[position]? with
    | some v => .ok (.json v)
    | none => .error .missingPosition
  | .json (.object _) => .error .missingKey
  | .kinds ks =>
    match ks[position]? with
    | some k => .ok (.kind k)
    | none => .error .missingPosition
  | _ => .error .wrongKind

/-- The value under a key. -/
def under? (key : Text) : Value → Except Fault Value
  | .json (.object members) =>
    match Members.get? members key with
    | some v => .ok (.json v)
    | none => .error .missingKey
  | _ => .error .wrongKind

/-- A property of a kind. -/
def ofKind? (k : Kind) : String → Option Value
  | "__name__" | "__qualname__" => some (.json (Json.text k.name))
  | "__module__" => some (.json (Json.text "builtins"))
  | "__mro__" => some (.kinds k.lineage)
  | "__bases__" => some (.kinds ((k.lineage.drop 1).take 1))
  | "__base__" =>
    match k.lineage with
    | _ :: base :: _ => some (.kind base)
    | _ => some (.json .null)
  | _ => none

/-- A property of a whole number. -/
def ofWhole? (n : Int) : String → Option Value
  | "real" | "numerator" => some (.json (.int n))
  | "imag" => some (.json (.int 0))
  | "denominator" => some (.json (.int 1))
  | _ => none

/-- A property of a floating-point number. -/
def ofBinary? (x : Binary64) : String → Option Value
  | "real" => some (.json (.float x))
  | "imag" => some (.json (.float (.ofRatio false 0 1)))
  | _ => none

/-- The kind of a value, whatever it is. -/
def kindOf : Value → Kind
  | .json v => .ofJson v
  | .kind _ => .kind
  | .kinds _ => .series

/-- A property of a value. -/
def property (name : Text) (v : Value) : Except Fault Value :=
  if name = Text.ofString "__class__" then .ok (.kind v.kindOf)
  else
    let found := match v with
      | .kind k => ofKind? k name.asString
      | .json (.int n) => ofWhole? n name.asString
      | .json (.bool b) => ofWhole? (if b then 1 else 0) name.asString
      | .json (.float x) => ofBinary? x name.asString
      | _ => none
    match found with
    | some v => .ok v
    | none => .error .noSuchMember

end Value

/-- A place in a template. -/
structure Place where
  /-- What the place names. -/
  name : Text
  /-- The form that is asked for. -/
  form? : Option CodePoint
  /-- The layout, which may hold places. -/
  layout : Text

/-- The name of a place up to its end; a bracket hides what is in it. Returns what ends it. -/
def readName (inBracket : Bool) (acc : Text) : Text → Except Fault (Text × CodePoint × Text)
  | [] => .error .invalidValue
  | c :: rest =>
    if inBracket then readName (c.val ≠ 0x5D) (c :: acc) rest
    else if c.val = 0x7B then .error .invalidValue
    else if c.val = 0x7D || c.val = 0x3A || c.val = 0x21 then .ok (acc.reverse, c, rest)
    else readName (c.val = 0x5B) (c :: acc) rest

/-- The layout of a place up to the brace that closes it. -/
def readLayout (depth : Nat) (acc : Text) : Text → Except Fault (Text × Text)
  | [] => .error .invalidValue
  | c :: rest =>
    if c.val = 0x7D then
      if depth = 0 then .ok (acc.reverse, rest) else readLayout (depth - 1) (c :: acc) rest
    else if c.val = 0x7B then readLayout (depth + 1) (c :: acc) rest
    else readLayout depth (c :: acc) rest

/-- Read a place after its opening brace. -/
def readPlace (t : Text) : Except Fault (Place × Text) := do
  let (name, mark, rest) ← readName false [] t
  if mark.val = 0x7D then return (⟨name, none, []⟩, rest)
  else if mark.val = 0x3A then
    let (layout, rest) ← readLayout 0 [] rest
    return (⟨name, none, layout⟩, rest)
  else
    match rest with
    | form :: next :: rest =>
      if next.val = 0x7D then return (⟨name, some form, []⟩, rest)
      else if next.val = 0x3A then
        let (layout, rest) ← readLayout 0 [] rest
        return (⟨name, some form, layout⟩, rest)
      else throw .invalidValue
    | _ => throw .invalidValue

/-- The parts of a template. -/
inductive Part where
  | text (c : CodePoint)
  | place (p : Place)

/-- The first part of a template that is not empty, and the rest. -/
def nextPart (c : CodePoint) (rest : Text) : Except Fault (Part × Text) :=
  if c.val = 0x7B || c.val = 0x7D then
    match rest with
    | d :: more =>
      if d = c then .ok (.text c, more)
      else if c.val = 0x7D then .error .invalidValue
      else (readPlace rest).map fun r => (.place r.1, r.2)
    | [] => .error .invalidValue
  else .ok (.text c, rest)

/-- A part of a path that ends at a point or a bracket, and what follows. -/
def readStep (t : Text) : Text × Text :=
  let step := t.takeWhile fun c => c.val ≠ 0x2E && c.val ≠ 0x5B
  (step, t.drop step.length)

/-- What is asked for after the name of a value: items and properties. `fuel` bounds the code points
of the path. -/
def select (value : Value) : Nat → Text → Except Fault Value
  | _, [] => .ok value
  | 0, _ => .ok value
  | fuel + 1, c :: rest =>
    if c.val = 0x5B then
      let inside := rest.takeWhile (·.val ≠ 0x5D)
      match rest.drop inside.length with
      | [] => .error .invalidValue
      | _ :: rest =>
        if inside.isEmpty then .error .invalidValue
        else do
          let value ← match ← Layout.readNumber inside with
            | (some n, []) => value.at? n
            | _ => value.under? inside
          select value fuel rest
    else if c.val = 0x2E then
      match readStep rest with
      | ([], _) => .error .invalidValue
      | (name, rest) => do
        let value ← value.property name
        select value fuel rest
    else .error .invalidValue

/-- The value that a place names. Values have names and no positions. -/
def valueOf (values : Members) (name : Text) : Except Fault Value := do
  let (first, path) := readStep name
  match ← Layout.readNumber first with
  | (some _, []) => throw .missingPosition
  | _ =>
    if first.isEmpty then throw .missingPosition
    else match Members.get? values first with
      | some value => select (.json value) name.length path
      | none => throw .missingKey

/-- A value in the form that is asked for. -/
def inForm (value : Value) : Option CodePoint → Except Fault Value
  | none => .ok value
  | some c => do
    if c.val = 0x73 then
      match value with
      | .json v => return .json (.string (← v.plain))
      | v => return .json (.string (← v.display))
    else if c.val = 0x72 then return .json (.string (← value.display))
    else if c.val = 0x61 then
      let shown ← value.display
      return .json (.string (shown.flatMap fun c => if c.val < 0x80 then [c] else c.escape))
    else throw .invalidValue

/-- Fill the places of a template; `depth` is how far layouts may hold places, and `fuel` bounds
the code points of the template. -/
def fillFrom (values : Members) : Nat → Nat → Text → Except Fault Text
  | _, _, [] => .ok []
  | _, 0, _ => .ok []
  | depth, fuel + 1, c :: rest => do
    let (part, rest) ← nextPart c rest
    let shown ← match part with
      | .text c => .ok [c]
      | .place p => do
        let value ← valueOf values p.name
        let value ← inForm value p.form?
        let layout ← match depth with
          | 0 => if p.layout.any (·.val = 0x7B) then .error .invalidValue else .ok p.layout
          | depth + 1 =>
            if p.layout.any (·.val = 0x7B) then fillFrom values depth fuel p.layout
            else .ok p.layout
        value.laidOut layout
    let others ← fillFrom values depth fuel rest
    return shown ++ others
termination_by depth fuel => (depth, fuel)

/-- A template with values in its places. -/
def fill (template : Text) (values : Members) : Except Fault Text :=
  fillFrom values 1 template.length template

end Template

end BenefitForm
