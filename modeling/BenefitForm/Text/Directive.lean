import BenefitForm.Json.Display
import BenefitForm.Number.Rounded

/-!
# Directives in a message

A message may hold directives that stand for arguments: a percent sign, the key
of an argument in brackets, flags, a width, a precision and the letter of a
conversion. Two percent signs stand for one. `Directive.fill` puts the arguments in their places.

The arguments are listed in order, or they are the members of one object and
named by key. Listed arguments have to be used up. A width or a precision that
no machine word holds is refused, and so is a text longer than `maxRoom`.
-/

namespace BenefitForm

namespace Directive

/-- The values that the directives of a message stand for. -/
structure Arguments where
  /-- The values that are left, in order. -/
  values : List Json
  /-- The values with names, where there are any. -/
  named? : Option Members := none

/-- The arguments in a list; an object that stands alone and is not empty names its members. -/
def Arguments.ofList : List Json → Arguments
  | [.object members] =>
    ⟨[.object members], if members.isEmpty then none else some members⟩
  | values => ⟨values, none⟩

/-- The next value and the arguments after it. -/
def Arguments.next : Arguments → Except Fault (Json × Arguments)
  | ⟨v :: rest, named?⟩ => .ok (v, ⟨rest, named?⟩)
  | _ => .error .wrongKind

/-- How a value is laid out. -/
structure Layout where
  /-- Blanks follow the value instead of preceding it. -/
  leftAligned : Bool := false
  /-- A plus sign marks a number that is not negative. -/
  plus : Bool := false
  /-- A blank marks a number that is not negative. -/
  blank : Bool := false
  /-- The alternate form: a mark for the base, or a point that is always there. -/
  alternate : Bool := false
  /-- Zeros fill the width. -/
  zeros : Bool := false
  /-- The least width. -/
  width : Nat := 0
  /-- The precision. -/
  precision? : Option Nat := none

/-- A value before it is padded. -/
structure Shown where
  /-- Whether the value is a number. -/
  isNumber : Bool
  /-- Whether it is a negative one. -/
  negative : Bool := false
  /-- The mark of the base. -/
  mark : Text := []
  /-- The text without sign and mark. -/
  body : Text

/-- The greatest width. -/
def maxWidth : Nat := 9223372036854775807

/-- The greatest precision. -/
def maxPrecision : Nat := 2147483647

/-- The most code points that a filled text may be padded to. -/
def maxRoom : Nat := 100000000

/-- A shown value in its width. -/
def Shown.padded (s : Shown) (l : Layout) : Except Fault Text :=
  let sign : Text :=
    if !s.isNumber then []
    else if s.negative then Text.ofString "-"
    else if l.plus then Text.ofString "+"
    else if l.blank then Text.ofString " "
    else []
  let lead := sign ++ s.mark
  if l.width > maxRoom then .error .noRoom
  else
    let missing := l.width - (lead.length + s.body.length)
    .ok (if l.leftAligned then lead ++ s.body ++ Text.padding missing ' '
      else if l.zeros && s.isNumber then lead ++ Text.padding missing '0' ++ s.body
      else Text.padding missing ' ' ++ lead ++ s.body)

/-- A text cut to its precision. -/
def Shown.ofText (l : Layout) (t : Text) : Shown where
  isNumber := false
  body := match l.precision? with
    | some p => t.take p
    | none => t

/-- The whole number that a value is, or has before its point. -/
def wholeOf (v : Json) (fractions : Bool) : Except Fault Int :=
  match v with
  | .bool b => .ok (if b then 1 else 0)
  | .int n => .ok n
  | .float x =>
    if !fractions then .error .wrongKind
    else match x with
      | .nan => .error .invalidValue
      | x => match x.truncate? with
        | some n => .ok n
        | none => .error .tooLarge
  | _ => .error .wrongKind

/-- A whole number in a base; the precision is the least count of its digits. -/
def Shown.ofWhole (l : Layout) (base : Nat) (mark : String) (n : Int) : Except Fault Shown :=
  let digits := (Nat.toDigits base n.natAbs).map CodePoint.ofChar
  let least := l.precision?.getD 0
  if least > maxPrecision - 3 then .error .tooLarge
  else if least > maxRoom then .error .noRoom
  else .ok {
    isNumber := true, negative := n < 0
    mark := if l.alternate then Text.ofString mark else []
    body := Text.padding (least - digits.length) '0' ++ digits }

/-- The floating-point number that a value is. -/
def floatOf : Json → Except Fault Binary64
  | .bool b => .ok (.ofRatio false (if b then 1 else 0) 1)
  | .int n =>
    match Binary64.ofRatio (n < 0) n.natAbs 1 with
    | .infinite _ => .error .tooLarge
    | x => .ok x
  | .float x => .ok x
  | _ => .error .wrongKind

/-- The forms of a floating-point number. -/
inductive FloatForm where
  | fixed
  | scientific
  | general

/-- A floating-point number in one of its forms. -/
def Shown.ofFloat (l : Layout) (form : FloatForm) (x : Binary64) : Except Fault Shown :=
  let precision := l.precision?.getD 6
  let zerosKept := match form with
    | .general => l.alternate
    | _ => true
  match x with
  | .nan => .ok { isNumber := true, body := Text.ofString "nan" }
  | .infinite negative => .ok { isNumber := true, negative, body := Text.ofString "inf" }
  | .finite negative m e =>
    if zerosKept && precision > maxRoom then .error .noRoom
    else .ok {
      isNumber := true, negative
      body := match form with
        | .fixed => Binary64.fixedText m e precision l.alternate
        | .scientific => Binary64.scientificText m e precision l.alternate
        | .general => Binary64.generalText m e precision l.alternate }

/-- The code point that a value is or numbers. -/
def pointOf : Json → Except Fault CodePoint
  | .string [c] => .ok c
  | .bool b => .ok (.ofNat (if b then 1 else 0))
  | .int n => if h : 0 ≤ n ∧ n < 0x110000 then .ok ⟨n.toNat, by omega⟩ else .error .tooLarge
  | _ => .error .wrongKind

/-- Capital letters for ASCII letters. -/
def Shown.capitals (s : Shown) : Shown :=
  { s with mark := s.mark.map CodePoint.asciiUpper, body := s.body.map CodePoint.asciiUpper }

/-- The conversion that a letter names, for one value. -/
def convert (letter : CodePoint) (l : Layout) (v : Json) : Except Fault Shown :=
  let float (form : FloatForm) : Except Fault Shown := do
    let x ← floatOf v
    Shown.ofFloat l form x
  let whole (base : Nat) (mark : String) (fractions : Bool) : Except Fault Shown := do
    let n ← wholeOf v fractions
    Shown.ofWhole l base mark n
  match letter.val with
  | 0x73 => do
    let t ← v.plain
    return .ofText l t
  | 0x72 => do
    let t ← v.display
    return .ofText l t
  | 0x61 => do
    let t ← v.display
    return .ofText l (t.flatMap fun c => if c.val < 0x80 then [c] else c.escape)
  | 0x64 | 0x69 | 0x75 => whole 10 "" true
  | 0x6F => whole 8 "0o" false
  | 0x78 => whole 16 "0x" false
  | 0x58 => (whole 16 "0x" false).map Shown.capitals
  | 0x65 => float .scientific
  | 0x45 => (float .scientific).map Shown.capitals
  | 0x66 => float .fixed
  | 0x46 => (float .fixed).map Shown.capitals
  | 0x67 => float .general
  | 0x47 => (float .general).map Shown.capitals
  | 0x63 => do
    let c ← pointOf v
    return { isNumber := false, body := [c] }
  | _ => .error .invalidValue

/-- The key in brackets after an opening bracket; brackets inside it come in pairs. -/
def readKey (depth : Nat) (acc : Text) : Text → Except Fault (Text × Text)
  | [] => .error .invalidValue
  | c :: rest =>
    if c.val = 0x29 then
      if depth = 0 then .ok (acc.reverse, rest) else readKey (depth - 1) (c :: acc) rest
    else if c.val = 0x28 then readKey (depth + 1) (c :: acc) rest
    else readKey depth (c :: acc) rest

/-- The layout with one flag set. -/
def Layout.flag? (l : Layout) (c : CodePoint) : Option Layout :=
  match c.val with
  | 0x2D => some { l with leftAligned := true }
  | 0x2B => some { l with plus := true }
  | 0x20 => some { l with blank := true }
  | 0x23 => some { l with alternate := true }
  | 0x30 => some { l with zeros := true }
  | _ => none

/-- Read the flags. -/
def readFlags (l : Layout) : Text → Layout × Text
  | [] => (l, [])
  | c :: rest =>
    match l.flag? c with
    | some l => readFlags l rest
    | none => (l, c :: rest)

/-- The value of the ASCII digits at the beginning of a text, and what follows them. -/
def readDigits (n : Nat) : Text → Nat × Text
  | [] => (n, [])
  | c :: rest =>
    if c.isAsciiDigit then readDigits (n * 10 + (c.val - 0x30)) rest else (n, c :: rest)

/-- Read a count that is at most `most`: digits, or an asterisk for the next argument. -/
def readCount (most : Nat) (args : Arguments) (t : Text) : Except Fault (Int × Arguments × Text) :=
  match t with
  | c :: rest =>
    if c.val = 0x2A then do
      let (v, args) ← args.next
      match v with
      | .int n =>
        if -(most : Int) - 1 ≤ n ∧ n ≤ most then return (n, args, rest) else throw .tooLarge
      | .bool b => return (if b then 1 else 0, args, rest)
      | _ => throw .wrongKind
    else
      let (n, rest) := readDigits 0 (c :: rest)
      if n ≤ most then .ok (n, args, rest) else .error .invalidValue
  | [] => .ok (0, args, [])

/-- Take in the key of a directive, where it has one. -/
def selectNamed (args : Arguments) (t : Text) : Except Fault (Arguments × Text) :=
  match t with
  | c :: rest =>
    if c.val = 0x28 then
      match args.named? with
      | none => .error .wrongKind
      | some members => do
        let (key, rest) ← readKey 0 [] rest
        match Members.get? members key with
        | some v => return ({ args with values := [v] }, rest)
        | none => throw .missingKey
    else .ok (args, t)
  | [] => .ok (args, t)

/-- Read the width. A negative one stands for its magnitude, aligned left; the magnitude of the
least one is no width. -/
def readWidth (l : Layout) (args : Arguments) (t : Text) :
    Except Fault (Layout × Arguments × Text) := do
  let (n, args, t) ← readCount maxWidth args t
  let width := if n.natAbs > maxWidth then 0 else n.natAbs
  return ({ l with width := width, leftAligned := l.leftAligned || n < 0 }, args, t)

/-- Read the precision, where a point announces it. -/
def readPrecision (l : Layout) (args : Arguments) (t : Text) :
    Except Fault (Layout × Arguments × Text) :=
  match t with
  | c :: rest =>
    if c.val = 0x2E then do
      let (n, args, t) ← readCount maxPrecision args rest
      return ({ l with precision? := some n.toNat }, args, t)
    else .ok (l, args, t)
  | [] => .ok (l, args, t)

/-- The text without a letter for the size of a number, which means nothing. -/
def skipSize : Text → Text
  | [] => []
  | c :: rest => if c.val = 0x68 || c.val = 0x6C || c.val = 0x4C then rest else c :: rest

/-- Fill one directive, which begins after its percent sign. -/
def fillOne (args : Arguments) (t : Text) : Except Fault (Text × Arguments × Text) := do
  let (args, t) ← selectNamed args t
  let (l, t) := readFlags {} t
  let (l, args, t) ← readWidth l args t
  let (l, args, t) ← readPrecision l args t
  match skipSize t with
  | [] => throw .invalidValue
  | letter :: rest =>
    let (v, args) ← args.next
    let shown ← convert letter l v
    let padded ← shown.padded l
    return (padded, args, rest)

/-- Fill the directives of a message from a place on; `fuel` bounds the code points left. -/
def fillFrom : Nat → Arguments → Text → Except Fault Text
  | _, args, [] =>
    if args.values.isEmpty || args.named?.isSome then .ok [] else .error .wrongKind
  | 0, _, _ => .ok []
  | fuel + 1, args, c :: rest =>
    if c.val = 0x25 then
      match rest with
      | d :: more =>
        if d.val = 0x25 then do
          let others ← fillFrom fuel args more
          return c :: others
        else do
          let (filled, args, rest) ← fillOne args rest
          let others ← fillFrom fuel args rest
          return filled ++ others
      | [] => .error .invalidValue
    else do
      let others ← fillFrom fuel args rest
      return c :: others

/-- A message with its arguments in the places of its directives. -/
def fill (message : Text) (arguments : List Json) : Except Fault Text :=
  fillFrom message.length (.ofList arguments) message

end Directive

end BenefitForm
