import BenefitForm.Json.Display

/-!
# Reading JSON

`Json.read` reads a JSON document. The grammar is that of JSON with three names
for numbers that have no numeral (`NaN`, `Infinity`, `-Infinity`); an unpaired
surrogate may be written by its escape; of two members with one key the later
value counts, at the earlier place. A numeral with a fraction or an exponent is
a floating-point number and any other a whole number, of 4300 digits at most.
Lists and objects may lie within each other to a depth of `maxDepth`.

The reader goes through the text once. Where it stops it reports how much text
was left, from which `Json.read` finds position, line and column.
-/

namespace BenefitForm

/-- What a document has instead of what the grammar asks for. -/
inductive ReadProblem where
  | value
  | propertyName
  | colon
  | comma
  | extraData
  | unterminatedString
  | controlCharacter
  | escape
  | unicodeEscape
  | byteOrderMark
deriving DecidableEq

/-- The place and the kind of a document's first mistake. -/
structure ReadError where
  /-- What is wrong. -/
  problem : ReadProblem
  /-- How many code points precede the place. -/
  position : Nat
  /-- The line, from one. -/
  line : Nat
  /-- The column in that line, from one. -/
  column : Nat
deriving DecidableEq

/-- Why a document has no value. -/
inductive ReadFailure where
  | malformed (e : ReadError)
  /-- A whole number has more digits than can be read. -/
  | tooManyDigits
  /-- Lists and objects lie too deep within each other. -/
  | tooDeep
  /-- The bytes are no text. -/
  | undecodable (e : DecodeError)
deriving DecidableEq

namespace ReadProblem

/-- The problem in words. -/
def message : ReadProblem → String
  | .value => "Expecting value"
  | .propertyName => "Expecting property name enclosed in double quotes"
  | .colon => "Expecting ':' delimiter"
  | .comma => "Expecting ',' delimiter"
  | .extraData => "Extra data"
  | .unterminatedString => "Unterminated string starting at"
  | .controlCharacter => "Invalid control character at"
  | .escape => "Invalid \\escape"
  | .unicodeEscape => "Invalid \\uXXXX escape"
  | .byteOrderMark => "Unexpected UTF-8 BOM (decode using utf-8-sig)"

end ReadProblem

/-- The problem and where it is. -/
def ReadError.message (e : ReadError) : Text :=
  Text.ofString e.problem.message ++ Text.ofString ": line " ++ Text.ofNat e.line
    ++ Text.ofString " column " ++ Text.ofNat e.column ++ Text.ofString " (char "
    ++ Text.ofNat e.position ++ Text.ofString ")"

/-- The fault that a document is which cannot be read. -/
def ReadFailure.fault : ReadFailure → Fault
  | .malformed _ => .invalidValue
  | .tooManyDigits => .invalidValue
  | .tooDeep => .tooDeep
  | .undecodable e => .undecodable e

namespace Json

/-- Where the reader stops: the problem, and the length of the text from its place on. -/
inductive Stop where
  | problem (p : ReadProblem) (remaining : Nat)
  | tooManyDigits
  | tooDeep

/-- Stop before a text. -/
def stopAt {α : Type} (p : ReadProblem) (t : Text) : Except Stop α :=
  .error (.problem p t.length)

/-- The four blanks that may stand between the parts of a document. -/
def isGap (c : CodePoint) : Bool :=
  c.val = 0x20 || c.val = 0x09 || c.val = 0x0A || c.val = 0x0D

/-- The text after its leading blanks. -/
def skipGap (t : Text) : Text := t.dropWhile isGap

/-- The value of a hexadecimal digit. -/
def hexValue? (c : CodePoint) : Option Nat :=
  if c.isAsciiDigit then some (c.val - 0x30)
  else if 0x61 ≤ c.val && c.val ≤ 0x66 then some (c.val - 0x61 + 10)
  else if 0x41 ≤ c.val && c.val ≤ 0x46 then some (c.val - 0x41 + 10)
  else none

/-- The number written by four hexadecimal digits. -/
def hexUnit? (a b c d : CodePoint) : Option Nat := do
  let a ← hexValue? a
  let b ← hexValue? b
  let c ← hexValue? c
  let d ← hexValue? d
  return ((a * 16 + b) * 16 + c) * 16 + d

/-- The code point that a one-letter escape stands for. -/
def simpleEscape? (c : CodePoint) : Option CodePoint :=
  if c.val = 0x22 || c.val = 0x5C || c.val = 0x2F then some c
  else if c.val = 0x62 then some (.ofNat 0x08)
  else if c.val = 0x66 then some (.ofNat 0x0C)
  else if c.val = 0x6E then some (.ofNat 0x0A)
  else if c.val = 0x72 then some (.ofNat 0x0D)
  else if c.val = 0x74 then some (.ofNat 0x09)
  else none

/-- Read a string after its opening quote; `opening` is the length of the text from that quote
on, and `acc` holds what is read backwards. The second half of a surrogate pair has to be
followed by another code point to be taken together with the first. -/
def readString (opening : Nat) (acc : Text) : Text → Except Stop (Text × Text)
  | [] => .error (.problem .unterminatedString opening)
  | c :: rest =>
    if c.val = 0x22 then .ok (acc.reverse, rest)
    else if c.val < 0x20 then stopAt .controlCharacter (c :: rest)
    else if c.val = 0x5C then
      match rest with
      | [] => .error (.problem .unterminatedString opening)
      | e :: rest =>
        if e.val = 0x75 then
          match rest with
          | x1 :: x2 :: x3 :: x4 :: next :: rest' =>
            match hexUnit? x1 x2 x3 x4 with
            | none => stopAt .unicodeEscape (e :: rest)
            | some high =>
              let alone (_ : Unit) := readString opening (.ofNat high :: acc) (next :: rest')
              -- a high surrogate may be half of a pair
              if (CodePoint.ofNat high).isHighSurrogate && next.val = 0x5C then
                match rest' with
                | u :: y1 :: y2 :: y3 :: y4 :: after :: rest'' =>
                  if u.val = 0x75 then
                    match hexUnit? y1 y2 y3 y4 with
                    | none => stopAt .unicodeEscape rest'
                    | some low =>
                      if (CodePoint.ofNat low).isLowSurrogate then
                        readString opening
                          (.ofNat (0x10000 + (high - 0xD800) * 1024 + (low - 0xDC00)) :: acc)
                          (after :: rest'')
                      else alone ()
                  else alone ()
                | _ => alone ()
              else alone ()
          | _ => stopAt .unicodeEscape (e :: rest)
        else match simpleEscape? e with
          | some p => readString opening (p :: acc) rest
          | none => stopAt .escape (c :: e :: rest)
    else readString opening (c :: acc) rest

/-- The number written by ASCII digits. -/
def digitsValue (digits : Text) : Nat := digits.foldl (fun n d => n * 10 + (d.val - 0x30)) 0

/-- The whole part of a numeral: one zero, or digits of which the first is not zero. -/
def splitWhole (t : Text) : Text × Text :=
  match t with
  | [] => ([], [])
  | c :: rest =>
    if c.val = 0x30 then ([c], rest)
    else (t.takeWhile (·.isAsciiDigit), t.dropWhile (·.isAsciiDigit))

/-- The digits after a decimal point, where both are there. -/
def splitFraction (t : Text) : Option Text × Text :=
  match t with
  | dot :: rest =>
    let digits := rest.takeWhile (·.isAsciiDigit)
    if dot.val = 0x2E && !digits.isEmpty then (some digits, rest.drop digits.length) else (none, t)
  | [] => (none, t)

/-- The exponent of a numeral, where its mark and a digit are there. -/
def splitExponent (t : Text) : Option Int × Text :=
  match t with
  | mark :: rest =>
    if mark.val = 0x65 || mark.val = 0x45 then
      let (negative, rest') : Bool × Text := match rest with
        | sign :: more =>
          if sign.val = 0x2D then (true, more) else if sign.val = 0x2B then (false, more)
          else (false, rest)
        | [] => (false, rest)
      let digits := rest'.takeWhile (·.isAsciiDigit)
      if digits.isEmpty then (none, t)
      else
        let n : Int := digitsValue digits
        (some (if negative then -n else n), rest'.drop digits.length)
    else (none, t)
  | [] => (none, t)

/-- Read a numeral. -/
def readNumber (t : Text) : Except Stop (Json × Text) :=
  let (negative, unsigned) : Bool × Text := match t with
    | c :: rest => if c.val = 0x2D then (true, rest) else (false, t)
    | [] => (false, t)
  let (whole, rest) := splitWhole unsigned
  if whole.isEmpty then stopAt .value t
  else
    match splitFraction rest with
    | (fraction, rest) =>
      match splitExponent rest with
      | (exponent, rest) =>
        match fraction, exponent with
        | none, none =>
          if whole.length > maxDigits then .error .tooManyDigits
          else
            let n : Int := digitsValue whole
            .ok (.int (if negative then -n else n), rest)
        | _, _ =>
          let fraction := fraction.getD []
          .ok (.float (.ofDecimal negative (digitsValue (whole ++ fraction))
            (exponent.getD 0 - fraction.length)), rest)

/-- The text after a word it begins with. -/
def afterWord? (word : String) (t : Text) : Option Text :=
  let w := Text.ofString word
  if w.isPrefixOf t then some (t.drop w.length) else none

/-- The names among values. -/
def namedValues : List (String × Json) :=
  [("null", .null), ("true", .bool true), ("false", .bool false), ("NaN", .float .nan),
    ("Infinity", .float (.infinite false)), ("-Infinity", .float (.infinite true))]

/-- Read a name or a numeral. -/
def readAtom (t : Text) : Except Stop (Json × Text) :=
  match namedValues.findSome? fun n => (afterWord? n.1 t).map (n.2, ·) with
  | some r => .ok r
  | none => readNumber t

/-- How deep lists and objects may lie within each other. -/
def maxDepth : Nat := 970

mutual

/-- Read a value that begins with the first code point of the text; `depth` is how many lists and
objects may still be opened within each other. -/
def readValue : Nat → Nat → Text → Except Stop (Json × Text)
  | 0, _, t => stopAt .value t
  | fuel + 1, depth, t =>
    match t with
    | [] => stopAt .value t
    | c :: rest =>
      if c.val = 0x22 then do
        let (s, rest) ← readString t.length [] rest
        return (.string s, rest)
      else if c.val = 0x5B then
        match depth, skipGap rest with
        | 0, _ => .error .tooDeep
        | _, [] => stopAt .value []
        | depth + 1, d :: rest' =>
          if d.val = 0x5D then .ok (.array [], rest') else readItems fuel depth [] (d :: rest')
      else if c.val = 0x7B then
        match depth, skipGap rest with
        | 0, _ => .error .tooDeep
        | _, [] => stopAt .propertyName []
        | depth + 1, d :: rest' =>
          if d.val = 0x7D then .ok (.object [], rest') else readMembers fuel depth [] (d :: rest')
      else readAtom t

/-- Read the items of a list up to its closing bracket; `acc` holds the earlier ones backwards. -/
def readItems : Nat → Nat → List Json → Text → Except Stop (Json × Text)
  | 0, _, _, t => stopAt .value t
  | fuel + 1, depth, acc, t =>
    match readValue fuel depth t with
    | .error e => .error e
    | .ok (v, rest) =>
      match skipGap rest with
      | [] => stopAt .comma []
      | d :: rest' =>
        if d.val = 0x5D then .ok (.array (v :: acc).reverse, rest')
        else if d.val = 0x2C then readItems fuel depth (v :: acc) (skipGap rest')
        else stopAt .comma (d :: rest')

/-- Read the members of an object up to its closing brace. -/
def readMembers : Nat → Nat → List (Text × Json) → Text → Except Stop (Json × Text)
  | 0, _, _, t => stopAt .propertyName t
  | fuel + 1, depth, acc, t =>
    match t with
    | [] => stopAt .propertyName t
    | q :: rest =>
      if q.val ≠ 0x22 then stopAt .propertyName t
      else match readString t.length [] rest with
        | .error e => .error e
        | .ok (key, rest) =>
          match skipGap rest with
          | [] => stopAt .colon []
          | d :: rest' =>
            if d.val ≠ 0x3A then stopAt .colon (d :: rest')
            else match readValue fuel depth (skipGap rest') with
              | .error e => .error e
              | .ok (v, rest) =>
                match skipGap rest with
                | [] => stopAt .comma []
                | d :: rest' =>
                  if d.val = 0x7D then
                    .ok (.object (Members.ofList ((key, v) :: acc).reverse), rest')
                  else if d.val = 0x2C then
                    readMembers fuel depth ((key, v) :: acc) (skipGap rest')
                  else stopAt .comma (d :: rest')

end

/-- The line and the column of a position. -/
def place (t : Text) (position : Nat) : Nat × Nat :=
  let before := t.take position
  (1 + before.countP (·.val = 0x0A),
    1 + (before.reverse.takeWhile (·.val ≠ 0x0A)).length)

/-- Read a document that does not begin with a byte order mark. -/
def readDocument (t : Text) : Except Stop Json :=
  match readValue (2 * t.length + 2) maxDepth (skipGap t) with
  | .error e => .error e
  | .ok (v, rest) =>
    match skipGap rest with
    | [] => .ok v
    | rest => stopAt .extraData rest

/-- The result of reading a text, with the place of a mistake in it. -/
def located (t : Text) : Except Stop Json → Except ReadFailure Json
  | .ok v => .ok v
  | .error .tooManyDigits => .error .tooManyDigits
  | .error .tooDeep => .error .tooDeep
  | .error (.problem p remaining) =>
    let position := t.length - remaining
    let (line, column) := place t position
    .error (.malformed ⟨p, position, line, column⟩)

/-- Read a document. -/
def read (t : Text) : Except ReadFailure Json :=
  located t (match t with
    | c :: _ => if c.val = 0xFEFF then stopAt .byteOrderMark t else readDocument t
    | [] => readDocument t)

/-- Read a document that arrives as bytes. Its encoding form may be announced by a byte order
mark; a second mark is a mistake like any other character. -/
def readBytes (bytes : List UInt8) : Except ReadFailure Json :=
  match decodeDocument bytes with
  | .ok t => located t (readDocument t)
  | .error e => .error (.undecodable e)

end Json

end BenefitForm
