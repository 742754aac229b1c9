import BenefitForm.Text.Encoding

/-!
# Percent encoding

`Percent.encode` writes a byte sequence as a component of a URI: the bytes of the
unreserved characters and of `!`, `'`, `(`, `)`, `*` stand for themselves, every
other byte is a percent sign and two capital hexadecimal digits.
`Percent.decode` reads it back, and `Percent.unescape` replaces the escapes in any
text.
-/

namespace BenefitForm

namespace Percent

/-- The punctuation that needs no escape. -/
def safeMarks : Text := Text.ofString "-_.~!*'()"

/-- Whether a code point stands for itself. -/
def isSafe (c : CodePoint) : Bool :=
  c.isAsciiLower || c.isAsciiUpper || c.isAsciiDigit || safeMarks.contains c

/-- The capital hexadecimal digit of a value below 16. -/
def digit (n : Nat) : CodePoint := if n < 10 then .ofNat (0x30 + n) else .ofNat (0x41 + (n - 10))

/-- One byte. -/
def encodeByte (b : UInt8) : Text :=
  if isSafe (.ofNat b.toNat) then [.ofNat b.toNat]
  else ['%', digit (b.toNat / 16), digit (b.toNat % 16)]

/-- A byte sequence as a component of a URI. -/
def encode (bytes : List UInt8) : Text := bytes.flatMap encodeByte

/-- The value of a hexadecimal digit. -/
def value? (c : CodePoint) : Option Nat :=
  if c.isAsciiDigit then some (c.val - 0x30)
  else if 0x41 ≤ c.val && c.val ≤ 0x46 then some (c.val - 0x41 + 10)
  else if 0x61 ≤ c.val && c.val ≤ 0x66 then some (c.val - 0x61 + 10)
  else none

/-- The bytes of a component of a URI. -/
def decode : Text → Option (List UInt8)
  | [] => some []
  | c :: rest =>
    if c.val = 0x25 then
      match rest with
      | x :: y :: rest => do
        let a ← value? x
        let b ← value? y
        let bytes ← decode rest
        return (a * 16 + b).toUInt8 :: bytes
      | _ => none
    else do
      let bytes ← decode rest
      return c.val.toUInt8 :: bytes

/-- The bytes of the escapes that a text begins with, and what follows them; `fuel` bounds the
count of code points. -/
def escapes : Nat → Text → List UInt8 × Text
  | fuel + 1, c :: x :: y :: rest =>
    match (if c.val = 0x25 then value? x else none), value? y with
    | some a, some b =>
      let (bytes, rest) := escapes fuel rest
      ((a * 16 + b).toUInt8 :: bytes, rest)
    | _, _ => ([], c :: x :: y :: rest)
  | _, t => ([], t)

/-- A text with its escapes replaced by what they stand for; `fuel` bounds the count of code
points. -/
def unescapeFrom : Nat → Text → Text
  | 0, _ => []
  | _, [] => []
  | fuel + 1, c :: rest =>
    match escapes (rest.length + 1) (c :: rest) with
    | ([], _) => c :: unescapeFrom fuel rest
    | (bytes, rest) => Utf8.decodeLossy bytes ++ unescapeFrom fuel rest

/-- A text with its escapes replaced by what they stand for. A percent sign that begins no escape
stands for itself. -/
def unescape (t : Text) : Text := unescapeFrom t.length t

end Percent

end BenefitForm
