import BenefitForm.Pattern.Token
import BenefitForm.Text.Name

/-!
# Escapes in a pattern's notation

A backslash gives a letter or a digit a meaning of its own: a control character,
a class, an anchor, a code point by number or by name, or a group. Other letters
mean nothing after it, and anything else stands for itself.
-/

namespace BenefitForm

/-- What an escape stands for. -/
inductive Escaped where
  | point (c : CodePoint)
  | class (k : PointClass)
  | anchor (a : Anchor)
  | group (number : Nat)

namespace Escaped

/-- Whether a code point is an octal digit. -/
def isOctal (c : CodePoint) : Bool := 0x30 ≤ c.val && c.val ≤ 0x37

/-- The code point of an escaped letter that names a control character. -/
def control? (c : CodePoint) : Option CodePoint :=
  [('a', 0x07), ('f', 0x0C), ('n', 0x0A), ('r', 0x0D), ('t', 0x09), ('v', 0x0B)].findSome?
    fun (e : Char × Nat) => if c.val = e.1.toNat then some (.ofNat e.2) else none

/-- The class of an escaped letter. -/
def class? (ascii : Bool) (c : CodePoint) : Option PointClass :=
  [('d', PointClass.digit ascii false), ('D', .digit ascii true), ('s', .blank ascii false),
    ('S', .blank ascii true), ('w', .word ascii false), ('W', .word ascii true)].findSome?
    fun (e : Char × PointClass) => if c.val = e.1.toNat then some e.2 else none

/-- The anchor of an escaped letter. -/
def anchor? (ascii : Bool) (c : CodePoint) : Option Anchor :=
  [('A', Anchor.textStart), ('Z', .textEnd), ('b', .wordBoundary ascii false),
    ('B', .wordBoundary ascii true)].findSome?
    fun (e : Char × Anchor) => if c.val = e.1.toNat then some e.2 else none

/-- The value of digits in a base up to sixteen. -/
def valueOf (base : Nat) (digits : Text) : Nat :=
  digits.foldl (fun n d => n * base + (Json.hexValue? d).getD 0) 0

/-- Read a code point by so many hexadecimal digits. -/
def readHex (count : Nat) : PatternReader Escaped := do
  let digits ← PatternReader.takeWhile (fun c => (Json.hexValue? c).isSome) count
  let n := valueOf 16 digits
  if digits.length < count then PatternReader.malformed
  else if h : n < 0x110000 then return .point ⟨n, h⟩
  else if n < 0x80000000 then PatternReader.malformed
  else throw .tooLarge

/-- Read a code point by its name in braces. -/
def readNamed : PatternReader Escaped := do
  PatternReader.expect '\x7b'
  let name ← PatternReader.takeUntil '\x7d'
  match CodePoint.named? name with
  | some c => return .point c
  | none => PatternReader.malformed

/-- The code point of octal digits. -/
def ofOctal (digits : Text) : PatternReader Escaped :=
  if valueOf 8 digits ≤ 0xFF then return .point (.ofNat (valueOf 8 digits))
  else PatternReader.malformed

/-- Read a code point by octal digits of which the first is given. -/
def readOctal (first : CodePoint) : PatternReader Escaped := do
  let others ← PatternReader.takeWhile isOctal 2
  ofOctal (first :: others)

/-- Read the number of a group, of which the first digit is given, or a code point by three octal
digits. -/
def readNumber (first : CodePoint) : PatternReader Escaped := do
  let second ← PatternReader.takeWhile (·.isAsciiDigit) 1
  let third ← if isOctal first && !second.isEmpty && second.all isOctal then
      PatternReader.takeWhile isOctal 1
    else pure []
  if !third.isEmpty then ofOctal (first :: second ++ third)
  else
    let number := valueOf 10 (first :: second)
    PatternReader.checkGroup number
    return .group number

/-- The escape of a code point that is no letter with a meaning. -/
def other (c : CodePoint) : PatternReader Escaped :=
  if c.isAsciiLower || c.isAsciiUpper || c.isAsciiDigit then PatternReader.malformed
  else return .point c

/-- Read the escapes that are the same within a class and outside. -/
def readCommon? (ascii : Bool) (c : CodePoint) : PatternReader (Option Escaped) := do
  match control? c, class? ascii c with
  | some p, _ => return some (.point p)
  | none, some k => return some (.class k)
  | none, none =>
    if c.val = 0x78 then return some (← readHex 2)
    else if c.val = 0x75 then return some (← readHex 4)
    else if c.val = 0x55 then return some (← readHex 8)
    else if c.val = 0x4E then return some (← readNamed)
    else return none

/-- Read an escape outside of classes after its first code point. -/
def read (ascii : Bool) (c : CodePoint) : PatternReader Escaped := do
  match ← readCommon? ascii c with
  | some e => return e
  | none =>
    match anchor? ascii c with
    | some a => return .anchor a
    | none =>
      if c.val = 0x30 then readOctal c
      else if c.isAsciiDigit then readNumber c
      else other c

/-- Read an escape in a class after its first code point. There `b` is the backspace. -/
def readInClass (ascii : Bool) (c : CodePoint) : PatternReader Escaped := do
  match ← readCommon? ascii c with
  | some e => return e
  | none =>
    if c.val = 0x62 then return .point (.ofNat 0x08)
    else if isOctal c then readOctal c
    else other c

end Escaped

end BenefitForm
