import BenefitForm.Json.Display
import BenefitForm.Text.Word

/-!
# Whole numbers in text

`Text.readInt` reads the whole number that a text is: decimal digits of any
script, in which single underscores may stand between digits, with a sign before
them and blanks around it all.
-/

namespace BenefitForm

namespace Text

/-- The value of decimal digits in which single underscores may stand between digits. -/
def digitsValue? : Text → Option Nat
  | [] => none
  | t =>
    let parts : Option (List (List Nat)) := (Text.splitOn '_' t).mapM fun (part : Text) =>
      if part.isEmpty then none else part.mapM CodePoint.digit?
    parts.map fun digits => digits.flatten.foldl (fun n d => n * 10 + d) 0

/-- Whether a code point may stand around a number: a blank, but no information separator. -/
def isMargin (c : CodePoint) : Bool := c.isBlank && !(0x1C ≤ c.val && c.val ≤ 0x1F)

/-- The whole number that a text is: blanks around it, a sign and decimal digits of any script. -/
def readInt (t : Text) : Except Fault Int :=
  let inner := ((t.dropWhile isMargin).reverse.dropWhile isMargin).reverse
  let (negative, digits) : Bool × Text := match inner with
    | c :: rest =>
      if c.val = 0x2D then (true, rest)
      else if c.val = 0x2B then (false, rest)
      else (false, c :: rest)
    | [] => (false, [])
  match digitsValue? digits with
  | some n =>
    if digits.countP (fun c => c.val ≠ 0x5F) ≤ maxDigits then
      .ok (if negative then -(n : Int) else n)
    else .error .invalidValue
  | none => .error .invalidValue

end Text

end BenefitForm
