import BenefitForm.Number.Shortest

/-!
# Numbers with a chosen number of digits

A magnitude `m * 2 ^ e` is written with a given count of digits after the point
(`fixedText`), with an exponent (`scientificText`), or in whichever of the two
forms is the shorter for a count of significant digits (`generalText`). Rounding
is exact, and a half goes to the even neighbour.
-/

namespace BenefitForm

namespace Binary64

/-- A magnitude as a quotient. -/
def magnitudeRatio (m : Nat) (e : Int) : Nat × Nat :=
  if e ≥ 0 then (m * powerOfTwo e.toNat, 1) else (m, powerOfTwo (-e).toNat)

/-- Digits with a point before the last `places`. -/
def placePoint (digits places : Nat) (keepPoint : Bool) : Text :=
  let shown := Text.ofNat digits
  let shown := Text.padding (places + 1 - shown.length) '0' ++ shown
  let whole := shown.take (shown.length - places)
  let rest := shown.drop (shown.length - places)
  if rest.isEmpty && !keepPoint then whole else whole ++ Text.ofString "." ++ rest

/-- A count of places after the point, or of digits after the first one, from which on every digit
is zero: the least magnitude is `2 ^ (-1074)`. -/
def exactPlaces : Nat := 1100

/-- A magnitude with a count of digits after the point. -/
def fixedText (m : Nat) (e : Int) (places : Nat) (keepPoint : Bool) : Text :=
  let (num, den) := magnitudeRatio m e
  let exact := min places exactPlaces
  placePoint (roundHalfEven (num * powerOfTen exact) den) exact keepPoint
    ++ Text.padding (places - exact) '0'

/-- The first `places + 1` digits of a magnitude, rounded, and the power of ten of the first. -/
def leadingDigits (m : Nat) (e : Int) (places : Nat) : Nat × Int :=
  if m = 0 then (0, 0)
  else
    let (num, den) := magnitudeRatio m e
    let power := decimalPoint num den 8 (((bitLength m : Int) + e - 1) * 301 / 1000 - 1) - 1
    let shift : Int := places - power
    let digits := if shift ≥ 0 then roundHalfEven (num * powerOfTen shift.toNat) den
      else roundHalfEven num (den * powerOfTen (-shift).toNat)
    if digits = powerOfTen (places + 1) then (powerOfTen places, power + 1) else (digits, power)

/-- A power of ten after its mark: a sign and two digits or more. -/
def powerText (power : Int) : Text :=
  let digits := Text.ofNat power.natAbs
  Text.ofString (if power < 0 then "e-" else "e+") ++ Text.padding (2 - digits.length) '0' ++ digits

/-- A magnitude with one digit before the point, a count of digits after it and an exponent. -/
def scientificText (m : Nat) (e : Int) (places : Nat) (keepPoint : Bool) : Text :=
  let exact := min places exactPlaces
  let (digits, power) := leadingDigits m e exact
  placePoint digits exact keepPoint ++ Text.padding (places - exact) '0' ++ powerText power

/-- A text without the zeros at the end of its fraction, nor a point at its end. -/
def trimFraction (t : Text) : Text :=
  if t.any (·.val = 0x2E) then
    ((t.reverse.dropWhile (·.val = 0x30)).dropWhile (·.val = 0x2E)).reverse
  else t

/-- A magnitude with a count of significant digits: positional where the first digit stands at most
four places right of the point and the last one not left of it, with an exponent elsewhere. Zeros
at the end are left out unless `keepZeros` is set. -/
def generalText (m : Nat) (e : Int) (significant : Nat) (keepZeros : Bool) : Text :=
  let significant := max (if keepZeros then significant else min significant exactPlaces) 1
  let exact := min (significant - 1) exactPlaces
  let (digits, power) := leadingDigits m e exact
  if -4 ≤ power && power < significant then
    let places := ((significant : Int) - 1 - power).toNat
    let text := fixedText m e places keepZeros
    if keepZeros then text else trimFraction text
  else
    let text := placePoint digits exact keepZeros ++ Text.padding (significant - 1 - exact) '0'
    (if keepZeros then text else trimFraction text) ++ powerText power

/-- A magnitude with a count of significant digits and at least one digit after its point:
positional where the first digit stands at most four places right of the point and the last one
right of it, with an exponent elsewhere. -/
def pointedText (m : Nat) (e : Int) (significant : Nat) (keepZeros : Bool) : Text :=
  let significant := max significant 1
  let power := (leadingDigits m e (min (significant - 1) exactPlaces)).2
  let text := generalText m e significant keepZeros
  if -4 ≤ power && power < significant then
    if power + 1 < significant then
      if text.any (·.val = 0x2E) then text else text ++ Text.ofString ".0"
    else
      let text := scientificText m e (significant - 1) keepZeros
      if keepZeros then text
      else
        let digits := text.takeWhile (·.val ≠ 0x65)
        trimFraction digits ++ text.drop digits.length
  else text

end Binary64

end BenefitForm
