import BenefitForm.Number.Binary64
import BenefitForm.Text

/-!
# The shortest decimal of a number

A finite number is shown by the fewest significant digits that read back as the
same number, and among those by the nearest. `Binary64.shortest` finds them on
the decimal grids of 1, 2, … 17 digits in exact arithmetic; `Binary64.toText`
writes them, positionally between `1e-4` and `1e16` and with an exponent
elsewhere.
-/

namespace BenefitForm

namespace Binary64

/-- The exponent `e` for which `10 ^ (e - 1) ≤ num / den < 10 ^ e`, searched upwards. -/
def decimalPoint (num den : Nat) (fuel : Nat) (e : Int) : Int :=
  match fuel with
  | 0 => e
  | fuel + 1 =>
    let below := if e ≥ 0 then num < den * powerOfTen e.toNat else num * powerOfTen (-e).toNat < den
    if below then e else decimalPoint num den fuel (e + 1)

/-- Whether a decimal reads as the magnitude `m * 2 ^ e`. -/
def readsBack (m : Nat) (e : Int) (digits : Nat) (exponent : Int) : Bool :=
  match ofDecimal false digits exponent with
  | .finite _ m' e' => m' == m && e' == e
  | _ => false

/-- The decimal of `count` digits nearest to `num / den` among those that read back. -/
def nearestOfCount (m : Nat) (e : Int) (num den : Nat) (point : Int) (count : Nat) :
    Option (Nat × Int) :=
  let exponent := point - count
  let (n, d) := if exponent ≥ 0 then (num, den * powerOfTen exponent.toNat)
    else (num * powerOfTen (-exponent).toNat, den)
  -- the two neighbours on the grid, the nearer one first
  let low := n / d
  let near := roundHalfEven n d
  let far := if near = low then low + 1 else low
  if readsBack m e near exponent then some (near, exponent)
  else if readsBack m e far exponent then some (far, exponent)
  else none

/-- The first count of digits, from `count` on, that reads back. -/
def shortestFrom (m : Nat) (e : Int) (num den : Nat) (point : Int) (count : Nat) :
    Nat → Nat × Int
  | 0 => (0, 0)
  | fuel + 1 =>
    match nearestOfCount m e num den point count with
    | some r => r
    | none => shortestFrom m e num den point (count + 1) fuel

/-- The digits and decimal exponent of the shortest decimal of `m * 2 ^ e`. -/
def shortest (m : Nat) (e : Int) : Nat × Int :=
  let (num, den) := if e ≥ 0 then (m * powerOfTwo e.toNat, 1) else (m, powerOfTwo (-e).toNat)
  -- the decimal logarithm of two is about 301/1000, and one less is safely below
  let estimate : Int := ((bitLength m : Int) + e - 1) * 301 / 1000 - 1
  shortestFrom m e num den (decimalPoint num den 8 estimate) 1 17

/-- Digits without the zeros at their end, which move into the exponent. -/
def trimZeros (digits : Nat) (exponent : Int) : Nat → Nat × Int
  | 0 => (digits, exponent)
  | fuel + 1 =>
    if digits ≠ 0 && digits % 10 = 0 then trimZeros (digits / 10) (exponent + 1) fuel
    else (digits, exponent)

/-- The text of a magnitude: positional while the decimal point stands at most sixteen
places right of the first digit or three zeros left of it, and with an exponent of two
or more digits elsewhere. -/
def magnitudeText (m : Nat) (e : Int) : Text :=
  if m = 0 then Text.ofString "0.0"
  else
    let (digits, exponent) := shortest m e
    let (digits, exponent) := trimZeros digits exponent 20
    let shown := Text.ofNat digits
    let point : Int := shown.length + exponent
    if -4 < point && point ≤ 16 then
      if point ≤ 0 then
        Text.ofString "0." ++ Text.padding (-point).toNat '0' ++ shown
      else
        let whole := shown.take point.toNat
        let rest := shown.drop point.toNat
        whole ++ Text.padding (point.toNat - whole.length) '0' ++ Text.ofString "."
          ++ (if rest.isEmpty then Text.ofString "0" else rest)
    else
      let power := point - 1
      let powerDigits := Text.ofNat power.natAbs
      shown.take 1
        ++ (if shown.length > 1 then Text.ofString "." ++ shown.drop 1 else [])
        ++ Text.ofString (if power < 0 then "e-" else "e+")
        ++ Text.padding (2 - powerDigits.length) '0' ++ powerDigits

/-- The shortest text of a number. -/
def toText : Binary64 → Text
  | .nan => Text.ofString "nan"
  | .infinite negative => Text.ofString (if negative then "-inf" else "inf")
  | .finite negative m e =>
    (if negative then Text.ofString "-" else []) ++ magnitudeText m e

end Binary64

end BenefitForm
