/-!
# Binary floating-point numbers of 64 bits

A `Binary64` is held exactly: a sign, a significand and a power of two, or one
of the two infinities, or not a number. The program reads such numbers, shows
them and compares them; it does no arithmetic on them, so reading (`ofDecimal`,
the nearest number, ties to an even significand) is the only place that rounds.

- `Binary64.toRatio?`: the value as a quotient of integers.
- `Binary64.compare?`: exact order, with integers of any size too.
-/

namespace BenefitForm

/-- The power of ten with an exponent. -/
def powerOfTen (exponent : Nat) : Nat := Nat.pow 10 exponent

/-- The power of two with an exponent. -/
def powerOfTwo (exponent : Nat) : Nat := Nat.pow 2 exponent

/-- A floating-point number of 64 bits. -/
inductive Binary64 where
  | nan
  | infinite (negative : Bool)
  /-- `significand * 2 ^ exponent`, with the sign kept apart so that zero has two. -/
  | finite (negative : Bool) (significand : Nat) (exponent : Int)
deriving DecidableEq

/-- A quotient of an integer by a positive number. -/
structure Ratio where
  /-- The dividend. -/
  num : Int
  /-- The divisor. -/
  den : Nat
deriving DecidableEq

namespace Ratio

/-- An integer over one. -/
def ofInt (n : Int) : Ratio := ⟨n, 1⟩

/-- Order by cross-multiplication. -/
def compare (a b : Ratio) : Ordering :=
  Ord.compare (a.num * b.den) (b.num * a.den)

end Ratio

namespace Binary64

/-- How many bits a significand has at most. -/
def precision : Nat := 53

/-- The least exponent of a finite number. -/
def minExponent : Int := -1074

/-- The greatest exponent of a finite number. -/
def maxExponent : Int := 971

/-- How many binary digits a number has. -/
def bitLength (n : Nat) : Nat := if n = 0 then 0 else n.log2 + 1

/-- The whole number nearest to `num / den`, a tie going to the even neighbour. -/
def roundHalfEven (num den : Nat) : Nat :=
  let q := num / den
  let r := num % den
  if 2 * r < den then q
  else if den < 2 * r then q + 1
  else if q % 2 = 0 then q else q + 1

/-- The finite number nearest to `num / den`, or an infinity past the last one. -/
def ofRatio (negative : Bool) (num den : Nat) : Binary64 :=
  if num = 0 then .finite negative 0 minExponent
  else
    let scale (e : Int) : Nat :=
      if e ≤ 0 then roundHalfEven (num * powerOfTwo (-e).toNat) den
      else roundHalfEven num (den * powerOfTwo e.toNat)
    let estimate : Int := (bitLength num : Int) - bitLength den - precision
    let e := max minExponent estimate
    let e := if bitLength (scale e) > precision then e + 1 else e
    let m := scale e
    let (m, e) := if bitLength m > precision then (m / 2, e + 1) else (m, e)
    if e > maxExponent then .infinite negative else .finite negative m e

/-- The number nearest to `digits * 10 ^ exponent`. A decimal exponent far outside the
range is settled by the count of digits, without raising ten to it. -/
def ofDecimal (negative : Bool) (digits : Nat) (exponent : Int) : Binary64 :=
  let magnitude : Int := exponent + (Nat.toDigits 10 digits).length
  if digits = 0 then .finite negative 0 minExponent
  else if magnitude > 400 then .infinite negative
  else if magnitude < -400 then .finite negative 0 minExponent
  else if exponent ≥ 0 then ofRatio negative (digits * powerOfTen exponent.toNat) 1
  else ofRatio negative digits (powerOfTen (-exponent).toNat)

/-- The exact value of a finite number. -/
def toRatio? : Binary64 → Option Ratio
  | .finite negative m e =>
    let n : Int := if negative then -(m : Int) else m
    some (if e ≥ 0 then ⟨n * powerOfTwo e.toNat, 1⟩ else ⟨n, powerOfTwo (-e).toNat⟩)
  | _ => none

/-- The order of a number and a quotient; not a number has none. -/
def compareRatio? (x : Binary64) (r : Ratio) : Option Ordering :=
  match x with
  | .nan => none
  | .infinite negative => some (if negative then .lt else .gt)
  | x => x.toRatio?.map fun q => q.compare r

/-- The order of two numbers; the two zeros are equal and not a number has none. -/
def compare? (x y : Binary64) : Option Ordering :=
  match y with
  | .nan => none
  | .infinite negative =>
    match x with
    | .nan => none
    | .infinite n => some (Ord.compare (if n then 0 else 1 : Nat) (if negative then 0 else 1))
    | _ => some (if negative then .gt else .lt)
  | y => y.toRatio?.bind fun r => x.compareRatio? r

/-- Whether a number is one of the two zeros. -/
def isZero : Binary64 → Bool
  | .finite _ 0 _ => true
  | _ => false

/-- The value of a number that is whole. -/
def toInt? (x : Binary64) : Option Int :=
  x.toRatio?.bind fun r => if r.num % r.den = 0 then some (r.num / r.den) else none

/-- The value without its fraction, toward zero. -/
def truncate? (x : Binary64) : Option Int :=
  x.toRatio?.map fun r => Int.tdiv r.num r.den

end Binary64

end BenefitForm
