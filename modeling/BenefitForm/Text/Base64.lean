import BenefitForm.Text

/-!
# Base64

Three bytes are written as four digits of base 64, and the last group is padded
with `=`. `Base64.decode` reads back what `Base64.encode` writes.
-/

namespace BenefitForm

namespace Base64

/-- The digits of base 64, in order of value. -/
def alphabet : Text :=
  Text.ofString "ABCDEFGHIJKLMNOPQRSTUVWXYZabcdefghijklmnopqrstuvwxyz0123456789+/"

/-- The digit of a value below 64. -/
def digit (n : Nat) : CodePoint := alphabet.getD n '='

/-- The value of a digit. -/
def value? (c : CodePoint) : Option Nat := alphabet.findIdx? (· == c)

/-- The padding. -/
def pad : CodePoint := '='

/-- The digits of a byte sequence. -/
def encode : List UInt8 → Text
  | [] => []
  | [a] =>
    let n := a.toNat * 16
    [digit (n / 64), digit (n % 64), pad, pad]
  | [a, b] =>
    let n := (a.toNat * 256 + b.toNat) * 4
    [digit (n / 4096), digit (n / 64 % 64), digit (n % 64), pad]
  | a :: b :: c :: rest =>
    let n := (a.toNat * 256 + b.toNat) * 256 + c.toNat
    digit (n / 262144) :: digit (n / 4096 % 64) :: digit (n / 64 % 64) :: digit (n % 64)
      :: encode rest

/-- The bytes of a group of digits, the last group with its padding. -/
def decode : Text → Option (List UInt8)
  | [] => some []
  | w :: x :: y :: z :: rest => do
    let a ← value? w
    let b ← value? x
    if y = pad then
      if z = pad && rest.isEmpty then return [((a * 64 + b) / 16).toUInt8] else none
    else
      let c ← value? y
      if z = pad then
        if rest.isEmpty then
          let n := (a * 64 + b) * 64 + c
          return [(n / 1024).toUInt8, (n / 4 % 256).toUInt8]
        else none
      else
        let d ← value? z
        let n := ((a * 64 + b) * 64 + c) * 64 + d
        let bytes ← decode rest
        return (n / 65536).toUInt8 :: (n / 256 % 256).toUInt8 :: (n % 256).toUInt8 :: bytes
  | _ => none

end Base64

end BenefitForm
