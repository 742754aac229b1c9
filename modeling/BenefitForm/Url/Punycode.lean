import BenefitForm.Text

/-!
# Punycode

The ASCII form of a text: its ASCII code points, a hyphen where there are any,
and the places of all others in numbers of varying length.

- `Punycode.encode`: the ASCII form.
- `Punycode.decode?`: the text of an ASCII form.

A digit is worth less than its threshold where it ends a number; the thresholds
follow a bias that adapts to the numbers before.
-/

namespace BenefitForm

namespace Punycode

/-- The digit of a value below 36: letters, then decimal digits. -/
def digit (n : Nat) : CodePoint :=
  if n < 26 then .ofNat (0x61 + n) else .ofNat (0x30 + (n - 26))

/-- The value of a digit, whatever its letter case. -/
def digitValue? (c : CodePoint) : Option Nat :=
  if c.isAsciiLower then some (c.val - 0x61)
  else if c.isAsciiUpper then some (c.val - 0x41)
  else if c.isAsciiDigit then some (c.val - 0x30 + 26)
  else none

/-- The bias from an adjusted number; `k` grows by 36 with each division. -/
def shrink (k delta : Nat) : Nat :=
  if delta > 455 then shrink (k + 36) (delta / 35) else k + 36 * delta / (delta + 38)
termination_by delta

/-- The bias after a number, when a text has `count` code points. -/
def adapt (delta count : Nat) (first : Bool) : Nat :=
  let delta := if first then delta / 700 else delta / 2
  shrink 0 (delta + delta / count)

/-- The threshold of the digit at place `k`. -/
def threshold (bias k : Nat) : Nat :=
  if k ≤ bias then 1 else if k ≥ bias + 26 then 26 else k - bias

/-- A threshold is positive, so that numbers shrink digit by digit. -/
theorem threshold_pos (bias k : Nat) : 0 < threshold bias k := by
  unfold threshold
  split
  · omega
  · split <;> omega

/-- The digits of a number; `k` is the place of the next one. -/
def writeNumber (bias k n : Nat) : Text :=
  let t := threshold bias k
  if n < t then [digit n]
  else digit (t + (n - t) % (36 - t)) :: writeNumber bias (k + 36) ((n - t) / (36 - t))
termination_by n
decreasing_by
  have := threshold_pos bias k
  have := Nat.div_le_self (n - threshold bias k) (36 - threshold bias k)
  omega

/-- How far the writing of a text has come. -/
structure Progress where
  /-- The number of places passed since the last one written. -/
  delta : Nat
  /-- The bias of the next number. -/
  bias : Nat
  /-- How many code points are written. -/
  handled : Nat
  /-- What is written. -/
  out : Text

/-- Write the occurrences of the code point `n` in a text. -/
def writeOccurrences (basic n : Nat) (p : Progress) (t : Text) : Progress :=
  t.foldl (fun p c =>
    if c.val < n then { p with delta := p.delta + 1 }
    else if c.val = n then
      { delta := 0
        bias := adapt p.delta (p.handled + 1) (p.handled = basic)
        handled := p.handled + 1
        out := p.out ++ writeNumber p.bias 36 p.delta }
    else p) p

/-- Write the code points from `n` on, which are listed in order. -/
def writePoints (basic : Nat) (t : Text) : Nat → Progress → List Nat → Progress
  | _, p, [] => p
  | n, p, m :: rest =>
    let p := { p with delta := p.delta + (m - n) * (p.handled + 1) }
    let p := writeOccurrences basic m p t
    writePoints basic t (m + 1) { p with delta := p.delta + 1 } rest

/-- The ASCII form of a text. -/
def encode (t : Text) : Text :=
  let basic := t.filter (·.val < 0x80)
  let others := ((t.filter (·.val ≥ 0x80)).map (·.val)).eraseDups.mergeSort (· ≤ ·)
  let begun := if basic.isEmpty then [] else basic ++ Text.ofString "-"
  (writePoints basic.length t 0x80 ⟨0, 72, basic.length, begun⟩ others).out

/-- The number at the beginning of a text and what follows it. The next digit has the place `k` and
is worth `weight`, and those before it are worth `n`. -/
def readNumber? (bias k weight n : Nat) : Text → Option (Nat × Text)
  | [] => none
  | c :: rest =>
    match digitValue? c with
    | none => none
    | some d =>
      let t := threshold bias k
      if d < t then some (n + d * weight, rest)
      else readNumber? bias (k + 36) (weight * (36 - t)) (n + d * weight) rest

/-- Put the code points that numbers describe into a text. The next one is at least `point` and is
counted from `place`; `fuel` bounds the count of numbers. -/
def insertPoints? (first : Bool) (bias point place : Nat) (t : Text) : Nat → Text → Option Text
  | _, [] => some t
  | 0, _ => none
  | fuel + 1, numbers =>
    match readNumber? bias 36 1 0 numbers with
    | none => none
    | some (delta, rest) =>
      let room := t.length + 1
      let point := point + (place + delta) / room
      let place := (place + delta) % room
      if h : point < 0x110000 then
        insertPoints? false (adapt delta room first) point (place + 1)
          (t.take place ++ ⟨point, h⟩ :: t.drop place) fuel rest
      else none

/-- The text of an ASCII form. -/
def decode? (t : Text) : Option Text :=
  let numbers := (t.reverse.takeWhile (·.val ≠ 0x2D)).reverse
  insertPoints? true 72 0x80 0 (t.take (t.length - numbers.length - 1)) numbers.length numbers

end Punycode

end BenefitForm
