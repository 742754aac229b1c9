/-!
# Code points and text

Form definitions, wallets and submissions arrive as JSON, and a JSON string may
hold a surrogate that is half of no pair. `Char` cannot hold one, so text is a
list of `CodePoint`s, which can.

- `CodePoint`: a number below `0x110000`; every `Char` is one (`CodePoint.ofChar`).
- `Text`: a list of code points, ordered code point by code point.
- `Text.splitOn`, `Text.join`, `Text.occursIn`: cutting, joining and searching.
- `Text.lines`: the lines of a text.
- `Text.ofNat`, `Text.ofInt`: numerals in base ten.
-/

namespace BenefitForm

/-- A Unicode code point; unlike a `Char` it may be a surrogate. -/
structure CodePoint where
  /-- The number of the code point. -/
  val : Nat
  /-- Code points end at `0x10FFFF`. -/
  lt : val < 0x110000
deriving DecidableEq

namespace CodePoint

/-- A character's code point. -/
def ofChar (c : Char) : CodePoint where
  val := c.toNat
  lt := by
    have h := c.valid
    simp only [UInt32.isValidChar, Nat.isValidChar] at h
    show c.val.toNat < _
    omega

instance : Coe Char CodePoint := ⟨ofChar⟩

/-- The code point of a number, and the replacement character above the last one. -/
def ofNat (n : Nat) : CodePoint :=
  if h : n < 0x110000 then ⟨n, h⟩ else ⟨0xFFFD, by decide⟩

instance : LT CodePoint := ⟨fun a b => a.val < b.val⟩

instance (a b : CodePoint) : Decidable (a < b) := inferInstanceAs (Decidable (a.val < b.val))

instance : Inhabited CodePoint := ⟨⟨0, by decide⟩⟩

/-- One of `D800` to `DFFF`, which no encoding form of Unicode can write. -/
def isSurrogate (c : CodePoint) : Bool := 0xD800 ≤ c.val && c.val ≤ 0xDFFF

/-- The first half of a surrogate pair. -/
def isHighSurrogate (c : CodePoint) : Bool := 0xD800 ≤ c.val && c.val ≤ 0xDBFF

/-- The second half of a surrogate pair. -/
def isLowSurrogate (c : CodePoint) : Bool := 0xDC00 ≤ c.val && c.val ≤ 0xDFFF

/-- `a` to `z`. -/
def isAsciiLower (c : CodePoint) : Bool := 0x61 ≤ c.val && c.val ≤ 0x7A

/-- `A` to `Z`. -/
def isAsciiUpper (c : CodePoint) : Bool := 0x41 ≤ c.val && c.val ≤ 0x5A

/-- `0` to `9`. -/
def isAsciiDigit (c : CodePoint) : Bool := 0x30 ≤ c.val && c.val ≤ 0x39

/-- ASCII letters, digits and the underscore. -/
def isAsciiWord (c : CodePoint) : Bool :=
  c.isAsciiLower || c.isAsciiUpper || c.isAsciiDigit || c.val == 0x5F

/-- Capitals for `a` to `z`; every other code point is its own capital. -/
def asciiUpper (c : CodePoint) : CodePoint :=
  if c.isAsciiLower then ofNat (c.val - 0x20) else c

end CodePoint

/-- Membership in one of a table's closed ranges. -/
def inRanges (table : List (Nat × Nat)) (n : Nat) : Bool :=
  table.any fun r => r.1 ≤ n && n ≤ r.2

/-- A text: the sequence of its code points. -/
abbrev Text := List CodePoint

namespace Text

instance : LawfulBEq Text := inferInstance

/-- The code points of a string's characters. -/
def ofString (s : String) : Text := s.toList.map CodePoint.ofChar

instance : Coe String Text := ⟨ofString⟩

/-- Order by the first code point that differs, a beginning before what extends it. -/
def le (a b : Text) : Bool := decide (a ≤ b)

/-- The parts of a text between the occurrences of one code point; never empty. -/
def splitOn (sep : CodePoint) (t : Text) : List Text :=
  t.foldr (fun c parts =>
    if c = sep then [] :: parts
    else match parts with
      | [] => [[c]]
      | part :: rest => (c :: part) :: rest) [[]]

/-- The texts in order with a separator between neighbours. -/
def join (sep : Text) : List Text → Text
  | [] => []
  | [t] => t
  | t :: rest => t ++ sep ++ join sep rest

/-- Whether `part` is a contiguous part of `t`; the empty text is part of every text. -/
def occursIn (part : Text) : Text → Bool
  | [] => part.isEmpty
  | c :: rest => part.isPrefixOf (c :: rest) || occursIn part rest

/-- The position of the first occurrence of `part`. -/
def findPart? (part : Text) : Text → Option Nat
  | [] => if part.isEmpty then some 0 else none
  | c :: rest =>
    if part.isPrefixOf (c :: rest) then some 0 else (findPart? part rest).map (· + 1)

/-- Whether a code point ends a line. -/
def endsLine (c : CodePoint) : Bool :=
  (0x0A ≤ c.val && c.val ≤ 0x0D) || (0x1C ≤ c.val && c.val ≤ 0x1E) || c.val = 0x85
    || c.val = 0x2028 || c.val = 0x2029

/-- The lines of a text without what ends them. A carriage return and the line feed after it end
one line; nothing follows the last end. -/
def lines (t : Text) : List Text := go [] false t
where
  /-- The lines of a text after what `line` holds backwards. -/
  go (line : Text) (afterReturn : Bool) : Text → List Text
    | [] => if line.isEmpty then [] else [line.reverse]
    | c :: rest =>
      if afterReturn && c.val = 0x0A then go line false rest
      else if endsLine c then line.reverse :: go [] (c.val = 0x0D) rest
      else go (c :: line) false rest

/-- One code point repeated. -/
def padding (n : Nat) (c : CodePoint) : Text := List.replicate n c

/-- A numeral in base ten. -/
def ofNat (n : Nat) : Text := (Nat.toDigits 10 n).map CodePoint.ofChar

/-- A numeral in base ten, with a minus sign before the digits of a negative number. -/
def ofInt : Int → Text
  | .ofNat n => ofNat n
  | .negSucc n => CodePoint.ofChar '-' :: ofNat (n + 1)

/-- The text as a string; a surrogate becomes the replacement character. -/
def asString (t : Text) : String := String.ofList (t.map fun c =>
  if c.isSurrogate then Char.ofNat 0xFFFD else Char.ofNat c.val)

end Text

end BenefitForm
