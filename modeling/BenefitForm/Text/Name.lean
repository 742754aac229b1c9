import BenefitForm.Text
import BenefitForm.Text.Name.Alphabet
import BenefitForm.Text.Name.Ancient
import BenefitForm.Text.Name.Further
import BenefitForm.Text.Name.Picture
import BenefitForm.Text.Name.Sign
import BenefitForm.Text.Name.Syllable

/-!
# Code points by name

`CodePoint.named?` finds the code point that has a name, as Unicode 14 gives them.
Four kinds of names follow rules and are in no table:

- the syllables of Hangul are spelled by their parts (`syllableNamed?`),
- the unified ideographs have their number in their name (`ideographNamed?`),
- so have the code points of some other ranges (`numbered?`),
- the variation selectors have numbers too (`selector?`).

The letter case of a name does not matter, but for the first two kinds.
-/

namespace BenefitForm

namespace Text

/-- What follows a beginning. -/
def after? (beginning : String) (t : Text) : Option Text :=
  if (ofString beginning).isPrefixOf t then some (t.drop (ofString beginning).length) else none

/-- The words of a name; a word ends after its blank or hyphen. -/
def nameWords : Text → List Text
  | [] => []
  | c :: rest =>
    if c = ' ' || c = '-' then [c] :: nameWords rest
    else match nameWords rest with
      | [] => [[c]]
      | word :: words => (c :: word) :: words

end Text

namespace CodePoint

/-! ### Names in tables -/

/-- The words of a name as a table writes it, after the words of the name before it. -/
def expandName (previous : List Text) : Text → List Text
  | [] => []
  | c :: rest =>
    if c.isAsciiDigit then previous.take (c.val - 0x30) ++ Text.nameWords rest
    else Text.nameWords (c :: rest)

/-- The words of the names of a row. -/
def expandRow (previous : List Text) : List Text → List (List Text)
  | [] => []
  | written :: rest => expandName previous written :: expandRow (expandName previous written) rest

/-- The number of the code point in a table whose name has the words sought. -/
def findWords? (sought previous : List Text) : List (Nat × String) → Option Nat
  | [] => none
  | (first, row) :: rows =>
    let names := expandRow previous (Text.splitOn '|' (Text.ofString row))
    match names.findIdx? (· = sought) with
    | some i => some (first + i)
    | none => findWords? sought (names.getLast?.getD previous) rows

/-- The number of the code point whose name is in a table. -/
def tabled? (name : Text) : Option Nat :=
  ((furtherNames.find? fun e => Text.ofString e.2 = name).map (·.1)).or
    ([alphabetNames, signNames, syllableNames, ancientNames, pictureNames].findSome?
      (findWords? (Text.nameWords name) []))

/-! ### Names by rules -/

/-- The value of a hexadecimal digit with a capital letter. -/
def capitalHex? (c : CodePoint) : Option Nat :=
  if c.isAsciiDigit then some (c.val - 0x30)
  else if 0x41 ≤ c.val && c.val ≤ 0x46 then some (c.val - 0x37)
  else none

/-- The number that four or five hexadecimal digits are. -/
def hexNumber? (t : Text) : Option Nat :=
  if t.length = 4 || t.length = 5 then
    (t.mapM capitalHex?).map (·.foldl (fun n d => n * 16 + d) 0)
  else none

/-- The ranges of code points that have their number at the end of their name. -/
def numberedRanges : List (String × Nat × Nat) :=
  [("CJK COMPATIBILITY IDEOGRAPH-", 0xF900, 0xFA6D),
    ("CJK COMPATIBILITY IDEOGRAPH-", 0xFA70, 0xFAD9),
    ("KHITAN SMALL SCRIPT CHARACTER-", 0x18B00, 0x18CD5),
    ("NUSHU CHARACTER-", 0x1B170, 0x1B2FB),
    ("CJK COMPATIBILITY IDEOGRAPH-", 0x2F800, 0x2FA1D)]

/-- The number of a code point that has it at the end of its name. -/
def numbered? (name : Text) : Option Nat :=
  numberedRanges.findSome? fun (beginning, low, high) => do
    let digits ← name.after? beginning
    let n ← hexNumber? digits
    if low ≤ n && n ≤ high && (digits.length = 4) == (n < 0x10000) then some n else none

/-- The number of a variation selector, which are numbered in two ranges. -/
def selector? (name : Text) : Option Nat := do
  let digits ← name.after? "VS"
  let n := (List.range 257).find? fun n => n ≠ 0 && Text.ofNat n = digits
  n.map fun n => if n ≤ 16 then 0xFDFF + n else 0xE00EF + n

/-- The ranges of the unified ideographs. -/
def ideographRanges : List (Nat × Nat) :=
  [(0x3400, 0x4DBF), (0x4E00, 0x9FFF), (0x20000, 0x2A6DF), (0x2A700, 0x2B738),
    (0x2B740, 0x2B81D), (0x2B820, 0x2CEA1), (0x2CEB0, 0x2EBE0), (0x30000, 0x3134A)]

/-- The number of the ideograph whose name has these digits. -/
def ideographNamed? (digits : Text) : Option Nat :=
  (hexNumber? digits).filter (inRanges ideographRanges)

/-- The consonants with which a syllable may begin. -/
def firstParts : List String :=
  ["G", "GG", "N", "D", "DD", "R", "M", "B", "BB", "S", "SS", "", "J", "JJ", "C", "K", "T",
    "P", "H"]

/-- The vowels of syllables. -/
def vowelParts : List String :=
  ["A", "AE", "YA", "YAE", "EO", "E", "YEO", "YE", "O", "WA", "WAE", "OE", "YO", "U", "WEO", "WE",
    "WI", "YU", "EU", "YI", "I"]

/-- The consonants with which a syllable may end. -/
def lastParts : List String :=
  ["", "G", "GG", "GS", "N", "NJ", "NH", "D", "L", "LG", "LM", "LB", "LS", "LT", "LP", "LH", "M",
    "B", "BS", "S", "SS", "NG", "J", "C", "K", "T", "P", "H"]

/-- The position of the longest part with which a text begins, and what follows it. -/
def longestPart? (parts : List String) (t : Text) : Option (Nat × Text) :=
  parts.zipIdx.foldl (fun best (part, i) =>
    match t.after? part, best with
    | some rest, some (_, shortest) =>
      if rest.length < shortest.length then some (i, rest) else best
    | some rest, none => some (i, rest)
    | none, best => best) none

/-- The number of the syllable that is spelled by its parts. -/
def syllableNamed? (spelling : Text) : Option Nat := do
  let (first, rest) ← longestPart? firstParts spelling
  let (vowel, rest) ← longestPart? vowelParts rest
  let (last, rest) ← longestPart? lastParts rest
  if rest.isEmpty then
    some (0xAC00 + (first * vowelParts.length + vowel) * lastParts.length + last)
  else none

/-- The code point that has a name. -/
def named? (name : Text) : Option CodePoint :=
  (match name.after? "HANGUL SYLLABLE ", name.after? "CJK UNIFIED IDEOGRAPH-" with
    | some spelling, _ => syllableNamed? spelling
    | none, some digits => ideographNamed? digits
    | none, none =>
      let name := name.map asciiUpper
      ((selector? name).or (numbered? name)).or (tabled? name)).map .ofNat

end CodePoint

end BenefitForm
