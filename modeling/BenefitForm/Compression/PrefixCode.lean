/-!
# Prefix codes

A prefix code gives each symbol a word of bits so that no word begins another.
A canonical code is known by the lengths of its words alone: words of one length
follow one another in the order of their symbols, and shorter words come first.

- `PrefixCode.ofLengths?`: the code of the lengths, unless they fit no code.
- `PrefixCode.read`: the symbol of the word that bits begin with.
-/

namespace BenefitForm

/-- A canonical prefix code. -/
structure PrefixCode where
  /-- How many words there are of length 1, 2 and so on. -/
  counts : List Nat
  /-- The symbols in the order of their words. -/
  symbols : Array Nat

/-- What bits begin with. -/
inductive CodeWord where
  /-- The word of a symbol, and the bits that follow. -/
  | symbol (s : Nat) (rest : List Bool)
  /-- Bits that begin no word, and those that follow. -/
  | unknown (rest : List Bool)
  /-- The bits end within a word. -/
  | incomplete

namespace PrefixCode

/-- The most bits of a word. -/
def maxLength : Nat := 15

/-- The words that are left over when those of the counts are taken; none where there are too few
words. -/
def spare? (left : Nat) : List Nat → Option Nat
  | [] => some left
  | count :: rest => if count ≤ 2 * left then spare? (2 * left - count) rest else none

/-- The code in which each symbol has a word of the length listed for it; zero stands for no word.
Every word has to be in use, unless there is one word of one bit or none at all; a strict code may
have none, but not one. -/
def ofLengths? (strict : Bool) (lengths : List Nat) : Option PrefixCode :=
  let longest := max 1 (lengths.foldl max 0)
  let ofLength (n : Nat) : List Nat :=
    (lengths.zipIdx.filter fun l => l.1 = n).map (·.2)
  let sizes := (List.range longest).map (· + 1)
  let counts := sizes.map fun n => lengths.count n
  let code : PrefixCode := ⟨counts, (sizes.flatMap ofLength).toArray⟩
  match spare? 1 counts with
  | none => none
  | some left =>
    if left = 0 || lengths.all (· = 0) || (longest = 1 && !strict) then some code else none

/-- Find a word among those that are at least as long as what is read. The bits read are the number
`word`, `first` is the first word of the length that the next bit makes, and `before` counts the
shorter words. -/
def find (symbols : Array Nat) (word first before : Nat) : List Nat → List Bool → CodeWord
  | [], bits => .unknown bits
  | _, [] => .incomplete
  | count :: counts, bit :: bits =>
    let word := 2 * word + bit.toNat
    if word < first + count then
      match symbols[before + (word - first)]? with
      | some s => .symbol s bits
      | none => .unknown bits
    else find symbols word (2 * (first + count)) (before + count) counts bits

/-- The symbol of the word that bits begin with. -/
def read (code : PrefixCode) (bits : List Bool) : CodeWord :=
  find code.symbols 0 0 0 code.counts bits

end PrefixCode

end BenefitForm
