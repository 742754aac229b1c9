import BenefitForm.Text.Word

/-!
# Readable labels

Proofs are named in a row of words with capitals inside (`incomeCertificate`).
`Label.humanize` sets a space where a small letter meets a capital and writes
every word with a capital first letter, in each of the parts between slashes.
Only ASCII letters are touched.
-/

namespace BenefitForm

namespace Label

/-- A space between every small letter and the capital after it. -/
def separateWords : Text → Text
  | [] => []
  | [c] => [c]
  | c :: d :: rest =>
    if c.isAsciiLower && d.isAsciiUpper then c :: ' ' :: separateWords (d :: rest)
    else c :: separateWords (d :: rest)

/-- Capitals for letters that no letter, digit or underscore precedes; `inWord` says whether one
precedes the text. -/
def capitalizeFrom (inWord : Bool) : Text → Text
  | [] => []
  | c :: rest =>
    (if inWord then c else c.asciiUpper) :: capitalizeFrom c.isAsciiWord rest

/-- One part of a label, readable. -/
def humanizePart (t : Text) : Text := capitalizeFrom false (separateWords t.strip)

/-- A label, readable. -/
def humanize (label : Text) : Text :=
  Text.join (Text.ofString " / ") ((Text.splitOn '/' label).map humanizePart)

end Label

end BenefitForm
