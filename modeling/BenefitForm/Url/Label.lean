import BenefitForm.Failure
import BenefitForm.Text.Composed
import BenefitForm.Text.Direction
import BenefitForm.Text.Mark
import BenefitForm.Url.LabelPoint
import BenefitForm.Url.Punycode

/-!
# Labels of host names

A host name is labels with points between them. A label may hold letters, digits
and marks of any script; what it holds besides has to stand where its context
allows it, and a label that is written from the right keeps to the rules of its
direction (`Label.check`).

- `HostName.encode`: the ASCII form of a name, in which `xn--` announces a label
  with other than ASCII code points.
- `HostName.decode`: the name of an ASCII form.
-/

namespace BenefitForm

namespace Label

/-- Whether letters that join reach a place past transparent ones. `side` lists the code points from
the place on, and `joins` says which letters join there. -/
def isJoined (joins : Joining → Bool) (side : Text) : Bool :=
  match (side.dropWhile fun c => c.joining? = some .transparent).head?.bind CodePoint.joining? with
  | some j => joins j
  | none => false

/-- Whether a code point may stand between what precedes it, read backwards, and what follows. -/
def fits (label before after : Text) (c : CodePoint) : Bool :=
  let letter (n : Nat) (side : Text) : Bool := side.head?.any (·.val = n)
  match c.val with
  | 0x200C =>
    before.head?.any (·.combiningClass = 9)
      || (isJoined (fun j => j = .next || j = .both) before
        && isJoined (fun j => j = .previous || j = .both) after)
  | 0x200D => before.head?.any (·.combiningClass = 9)
  | 0xB7 => letter 0x6C before && letter 0x6C after
  | 0x375 => after.head?.any CodePoint.isGreek
  | 0x5F3 | 0x5F4 => before.head?.any CodePoint.isHebrew
  | 0x30FB => label.any CodePoint.isEastAsian
  | _ =>
    if 0x660 ≤ c.val && c.val ≤ 0x669 then
      !label.any fun d => 0x6F0 ≤ d.val && d.val ≤ 0x6F9
    else !label.any fun d => 0x660 ≤ d.val && d.val ≤ 0x669

/-- Whether a code point may stand in some contexts only. -/
def needsContext (c : CodePoint) : Bool :=
  inRanges [(0xB7, 0xB7), (0x375, 0x375), (0x5F3, 0x5F4), (0x660, 0x669), (0x6F0, 0x6F9),
    (0x200C, 0x200D), (0x30FB, 0x30FB)] c.val

/-- The first problem with the code points of a label after `before`, which is backwards. -/
def pointProblem? (label before : Text) : Text → Option NameProblem
  | [] => none
  | c :: rest =>
    if c.isLabelPoint then pointProblem? label (c :: before) rest
    else if !needsContext c then some .codePoint
    else if fits label before rest c then pointProblem? label (c :: before) rest
    else some .context

/-- The directions that a label may hold when it is written from the right. -/
def rightward : List Direction :=
  [.right, .arabic, .arabicNumber, .number, .separator, .neutral, .boundary, .mark]

/-- The directions that a label may hold when it is written from the left. -/
def leftward : List Direction := [.left, .number, .separator, .neutral, .boundary, .mark]

/-- The last direction that is not that of a mark. -/
def lastDirection? (ds : List Direction) : Option Direction :=
  (ds.reverse.dropWhile (· = .mark)).head?

/-- Whether a label keeps to the rules of its direction. They hold for labels with a code point
that is written from the right. -/
def isDirected (label : Text) : Bool :=
  let ds := label.map CodePoint.direction
  if ds.contains .unknown then false
  else if !ds.any fun d => d = .right || d = .arabic || d = .arabicNumber then true
  else if ds.head?.any fun d => d = .right || d = .arabic then
    ds.all rightward.contains
      && (lastDirection? ds).any (fun d => [.right, .arabic, .number, .arabicNumber].contains d)
      && !(ds.contains .arabicNumber && ds.contains .number)
  else
    ds.head?.any (· = .left) && ds.all leftward.contains
      && (lastDirection? ds).any (fun d => d = .left || d = .number)

/-- What keeps a label from being valid. -/
def problem? (label : Text) : Option NameProblem :=
  let hyphen (c : Option CodePoint) : Bool := c.any (·.val = 0x2D)
  if label.isEmpty || !label.isComposed || (label.drop 2).take 2 = Text.ofString "--"
      || hyphen label.head? || hyphen label.getLast? || label.head?.any CodePoint.isMark then
    some .form
  else match pointProblem? label [] label with
    | some p => some p
    | none => if isDirected label then none else some .direction

/-- A label that is valid. -/
def check (label : Text) : Except NameProblem Text :=
  match problem? label with
  | some p => .error p
  | none => .ok label

/-- What announces a label with other than ASCII code points. -/
def mark : Text := Text.ofString "xn--"

/-- The label of an ASCII form. -/
def decode (ascii : Text) : Except NameProblem Text :=
  let ascii := ascii.map fun c => if c.isAsciiUpper then .ofNat (c.val + 0x20) else c
  if mark.isPrefixOf ascii then
    let digits := ascii.drop mark.length
    if digits.isEmpty || digits.getLast?.any (·.val = 0x2D) then .error .form
    else match Punycode.decode? digits with
      | some label => check label
      | none => .error .form
  else check ascii

/-- The ASCII form of a label. -/
def encode (label : Text) : Except NameProblem Text := do
  let ascii ← if label.all (·.val < 0x80) then do
      let _ ← decode label
      pure label
    else do
      let _ ← check label
      pure (mark ++ Punycode.encode label)
  if ascii.length ≤ 63 then return ascii else throw .form

end Label

namespace HostName

/-- Whether a code point separates labels. -/
def isPoint (c : CodePoint) : Bool :=
  c.val = 0x2E || c.val = 0x3002 || c.val = 0xFF0E || c.val = 0xFF61

/-- The labels of a name, and whether a point ends it. -/
def labels (name : Text) : List Text × Bool :=
  let parts := Text.splitOn '.' (name.map fun c => if isPoint c then .ofChar '.' else c)
  if parts.getLast? = some [] then (parts.dropLast, true) else (parts, false)

/-- The ASCII form of a name. -/
def encode (name : Text) : Except NameProblem Text := do
  let (parts, ended) := labels name
  let parts ← parts.mapM Label.encode
  let ascii := Text.join (Text.ofString ".") (if ended then parts ++ [[]] else parts)
  if ascii.length ≤ (if ended then 254 else 253) then return ascii else throw .form

/-- The name of an ASCII form. -/
def decode (ascii : Text) : Except NameProblem Text := do
  let (parts, ended) := labels ascii
  let parts ← parts.mapM Label.decode
  return Text.join (Text.ofString ".") (if ended then parts ++ [[]] else parts)

end HostName

end BenefitForm
