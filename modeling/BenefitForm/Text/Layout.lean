import BenefitForm.Json.Display
import BenefitForm.Number.Rounded
import BenefitForm.Text.Word

/-!
# Layouts

A layout says how a value is shown: in which width and where in it, with which
sign, in which base or form, with how many digits. It is written as

    fill alignment sign z # 0 width separator .precision letter

where every part may be missing. `Layout.read` reads it, `Layout.ofText`,
`Layout.ofWhole` and `Layout.ofBinary` show a text, a whole number and a
floating-point number, and `Json.laidOut` shows any value. Parts that mean
nothing for a kind of value are refused for it.
-/

namespace BenefitForm

/-- Where a value stands in its width. -/
inductive Alignment where
  | left
  | right
  | center
  /-- At the right, with what fills the width behind the sign. -/
  | afterSign
deriving DecidableEq

/-- How a value is shown. -/
structure Layout where
  /-- What fills the width. -/
  fill : CodePoint := ' '
  /-- Where the value stands, if that is said. -/
  alignment? : Option Alignment := none
  /-- The mark for the sign, if there is one. -/
  sign? : Option CodePoint := none
  /-- Whether a zero has no sign. -/
  unsignedZero : Bool := false
  /-- Whether the base is marked and the point is always there. -/
  alternate : Bool := false
  /-- Whether a zero before the width asks for zeros. -/
  zeros : Bool := false
  /-- The least width. -/
  width : Nat := 0
  /-- What separates groups of digits. -/
  separator? : Option CodePoint := none
  /-- The precision. -/
  precision? : Option Nat := none
  /-- The letter of a form. -/
  letter? : Option CodePoint := none

namespace Layout

/-- The greatest number in a layout. -/
def maxNumber : Nat := 9223372036854775807

/-- The greatest precision of a floating-point number. -/
def maxPrecision : Nat := 2147483647

/-- The most code points that a value may be padded to. -/
def maxRoom : Nat := 100000000

/-- The alignment of a mark. -/
def alignmentOf? (c : CodePoint) : Option Alignment :=
  if c.val = 0x3C then some .left
  else if c.val = 0x3E then some .right
  else if c.val = 0x5E then some .center
  else if c.val = 0x3D then some .afterSign
  else none

/-- Decimal digits of any script at the beginning of a text, and what follows. -/
def readNumber (t : Text) : Except Fault (Option Nat × Text) :=
  let digits := t.takeWhile fun c => c.digit?.isSome
  let value := (digits.filterMap CodePoint.digit?).foldl (fun n d => n * 10 + d) 0
  if value > maxNumber then .error .invalidValue
  else .ok (if digits.isEmpty then none else some value, t.drop digits.length)

/-- Read the fill and the alignment; says whether there is a fill. -/
def readAlignment : Text → Layout × Bool × Text
  | c :: mark :: rest =>
    match alignmentOf? mark with
    | some a => ({ fill := c, alignment? := some a }, true, rest)
    | none =>
      match alignmentOf? c with
      | some a => ({ alignment? := some a }, false, mark :: rest)
      | none => ({}, false, c :: mark :: rest)
  | [c] =>
    match alignmentOf? c with
    | some a => ({ alignment? := some a }, false, [])
    | none => ({}, false, [c])
  | [] => ({}, false, [])

/-- Read the sign. -/
def readSign (l : Layout) : Text → Layout × Text
  | c :: rest =>
    if c.val = 0x20 || c.val = 0x2B || c.val = 0x2D then ({ l with sign? := some c }, rest)
    else (l, c :: rest)
  | [] => (l, [])

/-- Take a mark at the beginning of a text. -/
def readMark (mark : Char) : Text → Bool × Text
  | c :: rest => if c = CodePoint.ofChar mark then (true, rest) else (false, c :: rest)
  | [] => (false, [])

/-- Read what separates groups of digits: a comma or an underscore, not both. -/
def readSeparator (l : Layout) (t : Text) : Except Fault (Layout × Text) :=
  let (comma, t) := readMark ',' t
  let (underscore, t) := readMark '_' t
  if underscore && (comma || (readMark ',' t).1) then .error .invalidValue
  else .ok ({ l with separator? := if comma then some (.ofChar ',')
      else if underscore then some (.ofChar '_') else none }, t)

/-- Read the precision after its point. -/
def readPrecision (l : Layout) (t : Text) : Except Fault (Layout × Text) :=
  match readMark '.' t with
  | (false, t) => .ok (l, t)
  | (true, t) => do
    match ← readNumber t with
    | (some p, rest) => return ({ l with precision? := some p }, rest)
    | (none, _) => throw .invalidValue

/-- Whether a letter is one of those in a string. -/
def letterIn (letters : String) (c : CodePoint) : Bool := (Text.ofString letters).contains c

/-- How many digits a separator groups: three, or four in a base other than ten. -/
def groupSize (l : Layout) : Nat := if l.letter?.any (letterIn "boxX") then 4 else 3

/-- Whether the letter goes with the separator. -/
def separates (l : Layout) : Bool :=
  match l.separator?, l.letter? with
  | none, _ => true
  | some _, none => true
  | some s, some c => letterIn "defgEGF%" c || (s.val = 0x5F && letterIn "boxX" c)

/-- The layout that a text describes. -/
def read (t : Text) : Except Fault Layout := do
  let (l, filled, t) := readAlignment t
  let (l, t) := readSign l t
  let (unsignedZero, t) := readMark 'z' t
  let (alternate, t) := readMark '#' t
  let (zero, t) := if filled then (false, t) else readMark '0' t
  let (width?, t) ← readNumber t
  let (l, t) ← readSeparator { l with
    unsignedZero := unsignedZero, alternate := alternate, zeros := zero
    fill := if zero then '0' else l.fill
    width := width?.getD 0 } t
  let (l, t) ← readPrecision l t
  let l ← match t with
    | [] => pure l
    | [c] => pure { l with letter? := some c }
    | _ => throw .invalidValue
  if l.separates then return l else throw .invalidValue

/-- A value in its width: what precedes the fill and what follows it at the right. Of an odd number
of fills around a centred value one more follows. -/
def padded (l : Layout) (usual : Alignment) (lead body : Text) : Except Fault Text :=
  if l.width > maxRoom then .error .noRoom
  else
    let missing := l.width - (lead.length + body.length)
    .ok (match l.alignment?.getD usual with
      | .left => lead ++ body ++ Text.padding missing l.fill
      | .right => Text.padding missing l.fill ++ lead ++ body
      | .afterSign => lead ++ Text.padding missing l.fill ++ body
      | .center => Text.padding (missing / 2) l.fill ++ lead ++ body
          ++ Text.padding (missing - missing / 2) l.fill)

/-- A text in a layout. -/
def ofText (l : Layout) (t : Text) : Except Fault Text :=
  if l.sign?.isSome || l.unsignedZero || l.alternate || l.separator?.isSome
      || l.alignment? = some .afterSign || l.letter?.any (·.val ≠ 0x73) then .error .invalidValue
  else l.padded .left [] (match l.precision? with
    | some p => t.take p
    | none => t)

/-- Digits in groups with separators between them, from the last digit to the first; zeros precede
them up to a least length. `fuel` bounds the count of groups. -/
def groupBackwards (separator : CodePoint) (size : Nat) : Nat → Int → Text → Text
  | 0, _, digits => digits
  | fuel + 1, least, digits =>
    let count := min size (max (max digits.length least.toNat) 1)
    let group := digits.take count
    let group := group ++ Text.padding (count - group.length) '0'
    let rest := digits.drop count
    let least := least - count
    if rest.isEmpty && least ≤ 0 then group
    else group ++ separator :: groupBackwards separator size fuel (least - 1) rest

/-- The digits of a number in their groups. Where zeros fill the width behind the sign they are
digits of the number. `used` is the room that is taken by all else. -/
def groupedDigits (l : Layout) (usual : Alignment) (used : Nat) (digits : Text) : Text :=
  let fills := l.fill.val = 0x30 && l.alignment?.getD usual = .afterSign
  let least : Int := if fills then (min l.width maxRoom : Nat) - used else 0
  match l.separator? with
  | some separator =>
    (groupBackwards separator l.groupSize (digits.length + least.toNat + 1) least
      digits.reverse).reverse
  | none => Text.padding (least.toNat - digits.length) '0' ++ digits

/-- A number in a layout: its sign, the mark of its base, the digits before the point and what
follows them. -/
def ofDigits (l : Layout) (negative : Bool) (mark digits rest : Text) : Except Fault Text :=
  let usual : Alignment := if l.zeros then .afterSign else .right
  let sign : Text := if negative then ['-'] else match l.sign? with
    | some c => if c.val = 0x2D then [] else [c]
    | none => []
  let lead := sign ++ mark
  let shown := if digits.isEmpty then []
    else l.groupedDigits usual (lead.length + rest.length) digits
  l.padded usual lead (shown ++ rest)

/-- The digits of a magnitude at the beginning of its text, and what follows them. -/
def splitDigits (t : Text) : Text × Text :=
  let digits := t.takeWhile (·.isAsciiDigit)
  (digits, t.drop digits.length)

/-- The text of a finite magnitude with the letter of a form in small. -/
def magnitudeText (l : Layout) (form : CodePoint) (m : Nat) (e : Int) : Text :=
  let precision := l.precision?.getD 6
  match form.val with
  | 0x65 => Binary64.scientificText m e precision l.alternate
  | 0x66 => Binary64.fixedText m e precision l.alternate
  | _ => Binary64.generalText m e precision l.alternate

/-- The text of a finite magnitude without a letter. -/
def usualText (l : Layout) (m : Nat) (e : Int) : Text :=
  match l.precision? with
  | some p => Binary64.pointedText m e p l.alternate
  | none =>
    let t := Binary64.magnitudeText m e
    if l.alternate && !t.contains '.' then t.take 1 ++ Text.ofString "." ++ t.drop 1 else t

/-- Whether every digit before the exponent is zero. -/
def showsZero (t : Text) : Bool :=
  (t.takeWhile (·.val ≠ 0x65)).all fun c => c.val = 0x30 || c.val = 0x2E

/-- A hundred times a number. -/
def hundredfold : Binary64 → Binary64
  | .finite negative m e =>
    let (num, den) := Binary64.magnitudeRatio m e
    .ofRatio negative (num * 100) den
  | x => x

/-- A floating-point number in a layout. -/
def ofBinary (l : Layout) (x : Binary64) : Except Fault Text :=
  if l.letter?.any fun c => !letterIn "eEfFgGn%" c then .error .invalidValue
  else if l.precision?.any (· > maxPrecision) then .error .invalidValue
  else if l.precision?.any (· > maxRoom) then .error .noRoom
  else
    let percent := l.letter?.any (·.val = 0x25)
    let x := if percent then hundredfold x else x
    let (negative, shown) : Bool × Text := match x with
      | .nan => (false, Text.ofString "nan")
      | .infinite negative => (negative, Text.ofString "inf")
      | .finite negative m e =>
        let t := match l.letter? with
          | none => l.usualText m e
          | some c => l.magnitudeText (if letterIn "eE" c then 'e'
              else if letterIn "fF%" c then 'f' else 'g') m e
        (negative && !(l.unsignedZero && showsZero t), t)
    let shown := if l.letter?.any (letterIn "EFG") then shown.map CodePoint.asciiUpper else shown
    let (digits, rest) := splitDigits shown
    l.ofDigits negative [] digits (if percent then rest ++ Text.ofString "%" else rest)

/-- A whole number in a layout. Letters of floating-point forms show it as one of those. -/
def ofWhole (l : Layout) (n : Int) : Except Fault Text :=
  let inBase (base : Nat) (mark : String) : Except Fault Text :=
    l.ofDigits (n < 0) (if l.alternate then Text.ofString mark else [])
      ((Nat.toDigits base n.natAbs).map CodePoint.ofChar) []
  if l.letter?.any (letterIn "eEfFgG%") then
    match Binary64.ofRatio (n < 0) n.natAbs 1 with
    | .infinite _ => .error .tooLarge
    | x => l.ofBinary x
  else if l.precision?.isSome || l.unsignedZero then .error .invalidValue
  else match l.letter?.map (·.val) with
    | none | some 0x64 | some 0x6E => do
      let digits ← Text.ofBoundedInt n.natAbs
      l.ofDigits (n < 0) [] digits []
    | some 0x62 => inBase 2 "0b"
    | some 0x6F => inBase 8 "0o"
    | some 0x78 => inBase 16 "0x"
    | some 0x58 =>
      l.ofDigits (n < 0) (if l.alternate then Text.ofString "0X" else [])
        ((Nat.toDigits 16 n.natAbs).map fun d => (CodePoint.ofChar d).asciiUpper) []
    | some 0x63 =>
      if l.sign?.isSome || l.alternate then .error .invalidValue
      else if n < 0 then .error .tooLarge
      else if h : n.toNat < 0x110000 then l.ofDigits false [] [] [⟨n.toNat, h⟩]
      else .error .tooLarge
    | some _ => .error .invalidValue

end Layout

/-- A value in the layout that a text describes. Lists, objects and null have the empty layout
only, and a truth value has those of its number. -/
def Json.laidOut (layout : Text) (v : Json) : Except Fault Text :=
  match v with
  | .string t => do
    let l ← Layout.read layout
    l.ofText t
  | .int n => do
    let l ← Layout.read layout
    l.ofWhole n
  | .float x => do
    let l ← Layout.read layout
    l.ofBinary x
  | .bool b =>
    if layout.isEmpty then v.plain
    else do
      let l ← Layout.read layout
      l.ofWhole (if b then 1 else 0)
  | v => if layout.isEmpty then v.plain else .error .wrongKind

end BenefitForm
