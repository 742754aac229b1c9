import BenefitForm.Json.Display

/-!
# Writing JSON

`Json.write` writes a value as a JSON document in a given `Style`: which code
points are escaped, what stands between items and after keys, and whether each
item has a line of its own. Members keep their order. A whole number of more
than 4300 digits cannot be written.
-/

namespace BenefitForm

namespace Json

/-- The choices that JSON leaves to a writer. -/
structure Style where
  /-- Escape everything that is not ASCII, and the delete character. -/
  asciiOnly : Bool
  /-- What follows the comma between items on one line. -/
  itemGap : Text
  /-- What follows the colon after a key. -/
  keyGap : Text
  /-- The indentation of each level, when every item has its own line. -/
  indent : Option Nat

namespace Style

/-- ASCII on one line, with a space after commas and colons. -/
def ascii : Style := ⟨true, [' '], [' '], none⟩

/-- One line with a space after commas and colons. -/
def spaced : Style := ⟨false, [' '], [' '], none⟩

/-- One line without blanks. -/
def compact : Style := ⟨false, [], [], none⟩

/-- ASCII on one line without blanks. -/
def asciiCompact : Style := ⟨true, [], [], none⟩

/-- Every item on its own line, two columns deeper than what holds it. -/
def indented : Style := ⟨false, [], [' '], some 2⟩

end Style

/-- `\u` and the four hexadecimal digits of a 16-bit unit. -/
def unitEscape (n : Nat) : Text := Text.ofString "\\u" ++ Text.hex 4 n

/-- One code point inside a JSON string. -/
def writePoint (asciiOnly : Bool) (c : CodePoint) : Text :=
  if c.val = 0x22 then Text.ofString "\\\""
  else if c.val = 0x5C then Text.ofString "\\\\"
  else if c.val = 0x0A then Text.ofString "\\n"
  else if c.val = 0x0D then Text.ofString "\\r"
  else if c.val = 0x09 then Text.ofString "\\t"
  else if c.val = 0x0C then Text.ofString "\\f"
  else if c.val = 0x08 then Text.ofString "\\b"
  else if c.val < 0x20 || (asciiOnly && 0x7F ≤ c.val && c.val < 0x10000) then unitEscape c.val
  else if asciiOnly && 0x10000 ≤ c.val then
    unitEscape (0xD800 + (c.val - 0x10000) / 1024) ++ unitEscape (0xDC00 + (c.val - 0x10000) % 1024)
  else [c]

/-- A text as a JSON string. -/
def writeString (asciiOnly : Bool) (t : Text) : Text :=
  Text.ofString "\"" ++ t.flatMap (writePoint asciiOnly) ++ Text.ofString "\""

/-- A floating-point number; the infinities and not a number have names. -/
def writeFloat : Binary64 → Text
  | .nan => Text.ofString "NaN"
  | .infinite negative => Text.ofString (if negative then "-Infinity" else "Infinity")
  | x => x.toText

/-- The items of a list or object at a depth, between its brackets. -/
def layOut (style : Style) (depth : Nat) (opening closing : CodePoint) (items : List Text) : Text :=
  if items.isEmpty then [opening, closing]
  else match style.indent with
    | none => [opening] ++ Text.join (Text.ofString "," ++ style.itemGap) items ++ [closing]
    | some width =>
      let line (d : Nat) : Text := Text.ofString "\n" ++ Text.padding (width * d) ' '
      [opening] ++ line (depth + 1) ++ Text.join (Text.ofString "," ++ line (depth + 1)) items
        ++ line depth ++ [closing]

mutual

/-- A value as a JSON document, at a depth of nesting. -/
def writeAt (style : Style) (depth : Nat) : Json → Except Fault Text
  | .null => .ok (Text.ofString "null")
  | .bool b => .ok (Text.ofString (if b then "true" else "false"))
  | .int n => Text.ofBoundedInt n
  | .float x => .ok (writeFloat x)
  | .string t => .ok (writeString style.asciiOnly t)
  | .array items => do
    let written ← writeItems style (depth + 1) items
    return layOut style depth '[' ']' written
  | .object members => do
    let written ← writeMembers style (depth + 1) members
    return layOut style depth '{' '}' written

/-- The items of a list as JSON documents. -/
def writeItems (style : Style) (depth : Nat) : List Json → Except Fault (List Text)
  | [] => .ok []
  | v :: rest => do
    let written ← writeAt style depth v
    let others ← writeItems style depth rest
    return written :: others

/-- The members of an object, each a key and a value. -/
def writeMembers (style : Style) (depth : Nat) : List (Text × Json) → Except Fault (List Text)
  | [] => .ok []
  | (k, v) :: rest => do
    let written ← writeAt style depth v
    let others ← writeMembers style depth rest
    return (writeString style.asciiOnly k ++ Text.ofString ":" ++ style.keyGap ++ written) :: others

end

/-- A value as a JSON document. -/
def write (style : Style) (v : Json) : Except Fault Text := writeAt style 0 v

end Json

end BenefitForm
