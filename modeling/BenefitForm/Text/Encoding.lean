import BenefitForm.Text.Utf8

/-!
# Encoding forms of a JSON document

A JSON document that arrives as bytes names its encoding form by a byte order
mark or, since its first characters are ASCII, by where the zero bytes lie
(`EncodingForm.detect`). `decodeDocument` reads the document; encoded surrogates
pass.

`DecodeError.message` and `EncodeError.message` are the texts of the errors.
-/

namespace BenefitForm

/-- The encoding form of a document, and how many bytes its mark takes. -/
def EncodingForm.detect (bytes : List UInt8) : EncodingForm × Nat :=
  match bytes with
  | 0x00 :: 0x00 :: 0xFE :: 0xFF :: _ => (.utf32 true, 4)
  | 0xFF :: 0xFE :: 0x00 :: 0x00 :: _ => (.utf32 false, 4)
  | 0xFE :: 0xFF :: _ => (.utf16 true, 2)
  | 0xFF :: 0xFE :: _ => (.utf16 false, 2)
  | 0xEF :: 0xBB :: 0xBF :: _ => (.utf8, 3)
  | a :: b :: c :: d :: _ =>
    if a = 0 then (if b = 0 then .utf32 true else .utf16 true, 0)
    else if b = 0 then (if c = 0 && d = 0 then .utf32 false else .utf16 false, 0)
    else (.utf8, 0)
  | [a, b] =>
    if a = 0 then (.utf16 true, 0) else if b = 0 then (.utf16 false, 0) else (.utf8, 0)
  | _ => (.utf8, 0)

/-- The number written by bytes of which the first weighs most. -/
def bigEndianValue (bytes : List UInt8) : Nat := bytes.foldl (fun n b => n * 256 + b.toNat) 0

/-- The code units of two bytes each, read after `pos` bytes; `acc` holds the earlier ones
backwards. -/
def units16From (bigEndian : Bool) (pos : Nat) (acc : List CodePoint) :
    List UInt8 → Except DecodeError (List CodePoint)
  | [] => .ok acc.reverse
  | [a] => .error ⟨.utf16 bigEndian, pos, [a], .truncated⟩
  | a :: b :: rest =>
    units16From bigEndian (pos + 2)
      (.ofNat (bigEndianValue (if bigEndian then [a, b] else [b, a])) :: acc) rest

/-- Surrogate pairs joined into the code points they stand for; `acc` holds the earlier ones
backwards. -/
def joinPairsFrom (acc : Text) : Text → Text
  | [] => acc.reverse
  | [c] => (c :: acc).reverse
  | c :: d :: rest =>
    if c.isHighSurrogate && d.isLowSurrogate then
      joinPairsFrom (.ofNat (0x10000 + (c.val - 0xD800) * 1024 + (d.val - 0xDC00)) :: acc) rest
    else joinPairsFrom (c :: acc) (d :: rest)

/-- The code points of four bytes each, read after `pos` bytes; `acc` holds the earlier ones
backwards. -/
def units32From (bigEndian : Bool) (pos : Nat) (acc : Text) :
    List UInt8 → Except DecodeError Text
  | [] => .ok acc.reverse
  | a :: b :: c :: d :: rest =>
    let n := bigEndianValue (if bigEndian then [a, b, c, d] else [d, c, b, a])
    if h : n < 0x110000 then units32From bigEndian (pos + 4) (⟨n, h⟩ :: acc) rest
    else .error ⟨.utf32 bigEndian, pos, [a, b, c, d], .notACodePoint⟩
  | bytes => .error ⟨.utf32 bigEndian, pos, bytes, .truncated⟩

/-- The text of a JSON document's bytes. Positions in an error count the mark of a
two- or four-byte form and not that of UTF-8. -/
def decodeDocument (bytes : List UInt8) : Except DecodeError Text :=
  match EncodingForm.detect bytes with
  | (.utf8, mark) => Utf8.decode true (bytes.drop mark)
  | (.utf16 bigEndian, mark) =>
    (units16From bigEndian mark [] (bytes.drop mark)).map (joinPairsFrom [])
  | (.utf32 bigEndian, mark) => units32From bigEndian mark [] (bytes.drop mark)

/-- A number in `width` or more hexadecimal digits. -/
def Text.hex (width n : Nat) : Text :=
  let digits := (Nat.toDigits 16 n).map CodePoint.ofChar
  Text.padding (width - digits.length) '0' ++ digits

/-- A code point that is not shown as itself: `\x`, `\u` or `\U` and its number. -/
def CodePoint.escape (c : CodePoint) : Text :=
  if c.val < 0x100 then Text.ofString "\\x" ++ Text.hex 2 c.val
  else if c.val < 0x10000 then Text.ofString "\\u" ++ Text.hex 4 c.val
  else Text.ofString "\\U" ++ Text.hex 8 c.val

/-- The text of an encoding error. -/
def EncodeError.message (e : EncodeError) : Text :=
  (if e.count = 1 then
    Text.ofString "'utf-8' codec can't encode character '" ++ e.point.escape
      ++ Text.ofString "' in position " ++ Text.ofNat e.first
  else
    Text.ofString "'utf-8' codec can't encode characters in position " ++ Text.ofNat e.first
      ++ Text.ofString "-" ++ Text.ofNat (e.first + e.count - 1))
  ++ Text.ofString ": surrogates not allowed"

/-- The name of an encoding form in an error. -/
def EncodingForm.name : EncodingForm → String
  | .utf8 => "utf-8"
  | .utf16 true => "utf-16-be"
  | .utf16 false => "utf-16-le"
  | .utf32 true => "utf-32-be"
  | .utf32 false => "utf-32-le"

/-- What is wrong with the bytes, in words. -/
def DecodeReason.message : DecodeReason → String
  | .startByte => "invalid start byte"
  | .continuationByte => "invalid continuation byte"
  | .endOfData => "unexpected end of data"
  | .truncated => "truncated data"
  | .notACodePoint => "code point not in range(0x110000)"

/-- The text of a decoding error. -/
def DecodeError.message (e : DecodeError) : Text :=
  Text.ofString "'" ++ Text.ofString e.form.name ++ Text.ofString "' codec can't decode byte"
    ++ (match e.bytes with
      | [b] => Text.ofString " 0x" ++ Text.hex 2 b.toNat ++ Text.ofString " in position "
          ++ Text.ofNat e.first
      | bytes => Text.ofString "s in position " ++ Text.ofNat e.first ++ Text.ofString "-"
          ++ Text.ofNat (e.first + bytes.length - 1))
    ++ Text.ofString ": " ++ Text.ofString e.reason.message

end BenefitForm
