import BenefitForm.Text

/-!
# UTF-8

- `Utf8.encode`: the bytes of a text; a text that holds a surrogate has none, and
  the error names the first run of surrogates.
- `Utf8.decode`: the text of a byte sequence. Overlong forms, code points above
  the last one and broken sequences are errors that name the bytes at fault.
  Encoded surrogates are errors as well unless the caller lets them pass.
- `Utf8.decodeLossy`: the same, with replacement characters for bytes at fault.
-/

namespace BenefitForm

/-- The surrogates that stop an encoding. -/
structure EncodeError where
  /-- The position of the first of them. -/
  first : Nat
  /-- How many follow one another there. -/
  count : Nat
  /-- The first of them. -/
  point : CodePoint
deriving DecidableEq

/-- What is wrong with a byte sequence. -/
inductive DecodeReason where
  | startByte
  | continuationByte
  | endOfData
  | truncated
  | notACodePoint
deriving DecidableEq

/-- The byte sequences a decoder can be asked to read. -/
inductive EncodingForm where
  | utf8
  | utf16 (bigEndian : Bool)
  | utf32 (bigEndian : Bool)
deriving DecidableEq

/-- The bytes that stop a decoding. -/
structure DecodeError where
  /-- How the bytes were read. -/
  form : EncodingForm
  /-- The position of the first byte at fault. -/
  first : Nat
  /-- The bytes at fault. -/
  bytes : List UInt8
  /-- What is wrong with them. -/
  reason : DecodeReason
deriving DecidableEq

namespace Utf8

/-- The bytes of one code point. -/
def encodePoint (c : CodePoint) : List UInt8 :=
  if c.val < 0x80 then [c.val.toUInt8]
  else if c.val < 0x800 then [(0xC0 + c.val / 64).toUInt8, (0x80 + c.val % 64).toUInt8]
  else if c.val < 0x10000 then
    [(0xE0 + c.val / 4096).toUInt8, (0x80 + c.val / 64 % 64).toUInt8,
      (0x80 + c.val % 64).toUInt8]
  else
    [(0xF0 + c.val / 262144).toUInt8, (0x80 + c.val / 4096 % 64).toUInt8,
      (0x80 + c.val / 64 % 64).toUInt8, (0x80 + c.val % 64).toUInt8]

/-- The first run of surrogates in a text whose beginning has `pos` code points. -/
def firstSurrogates (pos : Nat) : Text → Option EncodeError
  | [] => none
  | c :: rest =>
    if c.isSurrogate then
      some ⟨pos, 1 + (rest.takeWhile CodePoint.isSurrogate).length, c⟩
    else firstSurrogates (pos + 1) rest

/-- The bytes of a text, or its first surrogates. -/
def encode (t : Text) : Except EncodeError (List UInt8) :=
  match firstSurrogates 0 t with
  | some e => .error e
  | none => .ok (t.flatMap encodePoint)

/-- A byte `10xxxxxx`. -/
def isContinuation (b : UInt8) : Bool := 0x80 ≤ b && b < 0xC0

/-- The code point whose leading bits and continuation bytes are given. -/
def assemble (lead : Nat) (continuation : List UInt8) : CodePoint :=
  .ofNat (continuation.foldl (fun n b => n * 64 + (b.toNat - 0x80)) lead)

/-- The text of `bytes`, where `pos` bytes are read and `acc` holds their text backwards. -/
def decodeFrom (surrogatesPass : Bool) (pos : Nat) (acc : Text) :
    List UInt8 → Except DecodeError Text
  | [] => .ok acc.reverse
  | a :: rest =>
    let fail (bytes : List UInt8) (reason : DecodeReason) : Except DecodeError Text :=
      .error ⟨.utf8, pos, bytes, reason⟩
    if a < 0x80 then decodeFrom surrogatesPass (pos + 1) (.ofNat a.toNat :: acc) rest
    else if a < 0xC2 then fail [a] .startByte
    else if a < 0xE0 then
      match rest with
      | [] => fail [a] .endOfData
      | b :: rest =>
        if isContinuation b then
          decodeFrom surrogatesPass (pos + 2) (assemble (a.toNat - 0xC0) [b] :: acc) rest
        else fail [a] .continuationByte
    else if a < 0xF0 then
      match rest with
      | [] => fail [a] .endOfData
      | b :: rest =>
        let surrogate := a = 0xED && 0xA0 ≤ b
        if !isContinuation b || (a = 0xE0 && b < 0xA0) || (surrogate && !surrogatesPass) then
          fail [a] .continuationByte
        else match rest with
          | [] => if surrogate then fail [a] .continuationByte else fail [a, b] .endOfData
          | c :: rest =>
            if isContinuation c then
              decodeFrom surrogatesPass (pos + 3) (assemble (a.toNat - 0xE0) [b, c] :: acc) rest
            else if surrogate then fail [a] .continuationByte
            else fail [a, b] .continuationByte
    else if a < 0xF5 then
      match rest with
      | [] => fail [a] .endOfData
      | b :: rest =>
        if !isContinuation b || (a = 0xF0 && b < 0x90) || (a = 0xF4 && 0x90 ≤ b) then
          fail [a] .continuationByte
        else match rest with
          | [] => fail [a, b] .endOfData
          | c :: rest =>
            if !isContinuation c then fail [a, b] .continuationByte
            else match rest with
              | [] => fail [a, b, c] .endOfData
              | d :: rest =>
                if isContinuation d then
                  decodeFrom surrogatesPass (pos + 4)
                    (assemble (a.toNat - 0xF0) [b, c, d] :: acc) rest
                else fail [a, b, c] .continuationByte
    else fail [a] .startByte

/-- The text of a byte sequence, or the first bytes that are not UTF-8. -/
def decode (surrogatesPass : Bool) (bytes : List UInt8) : Except DecodeError Text :=
  decodeFrom surrogatesPass 0 [] bytes

/-- The text of a byte sequence in which a replacement character stands for bytes at fault; `fuel`
bounds the count of bytes. -/
def decodeLossyFrom : Nat → List UInt8 → Text
  | 0, _ => []
  | fuel + 1, bytes =>
    match decode false bytes with
    | .ok t => t
    | .error e =>
      let before := match decode false (bytes.take e.first) with
        | .ok t => t
        | .error _ => []
      before ++ .ofNat 0xFFFD :: decodeLossyFrom fuel (bytes.drop (e.first + e.bytes.length))

/-- The text of a byte sequence, with replacement characters where it is not UTF-8. -/
def decodeLossy (bytes : List UInt8) : Text := decodeLossyFrom (bytes.length + 1) bytes

end Utf8

end BenefitForm
