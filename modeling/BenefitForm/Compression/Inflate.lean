import BenefitForm.Compression.Checksum
import BenefitForm.Compression.PrefixCode

/-!
# Compressed content

The deflate format is a sequence of blocks: stored bytes, or literals and
references to what came before, written in a fixed prefix code or in one that the
block describes. `Deflate.content` reads it bare, in the envelope of zlib or
in that of gzip, each with a checksum at its end.

A stream that breaks off has the content that it has; what follows its end is no
part of it. Anything that the format does not allow is an `InflateProblem`.
-/

namespace BenefitForm

/-- Why bytes are no compressed content. -/
inductive InflateProblem where
  | header
  | method
  | window
  | flags
  | headerChecksum
  /-- The content refers to a dictionary that is not given. -/
  | dictionary
  | blockType
  | storedLength
  | symbolCount
  | codeLengths
  | lengthRepeat
  | missingEnd
  | literalLengths
  | distanceLengths
  | literalCode
  | distanceCode
  | distance
  | checksum
  | size
deriving DecidableEq

/-- The problem as it is reported. -/
def InflateProblem.message : InflateProblem → String
  | .header => "incorrect header check"
  | .method => "unknown compression method"
  | .window => "invalid window size"
  | .flags => "unknown header flags set"
  | .headerChecksum => "header crc mismatch"
  | .dictionary => "need dictionary"
  | .blockType => "invalid block type"
  | .storedLength => "invalid stored block lengths"
  | .symbolCount => "too many length or distance symbols"
  | .codeLengths => "invalid code lengths set"
  | .lengthRepeat => "invalid bit length repeat"
  | .missingEnd => "invalid code -- missing end-of-block"
  | .literalLengths => "invalid literal/lengths set"
  | .distanceLengths => "invalid distances set"
  | .literalCode => "invalid literal/length code"
  | .distanceCode => "invalid distance code"
  | .distance => "invalid distance too far back"
  | .checksum => "incorrect data check"
  | .size => "incorrect length check"

namespace Deflate

/-- How far the reading has come. -/
structure State where
  /-- The bits that are left, the lowest of each byte first. -/
  bits : List Bool
  /-- The content so far. -/
  out : Array UInt8

/-- Why reading stops before its end. -/
inductive Halt where
  /-- The stream breaks off. -/
  | ended
  | problem (p : InflateProblem)

/-- A part of the reading; what was read before a halt stays. -/
abbrev Reading := ExceptT Halt (StateM State)

/-- Stop with a problem. -/
def fail {α : Type} (p : InflateProblem) : Reading α := throw (.problem p)

/-- The bits of a byte, the lowest first. -/
def bitsOf (b : UInt8) : List Bool := (List.range 8).map b.toNat.testBit

/-- The number of bits, the lowest first. -/
def numberOf (bits : List Bool) : Nat := bits.foldr (fun bit n => 2 * n + bit.toNat) 0

/-- Read a number of `count` bits. -/
def readBits (count : Nat) : Reading Nat := do
  let s ← get
  let bits := s.bits.take count
  if bits.length < count then throw .ended
  set { s with bits := s.bits.drop count }
  return numberOf bits

/-- Drop the bits up to the next byte. -/
def alignToByte : Reading Unit :=
  modify fun s => { s with bits := s.bits.drop (s.bits.length % 8) }

/-- Read a symbol; none where the bits are no word of the code. -/
def readSymbol? (code : PrefixCode) : Reading (Option Nat) := do
  let s ← get
  match code.read s.bits with
  | .symbol n rest =>
    set { s with bits := rest }
    return some n
  | .unknown rest =>
    set { s with bits := rest }
    return none
  | .incomplete => throw .ended

/-- Add a byte to the content. -/
def put (b : UInt8) : Reading Unit := modify fun s => { s with out := s.out.push b }

/-- Add stored bytes to the content, as many as there are. -/
def copyStored : Nat → Reading Unit
  | 0 => return
  | n + 1 => do
    let b ← readBits 8
    put b.toUInt8
    copyStored n

/-- Add bytes that are already in the content, from a distance back; they may overlap. -/
def copyBack (distance : Nat) : Nat → Array UInt8 → Array UInt8
  | 0, out => out
  | n + 1, out => copyBack distance n (out.push (out.getD (out.size - distance) 0))

/-- The least value and the count of extra bits of each symbol for a length, from 257 on. -/
def lengthSymbols : List (Nat × Nat) :=
  [(3, 0), (4, 0), (5, 0), (6, 0), (7, 0), (8, 0), (9, 0), (10, 0), (11, 1), (13, 1), (15, 1),
   (17, 1), (19, 2), (23, 2), (27, 2), (31, 2), (35, 3), (43, 3), (51, 3), (59, 3), (67, 4),
   (83, 4), (99, 4), (115, 4), (131, 5), (163, 5), (195, 5), (227, 5), (258, 0)]

/-- The least value and the count of extra bits of each symbol for a distance. -/
def distanceSymbols : List (Nat × Nat) :=
  [(1, 0), (2, 0), (3, 0), (4, 0), (5, 1), (7, 1), (9, 2), (13, 2), (17, 3), (25, 3), (33, 4),
   (49, 4), (65, 5), (97, 5), (129, 6), (193, 6), (257, 7), (385, 7), (513, 8), (769, 8),
   (1025, 9), (1537, 9), (2049, 10), (3073, 10), (4097, 11), (6145, 11), (8193, 12),
   (12289, 12), (16385, 13), (24577, 13)]

/-- The codes of a block: one of literals and lengths, one of distances. -/
structure BlockCodes where
  literals : PrefixCode
  distances : PrefixCode

/-- Read a length or a distance whose symbol stands in a table. -/
def readValue (table : List (Nat × Nat)) (symbol : Nat) (p : InflateProblem) : Reading Nat :=
  match table[symbol]? with
  | some (least, extra) => do
    let more ← readBits extra
    return least + more
  | none => fail p

/-- Read literals and references up to the end of a block; `fuel` bounds their count. -/
def readCompressed (codes : BlockCodes) : Nat → Reading Unit
  | 0 => throw .ended
  | fuel + 1 => do
    match ← readSymbol? codes.literals with
    | none => fail .literalCode
    | some n =>
      if n < 256 then
        put n.toUInt8
        readCompressed codes fuel
      else if n = 256 then return
      else do
        let length ← readValue lengthSymbols (n - 257) .literalCode
        match ← readSymbol? codes.distances with
        | none => fail .distanceCode
        | some d =>
          let distance ← readValue distanceSymbols d .distanceCode
          let s ← get
          if distance > s.out.size then fail .distance
          set { s with out := copyBack distance length s.out }
          readCompressed codes fuel

/-- The lengths of the words of the fixed code for literals and lengths. -/
def fixedLiterals : List Nat :=
  List.replicate 144 8 ++ List.replicate 112 9 ++ List.replicate 24 7 ++ List.replicate 8 8

/-- The codes of a block of the given lengths. -/
def codesOf (literals distances : List Nat) : Reading BlockCodes :=
  match PrefixCode.ofLengths? false literals with
  | none => fail .literalLengths
  | some l =>
    match PrefixCode.ofLengths? false distances with
    | none => fail .distanceLengths
    | some d => return ⟨l, d⟩

/-- The symbols for lengths of words, in the order in which a block gives their own lengths. -/
def lengthOrder : List Nat := [16, 17, 18, 0, 8, 7, 9, 6, 10, 5, 11, 4, 12, 3, 13, 2, 14, 1, 15]

/-- Read `count` lengths of words after those that `acc` holds backwards; `fuel` bounds the count of
symbols. -/
def readLengths (code : PrefixCode) (count : Nat) : Nat → List Nat → Reading (List Nat)
  | 0, acc => return acc.reverse
  | fuel + 1, acc =>
    if acc.length ≥ count then return acc.reverse
    else do
      let n := (← readSymbol? code).getD 0
      if n < 16 then readLengths code count fuel (n :: acc)
      else
        -- symbol 16 repeats the length before it, 17 and 18 repeat zero
        let (length?, times) ← if n = 16 then do
            let more ← readBits 2
            pure (acc.head?, 3 + more)
          else if n = 17 then do
            let more ← readBits 3
            pure (some 0, 3 + more)
          else do
            let more ← readBits 7
            pure (some 0, 11 + more)
        match length? with
        | none => fail .lengthRepeat
        | some length =>
          if acc.length + times > count then fail .lengthRepeat
          readLengths code count fuel (List.replicate times length ++ acc)

/-- Read a list of numbers of three bits. -/
def readTriples : Nat → Reading (List Nat)
  | 0 => return []
  | n + 1 => do
    let length ← readBits 3
    let others ← readTriples n
    return length :: others

/-- Read the codes that a block describes. -/
def readCodes : Reading BlockCodes := do
  let literals ← readBits 5
  let distances ← readBits 5
  let count ← readBits 4
  let literals := literals + 257
  let distances := distances + 1
  if literals > 286 || distances > 30 then fail .symbolCount
  let given := lengthOrder.zip (← readTriples (count + 4))
  let lengths := (List.range 19).map fun n => ((given.find? fun g => g.1 = n).map (·.2)).getD 0
  match PrefixCode.ofLengths? true lengths with
  | none => fail .codeLengths
  | some code =>
    let all ← readLengths code (literals + distances) (literals + distances) []
    -- symbol 256 ends a block
    if all.getD 256 0 = 0 then fail .missingEnd
    codesOf (all.take literals) (all.drop literals)

/-- Read one block; says whether it is the last. -/
def readBlock (fuel : Nat) : Reading Bool := do
  let last ← readBits 1
  match ← readBits 2 with
  | 0 =>
    alignToByte
    let length ← readBits 16
    let complement ← readBits 16
    if length + complement ≠ 0xFFFF then fail .storedLength
    copyStored length
  | 1 =>
    let codes ← codesOf fixedLiterals (List.replicate 32 5)
    readCompressed codes fuel
  | 2 =>
    let codes ← readCodes
    readCompressed codes fuel
  | _ => fail .blockType
  return last = 1

/-- Read the blocks up to the last one; `fuel` bounds their count and their length. -/
def readBlocks : Nat → Reading Unit
  | 0 => throw .ended
  | fuel + 1 => do
    let last ← readBlock fuel
    if last then alignToByte else readBlocks fuel

/-- What is around compressed content. -/
inductive Envelope where
  | none
  | zlib
  | gzip
deriving DecidableEq

/-- Read the header of a zlib stream. -/
def readZlibHeader : Reading Unit := do
  let n ← readBits 16
  let first := n % 256
  let second := n / 256
  if (first * 256 + second) % 31 ≠ 0 then fail .header
  if first % 16 ≠ 8 then fail .method
  if first / 16 > 7 then fail .window
  if second / 32 % 2 = 1 then do
    let _ ← readBits 32
    fail .dictionary

/-- Read a name that a zero ends; `fuel` bounds its length. -/
def skipName : Nat → Reading Unit
  | 0 => throw .ended
  | fuel + 1 => do
    let b ← readBits 8
    if b ≠ 0 then skipName fuel

/-- Read the header of a gzip stream, whose bytes are `bytes`. -/
def readGzipHeader (bytes : List UInt8) : Reading Unit := do
  if (← readBits 16) ≠ 0x8B1F then fail .header
  let n ← readBits 16
  if n % 256 ≠ 8 then fail .method
  let flags := n / 256
  if flags ≥ 0x20 then fail .flags
  -- the time, and what made the stream
  let _ ← readBits 32
  let _ ← readBits 16
  if flags / 4 % 2 = 1 then
    let extra ← readBits 16
    let _ ← readBits (8 * extra)
  -- a name and a comment
  if flags / 8 % 2 = 1 then skipName bytes.length
  if flags / 16 % 2 = 1 then skipName bytes.length
  if flags / 2 % 2 = 1 then
    let s ← get
    let check := Checksum.crc (bytes.take (bytes.length - s.bits.length / 8)).toArray
    if (← readBits 16) ≠ check % 65536 then fail .headerChecksum

/-- Read the checksum after the content. -/
def readTrailer (e : Envelope) : Reading Unit := do
  match e with
  | .none => pure ()
  | .zlib =>
    -- this checksum has its highest byte first
    let bytes ← [24, 16, 8, 0].mapM fun place => do
      let b ← readBits 8
      return b <<< place
    if bytes.foldl (· + ·) 0 ≠ Checksum.adler (← get).out then fail .checksum
  | .gzip =>
    if (← readBits 32) ≠ Checksum.crc (← get).out then fail .checksum
    if (← readBits 32) ≠ (← get).out.size % 4294967296 then fail .size

/-- Read a whole stream. -/
def readStream (e : Envelope) (bytes : List UInt8) : Reading Unit := do
  match e with
  | .none => pure ()
  | .zlib => readZlibHeader
  | .gzip => readGzipHeader bytes
  readBlocks (8 * bytes.length + 1)
  readTrailer e

/-- The content of compressed bytes. -/
def content (e : Envelope) (bytes : List UInt8) : Except InflateProblem (List UInt8) :=
  match (readStream e bytes).run.run ⟨bytes.flatMap bitsOf, #[]⟩ with
  | (.error (.problem p), _) => .error p
  | (_, s) => .ok s.out.toList

end Deflate

end BenefitForm
