/-!
# Checksums

- `Checksum.crc`: the remainder of the bytes as a polynomial over two elements,
  with the polynomial of gzip.
- `Checksum.adler`: the sum of the bytes and the sum of its stages, both modulo
  65521, the greatest prime below `2 ^ 16`.
-/

namespace BenefitForm

namespace Checksum

/-- Shift a remainder by `n` bits. -/
def shiftCrc : Nat → UInt32 → UInt32
  | 0, r => r
  | n + 1, r => shiftCrc n (if r &&& 1 = 1 then (r >>> 1) ^^^ 0xEDB88320 else r >>> 1)

/-- The checksum of gzip. -/
def crc (bytes : Array UInt8) : Nat :=
  (bytes.foldl (fun r b => shiftCrc 8 (r ^^^ b.toUInt32)) 0xFFFFFFFF ^^^ 0xFFFFFFFF).toNat

/-- The checksum of a zlib stream. -/
def adler (bytes : Array UInt8) : Nat :=
  let (sum, stages) := bytes.foldl (fun (p : Nat × Nat) b =>
    let sum := (p.1 + b.toNat) % 65521
    (sum, (p.2 + sum) % 65521)) (1, 0)
  stages * 65536 + sum

end Checksum

end BenefitForm
