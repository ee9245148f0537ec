import Regraft.Unicode.CharSet
/-!
# Ranges of characters as ranges of bytes

A range of characters is written in UTF-8 as a union of sequences of byte ranges: it is cut where the number
of bytes changes, and then so that in each piece the bytes vary independently of one another.
-/

namespace Regraft.Unicode

/-- A range of bytes, ends included. -/
abbrev ByteRange := Nat × Nat

/-- A range cut in two before `n`, if `n` lies inside it. -/
def cutBefore (n : Nat) (r : Nat × Nat) : List (Nat × Nat) :=
  if r.1 < n ∧ n ≤ r.2 then [(r.1, n - 1), (n, r.2)] else [r]

/-- A range that reaches over several blocks of a size, cut into the part of its first block, the whole
blocks and the part of its last one. -/
def cutAtBlocks (size : Nat) (r : Nat × Nat) : List (Nat × Nat) :=
  if r.1 / size = r.2 / size then [r]
  else (cutBefore ((r.1 + size - 1) / size * size) r).flatMap (cutBefore ((r.2 + 1) / size * size))

/-- The bytes of a code point. -/
def utf8Bytes (n : Nat) : List Nat := (String.utf8EncodeChar (Char.ofNat n)).map UInt8.toNat

/-- The sequences of byte ranges for a range of code points that holds no surrogate. -/
def byteSequences (r : Nat × Nat) : List (List ByteRange) :=
  ([r].flatMap (cutBefore 0x80)).flatMap (cutBefore 0x800) |>.flatMap (cutBefore 0x10000)
    |>.flatMap (fun r => if r.2 < 0x80 then [r] else cutAtBlocks 64 r)
    |>.flatMap (cutAtBlocks 4096) |>.flatMap (cutAtBlocks 262144)
    |>.map fun r => (utf8Bytes r.1).zip (utf8Bytes r.2)

namespace CharSet

/-- The sequences of byte ranges for the characters of a set, in ascending order. -/
def byteSequences (s : CharSet) : List (List ByteRange) := s.ranges.flatMap Unicode.byteSequences

end CharSet

end Regraft.Unicode
