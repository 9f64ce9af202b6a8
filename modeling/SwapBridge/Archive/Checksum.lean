/-
  SwapBridge.Archive.Checksum
  ───────────────────────────
  **CYCLIC REDUNDANCY CHECK.**

  The checksum of 32 bits that compressed files carry: the remainder by a
  fixed polynomial, least significant bit first, inverted at both ends.
-/

namespace SwapBridge.Archive

/-- Shifts one bit out of the remainder. -/
def shiftRemainder (c : UInt32) : UInt32 :=
  if c &&& 1 = 1 then (c >>> 1) ^^^ 0xEDB88320 else c >>> 1

/-- Takes a byte into the remainder. -/
def takeByte (c : UInt32) (b : UInt8) : UInt32 := Nat.repeat shiftRemainder 8 (c ^^^ b.toUInt32)

def checksum (bs : List UInt8) : UInt32 := ~~~ bs.foldl takeByte 0xFFFFFFFF

/-- The number whose bytes are given, the least significant one first. -/
def littleEndian (bs : List UInt8) : Nat := bs.foldr (fun b n => b.toNat + 256 * n) 0

end SwapBridge.Archive
