/-
  SwapBridge.Archive.Gzip
  ───────────────────────
  **UNPACKING GZIP FILES.**

  Only the first member of a file counts.  What is unpacked before a fault is
  there to be read; after it, reading fails.

    • `Gzip.content?` — what follows the header,
    • `Gzip.unpack` — the stream of unpacked bytes.
-/
import SwapBridge.Archive.Checksum
import SwapBridge.Archive.Deflate

namespace SwapBridge.Archive

/-- Bytes that can be read, and whether their end is a good one. -/
structure Stream where
  content : List UInt8
  intact : Bool
  deriving DecidableEq, Repr

namespace Gzip

/-! ## §1. The header. -/

/-- The longest text in a header. -/
def textLimit : Nat := 65535

/-- Drops a text with the zero byte at its end. -/
def dropText? (bs : List UInt8) : Option (List UInt8) :=
  let text := bs.takeWhile (· != 0)
  if textLimit < text.length then none
  else match bs.drop text.length with
    | [] => none
    | _ :: rest => some rest

/-- Drops a field with its length in two bytes before it. -/
def dropField? : List UInt8 → Option (List UInt8)
  | a :: b :: rest =>
    let length := littleEndian [a, b]
    if rest.length < length then none else some (rest.drop length)
  | _ => none

/-- Drops the two low bytes of the checksum of the header. -/
def dropChecksum? (header : List UInt8) : List UInt8 → Option (List UInt8)
  | a :: b :: rest =>
    if littleEndian [a, b] = (checksum header).toNat % UInt16.size then some rest else none
  | _ => none

/-- Applies a step if a flag is set. -/
def onFlag (flags flag : UInt8) (step : List UInt8 → Option (List UInt8)) (bs : List UInt8) :
    Option (List UInt8) :=
  if flags &&& flag = 0 then some bs else step bs

/-- What follows the header of a file. -/
def content? : List UInt8 → Option (List UInt8)
  | 0x1F :: 0x8B :: 0x08 :: flags :: t₀ :: t₁ :: t₂ :: t₃ :: extra :: system :: rest => do
    -- flags without a meaning must not be set
    guard (flags &&& 0xE0 = 0)
    let named ← onFlag flags 0x04 dropField? rest
    let remarked ← onFlag flags 0x08 dropText? named
    let checked ← onFlag flags 0x10 dropText? remarked
    let header := [0x1F, 0x8B, 0x08, flags, t₀, t₁, t₂, t₃, extra, system] ++
      rest.take (rest.length - checked.length)
    onFlag flags 0x02 (dropChecksum? header) checked
  | _ => none

/-! ## §2. The member. -/

/-- Whether the checksum and the length after the data are right. -/
def isConfirmed (trailer : List UInt8) (out : Array UInt8) : Bool :=
  8 ≤ trailer.length &&
    littleEndian (trailer.take 4) == (checksum out.toList).toNat &&
    littleEndian ((trailer.drop 4).take 4) == out.size % UInt32.size

/-- The size of the window that output is handed on by. -/
def window : Nat := 32768

/-- The size of the pieces that a file is read in. -/
def pieceSize : Nat := 32768

/-- How much the pieces give that end before corrupt data is seen.  `skipped` bytes
of the file stand before `body`. -/
def givenByPieces (skipped : Nat) (body : List UInt8) : Nat :=
  let pieces := (skipped + body.length) / pieceSize
  let outcomes := (List.range (pieces + 1)).map fun k =>
    Deflate.inflate (body.take (k * pieceSize - skipped))
  let sound := outcomes.takeWhile fun r => match r.rest with
    | .error .corrupt => false
    | _ => true
  (sound.getLast?.map (·.output.size)).getD 0

/-- How many of `n` bytes before corrupt data can be read: those of the windows before
the last one, and those that whole pieces of the file gave. -/
def delivered (skipped : Nat) (body : List UInt8) (n : Nat) : Nat :=
  max ((n - 1) / window * window) (givenByPieces skipped body)

def unpack (bs : List UInt8) : Stream :=
  match content? bs with
  | none => ⟨[], false⟩
  | some body =>
    let r := Deflate.inflate body
    match r.rest with
    | .error .truncated => ⟨r.output.toList, false⟩
    | .error .corrupt =>
      ⟨r.output.toList.take (delivered (bs.length - body.length) body r.output.size), false⟩
    | .ok rest =>
      -- the trailer begins with the next whole byte
      let trailer := body.drop (body.length - rest.length / 8)
      ⟨r.output.toList, isConfirmed trailer r.output⟩

end Gzip

end SwapBridge.Archive
