/-
  SwapBridge.Text.Utf8
  ────────────────────
  **READING BYTES AS TEXT.**

  A character is read byte by byte.  What is no character of UTF-8 either
  becomes a replacement character, one for each longest beginning of a
  character, or is the end of reading.

    • `Utf8.read` — every byte sequence is read as text,
    • `Utf8.readStrict` — text, or the first fault and where it is.
-/
import SwapBridge.Text.Decimal

namespace SwapBridge.Utf8

/-- A character that is being read: the bits so far, how many bytes are to
come, and the range of the next one. -/
structure Partial where
  bits : Nat
  missing : Nat
  least : UInt8 := 0x80
  most : UInt8 := 0xBF
  deriving DecidableEq, Repr

/-! ## §1. Characters. -/

def replacement : Char := '\uFFFD'

/-- What a first byte says: nothing, a whole character, or the beginning of one. -/
def first (b : UInt8) : List Char × Option Partial :=
  let n := b.toNat
  if n < 0x80 then ([Char.ofNat n], none)
  else if 0xC2 ≤ n && n < 0xE0 then ([], some { bits := n % 0x20, missing := 1 })
  else if n = 0xE0 then ([], some { bits := 0, missing := 2, least := 0xA0 })
  else if n = 0xED then ([], some { bits := 0x0D, missing := 2, most := 0x9F })
  else if 0xE0 < n && n < 0xF0 then ([], some { bits := n % 0x10, missing := 2 })
  else if n = 0xF0 then ([], some { bits := 0, missing := 3, least := 0x90 })
  else if n = 0xF4 then ([], some { bits := 4, missing := 3, most := 0x8F })
  else if 0xF0 < n && n < 0xF4 then ([], some { bits := n % 8, missing := 3 })
  else ([replacement], none)

/-- What the next byte says. -/
def next (p : Option Partial) (b : UInt8) : List Char × Option Partial :=
  match p with
  | none => first b
  | some p =>
    if p.least ≤ b && b ≤ p.most then
      let bits := p.bits * 64 + b.toNat % 64
      if p.missing = 1 then ([Char.ofNat bits], none)
      else ([], some { bits, missing := p.missing - 1 })
    else
      -- the byte that does not continue the character may begin the next one
      let (cs, p) := first b
      (replacement :: cs, p)

/-! ## §2. Reading everything. -/

def readFrom (p : Option Partial) : List UInt8 → List Char
  | [] => if p.isSome then [replacement] else []
  | b :: bs =>
    let (cs, p) := next p b
    cs ++ readFrom p bs

def read (bs : List UInt8) : String := String.ofList (readFrom none bs)

/-! ## §3. Reading up to a fault. -/

/-- Where bytes are no text. -/
structure Fault where
  /-- How many bytes before it are text. -/
  position : Nat
  /-- How many bytes begin a character that does not go on; none where the
  bytes end inside a character. -/
  length : Option Nat
  deriving DecidableEq, Repr

def Fault.message (f : Fault) : String :=
  match f.length with
  | some n =>
    "invalid utf-8 sequence of " ++ Decimal.write n ++ " bytes from index " ++
      Decimal.write f.position
  | none => "incomplete utf-8 byte sequence from index " ++ Decimal.write f.position

/-- The first fault from a position on, inside a character of which `begun`
bytes were read, or between two. -/
def faultFrom (position begun : Nat) : Option Partial → List UInt8 → Option Fault
  | none, [] => none
  | some _, [] => some ⟨position, none⟩
  | none, b :: bs =>
    match first b with
    | (_, some p) => faultFrom position 1 (some p) bs
    | (_, none) => if b < 0x80 then faultFrom (position + 1) 0 none bs else some ⟨position, some 1⟩
  | some p, b :: bs =>
    if p.least ≤ b && b ≤ p.most then
      match next (some p) b with
      | (_, some p) => faultFrom position (begun + 1) (some p) bs
      | (_, none) => faultFrom (position + begun + 1) 0 none bs
    else some ⟨position, some begun⟩

def fault? (bs : List UInt8) : Option Fault := faultFrom 0 0 none bs

/-- The text that bytes are, or where they are none. -/
def readStrict (bs : List UInt8) : Except Fault String :=
  match fault? bs with
  | none => .ok (read bs)
  | some fault => .error fault

end SwapBridge.Utf8
