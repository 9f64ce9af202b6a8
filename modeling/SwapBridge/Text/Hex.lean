/-
  SwapBridge.Text.Hex
  ───────────────────
  **BYTES IN HEXADECIMAL.**

  Two small digits per byte.
-/

namespace SwapBridge.Hex

/-- The two digits of a byte. -/
def digits (b : UInt8) : List Char :=
  [Nat.digitChar (b.toNat / 16), Nat.digitChar (b.toNat % 16)]

def ofBytes (bs : List UInt8) : String := String.ofList (bs.flatMap digits)

/-- The UTF-8 bytes of a text in hexadecimal. -/
def ofString (s : String) : String := ofBytes s.toUTF8.toList

/-- The value of a digit, large or small. -/
def digitValue (c : Char) : Nat :=
  if c.isDigit then c.toNat - '0'.toNat else c.toLower.toNat - 'a'.toNat + 10

/-- The value of a character that is a digit. -/
def digit? (c : Char) : Option Nat :=
  if c.isDigit || ('a' ≤ c.toLower && c.toLower ≤ 'f') then some (digitValue c) else none

/-- The bytes of pairs of digits. -/
def toBytes : List Char → List UInt8
  | high :: low :: rest => (16 * digitValue high + digitValue low).toUInt8 :: toBytes rest
  | _ => []

end SwapBridge.Hex
