/-
  SwapBridge.Text.Percent
  ───────────────────────
  **BYTES WRITTEN WITH PERCENT SIGNS.**

  A percent sign with two hexadecimal digits behind it stands for a byte.
  Everything else stands for itself, a percent sign without them as well.
-/
import SwapBridge.Text.Hex

namespace SwapBridge.Percent

/-- The percent sign. -/
def sign : UInt8 := '%'.toUInt8

/-- The byte that two bytes behind a percent sign stand for. -/
def pair? (high low : UInt8) : Option UInt8 := do
  let h ← Hex.digit? (Char.ofNat high.toNat)
  let l ← Hex.digit? (Char.ofNat low.toNat)
  return (16 * h + l).toUInt8

def decode : List UInt8 → List UInt8
  | b :: high :: low :: rest =>
    if b = sign then
      match pair? high low with
      | some byte => byte :: decode rest
      | none => b :: decode (high :: low :: rest)
    else b :: decode (high :: low :: rest)
  | bs => bs

end SwapBridge.Percent
