/-
  SwapBridge.Text.Duration
  ────────────────────────
  **DURATIONS AS TEXT.**

  A duration is written in the largest unit that it fills once, with as many
  places as it needs.
-/
import SwapBridge.Text.Blank
import SwapBridge.Text.Decimal

namespace SwapBridge.Duration

/-- A number of units of `10 ^ places` parts, without zeros at the end. -/
def inUnits (places parts : Nat) : String :=
  let fraction := Text.dropWhileEnd (· == '0') (Decimal.padded places (parts % Nat.pow 10 places))
  let whole := Decimal.write (parts / Nat.pow 10 places)
  if fraction.isEmpty || places = 0 then whole else whole ++ "." ++ String.ofList fraction

/-- The text of a number of nanoseconds. -/
def write (ns : Nat) : String :=
  if 1000000000 ≤ ns then inUnits 9 ns ++ "s"
  else if 1000000 ≤ ns then inUnits 6 ns ++ "ms"
  else if 1000 ≤ ns then inUnits 3 ns ++ "µs"
  else inUnits 0 ns ++ "ns"

end SwapBridge.Duration
