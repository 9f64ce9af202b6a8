/-
  SwapBridge.Amount
  ─────────────────
  **FIXED-POINT AMOUNTS.**

  An amount is a number of minor units and the number of decimals that they
  have; it stands for `minorUnits / 10 ^ divisibility`.  Minor units fit 128
  bits and there are at most eighteen decimals, so both bounds are part of
  the type.

    • `Amount.ofSats` — satoshis in a currency, refusing to round,
    • `Amount.sats` — back to satoshis, rounding down,
    • `Amount.write`, `Amount.read` — the decimal text and its reader.
-/
import SwapBridge.Text.Decimal
import SwapBridge.Text.Split

namespace SwapBridge

/-- A currency of the platform: its code and the decimals it is tracked with. -/
structure Currency where
  code : String
  divisibility : Nat
  deriving DecidableEq, Repr

/-- Bitcoin, in units of one satoshi. -/
def Currency.bitcoin : Currency := ⟨"BTC", 8⟩

inductive AmountError where
  /-- The satoshis lie between two minor units of the currency. -/
  | inexact (sats : UInt64) (divisibility : Nat)
  /-- More decimals than an amount may have. -/
  | divisibility (given : Nat)
  /-- The text is no decimal amount, or one beyond 128 bits. -/
  | malformed (text : String)
  deriving DecidableEq, Repr

def AmountError.message : AmountError → String
  | .inexact sats d =>
    Decimal.write sats.toNat ++ " sat is not representable with " ++ Decimal.write d ++ " decimals"
  | .divisibility d => "divisibility " ++ Decimal.write d ++ " is out of range"
  | .malformed text => "invalid decimal amount `" ++ text ++ "`"

/-- The most decimals an amount may have. -/
def maxDivisibility : Nat := 18

/-- The decimals of one bitcoin in satoshis. -/
def satDecimals : Nat := 8

structure Amount where
  minorUnits : Nat
  divisibility : Nat
  minorUnits_lt : minorUnits < Nat.pow 2 128 := by decide
  divisibility_le : divisibility ≤ maxDivisibility := by decide
  deriving DecidableEq, Repr

namespace Amount

/-! ## §1. Building amounts. -/

/-- An amount from its parts; only the decimals can be refused. -/
def ofMinorUnits (m : Fin (Nat.pow 2 128)) (d : Nat) : Except AmountError Amount :=
  if h : d ≤ maxDivisibility then .ok ⟨m.val, d, m.isLt, h⟩ else .error (.divisibility d)

theorem ofMinorUnits_self (a : Amount) :
    ofMinorUnits ⟨a.minorUnits, a.minorUnits_lt⟩ a.divisibility = .ok a := by
  unfold ofMinorUnits
  rw [dif_pos a.divisibility_le]

/-- The product that is divided to convert satoshis has 128 bits. -/
theorem product_lt (sats : UInt64) {d : Nat} (h : d ≤ maxDivisibility) :
    sats.toNat * Nat.pow 10 d < Nat.pow 2 128 := by
  have hs : sats.toNat < UInt64.size := sats.toNat_lt
  have hp : Nat.pow 10 d ≤ Nat.pow 10 18 := Nat.pow_le_pow_right (by decide) h
  have hm : sats.toNat * Nat.pow 10 d ≤ UInt64.size * Nat.pow 10 18 :=
    Nat.mul_le_mul (Nat.le_of_lt hs) hp
  exact Nat.lt_of_le_of_lt hm (by decide)

/-- Scaled satoshis stay within 128 bits for every allowed divisibility. -/
theorem scaled_lt (sats : UInt64) {d : Nat} (h : d ≤ maxDivisibility) :
    sats.toNat * Nat.pow 10 d / Nat.pow 10 satDecimals < Nat.pow 2 128 :=
  Nat.lt_of_le_of_lt (Nat.div_le_self _ _) (product_lt sats h)

/-- Satoshis in the minor units of a currency with `d` decimals. -/
def ofSats (sats : UInt64) (d : Nat) : Except AmountError Amount :=
  if h : d ≤ maxDivisibility then
    if sats.toNat * Nat.pow 10 d % Nat.pow 10 satDecimals = 0 then
      .ok ⟨sats.toNat * Nat.pow 10 d / Nat.pow 10 satDecimals, d, scaled_lt sats h, h⟩
    else .error (.inexact sats d)
  else .error (.divisibility d)

/-! ## §2. Back to satoshis. -/

/-- What an amount is worth in satoshis. -/
inductive SatValue where
  | sats (n : UInt64)
  /-- A number that does not fit 64 bits. -/
  | tooLarge
  /-- Scaling up to satoshis leaves the 128 bits of the minor units. -/
  | overflow
  deriving DecidableEq, Repr

/-- The minor units brought to the eight decimals of a satoshi, rounding down. -/
def scaledToSats (a : Amount) : Nat :=
  if satDecimals ≤ a.divisibility then a.minorUnits / Nat.pow 10 (a.divisibility - satDecimals)
  else a.minorUnits * Nat.pow 10 (satDecimals - a.divisibility)

def sats (a : Amount) : SatValue :=
  if a.scaledToSats < UInt64.size then .sats (UInt64.ofNat a.scaledToSats)
  else if a.scaledToSats < Nat.pow 2 128 then .tooLarge
  else .overflow

/-! ## §3. Text. -/

/-- The digits after the point: all decimals, without the zeros at the end. -/
def fractionDigits (a : Amount) : List Char :=
  let rest := a.minorUnits % Nat.pow 10 a.divisibility
  if rest = 0 then []
  else ((Decimal.padded a.divisibility rest).reverse.dropWhile (· == '0')).reverse

/-- The whole part, then a point and the fraction where there is one. -/
def chars (a : Amount) : List Char :=
  let whole := Decimal.digits (a.minorUnits / Nat.pow 10 a.divisibility)
  match a.fractionDigits with
  | [] => whole
  | ds => whole ++ '.' :: ds

def write (a : Amount) : String := String.ofList a.chars

/-- The texts before and after the first point; all is whole where there is none. -/
def parts (cs : List Char) : List Char × List Char := (Text.cut? ['.'] cs).getD (cs, [])

/-- Reads digits, at most one point and more digits.  The digits after the
point are counted, in 32 bits, before the value is looked at. -/
def read (s : String) : Except AmountError Amount :=
  let (whole, fraction) := parts s.toList
  -- too many decimals are reported as such, whatever the value would be
  if Decimal.isNumeral whole && fraction.all Char.isDigit && fraction.length < UInt32.size then
    if h : fraction.length ≤ maxDivisibility then
      if hv : Decimal.value (whole ++ fraction) < Nat.pow 2 128 then
        .ok ⟨Decimal.value (whole ++ fraction), fraction.length, hv, h⟩
      else .error (.malformed s)
    else .error (.divisibility fraction.length)
  else .error (.malformed s)

end Amount

end SwapBridge
