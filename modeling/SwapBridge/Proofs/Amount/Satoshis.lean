/-
  SwapBridge.Proofs.Amount.Satoshis
  ─────────────────────────────────
  **WHAT AN AMOUNT IS WORTH IN SATOSHIS.**

  The worth of an amount is its value in satoshis, rounded down.  An amount
  with eight decimals or more is divided down to it and never leaves the 128
  bits of its minor units.  One with fewer decimals is multiplied up, and the
  product is compared with 64 bits only after it has been formed: a worth of
  more than 128 bits is not told to be too large, it overflows.

    • `worth_eq`, `scaledToSats_eq_worth` — the worth in whole numbers, and as
      it is computed,
    • `scaledToSats_lt` — eight decimals are enough to stay in 128 bits,
    • `sats_cases` — the three answers,
    • `worth_answered` — which amounts come to which of them,
    • `overflow_vast` — a number of whole bitcoins that overflows.
-/
import Mathlib.Algebra.Order.Floor.Semifield
import Mathlib.Data.Rat.Floor
import SwapBridge.Proofs.Amount.Conversion
import SwapBridge.Proofs.Amount.Text

namespace SwapBridge.Amount

variable {a : Amount}

/-! ## §1. The worth of an amount. -/

/-- The satoshis in the value of an amount of bitcoin, rounded down. -/
def worth (a : Amount) : ℕ := ⌊a.value * 10 ^ 8⌋₊

/-- The worth as a division of whole numbers. -/
theorem worth_eq (a : Amount) : a.worth = a.minorUnits * 10 ^ 8 / 10 ^ a.divisibility := by
  unfold worth value
  rw [div_mul_eq_mul_div]
  exact_mod_cast Nat.floor_div_eq_div (K := ℚ) (a.minorUnits * 10 ^ 8) (10 ^ a.divisibility)

/-- `scaledToSats` is the floor of the value, which `worth` states without cases. -/
theorem scaledToSats_eq_worth (a : Amount) : a.scaledToSats = a.worth :=
  (scaledToSats_eq a).trans (worth_eq a).symm

/-! ## §2. The answers. -/

/-- **Only an amount that is multiplied up can leave the 128 bits.** -/
theorem scaledToSats_lt (hd : 8 ≤ a.divisibility) : a.scaledToSats < 2 ^ 128 := by
  unfold scaledToSats
  rw [if_pos (show satDecimals ≤ a.divisibility from hd)]
  exact Nat.lt_of_le_of_lt (Nat.div_le_self _ _) a.minorUnits_lt

/-- With fewer than eight decimals the amount is multiplied, which can exceed all words. -/
theorem scaledToSats_of_coarse (hd : a.divisibility < 8) :
    a.scaledToSats = a.minorUnits * 10 ^ (8 - a.divisibility) := by
  unfold scaledToSats
  rw [if_neg (show ¬ satDecimals ≤ a.divisibility from Nat.not_le.2 hd)]
  rfl

/-- **The answers**: the worth itself, a worth beyond 64 bits, or one beyond 128. -/
theorem sats_cases (a : Amount) :
    (∃ n : UInt64, a.worth = n.toNat ∧ a.sats = .sats n)
    ∨ (2 ^ 64 ≤ a.worth ∧ a.worth < 2 ^ 128 ∧ a.sats = .tooLarge)
    ∨ (2 ^ 128 ≤ a.worth ∧ a.sats = .overflow) := by
  unfold Amount.sats
  rw [scaledToSats_eq_worth]
  by_cases hword : a.worth < UInt64.size
  · rw [if_pos hword]
    exact .inl ⟨_, (UInt64.toNat_ofNat_of_lt hword).symm, rfl⟩
  · rw [if_neg hword]
    by_cases hfits : a.worth < Nat.pow 2 128
    · rw [if_pos hfits]
      exact .inr (.inl ⟨Nat.le_of_not_lt hword, hfits, rfl⟩)
    · rw [if_neg hfits]
      exact .inr (.inr ⟨Nat.le_of_not_lt hfits, rfl⟩)

/-- **An answer in satoshis is the worth**, and is given whenever that fits a word of 64
bits. -/
theorem sats_eq_sats_iff {n : UInt64} : a.sats = .sats n ↔ a.worth = n.toNat := by
  have hn : n.toNat < 2 ^ 64 := n.toNat_lt
  rcases sats_cases a with ⟨k, hk, h⟩ | ⟨hle, -, h⟩ | ⟨hle, h⟩
  · rw [h, hk, SatValue.sats.injEq, UInt64.toNat_inj]
  · simp only [h, reduceCtorEq, false_iff]
    omega
  · simp only [h, reduceCtorEq, false_iff]
    omega

/-- **An amount is too large** if its worth exceeds 64 bits and the product still fits 128.
-/
theorem sats_eq_tooLarge_iff : a.sats = .tooLarge ↔ 2 ^ 64 ≤ a.worth ∧ a.worth < 2 ^ 128 := by
  rcases sats_cases a with ⟨n, hn, h⟩ | ⟨hle, hlt, h⟩ | ⟨hle, h⟩
  · have hword : n.toNat < 2 ^ 64 := n.toNat_lt
    simp only [h, reduceCtorEq, false_iff]
    omega
  · exact ⟨fun _ => ⟨hle, hlt⟩, fun _ => h⟩
  · simp only [h, reduceCtorEq, false_iff]
    omega

/-- **The product overflows** from `2 ^ 128` on, before anything is compared. -/
theorem sats_eq_overflow_iff : a.sats = .overflow ↔ 2 ^ 128 ≤ a.worth := by
  rcases sats_cases a with ⟨n, hn, h⟩ | ⟨-, hlt, h⟩ | ⟨hle, h⟩
  · have hword : n.toNat < 2 ^ 64 := n.toNat_lt
    simp only [h, reduceCtorEq, false_iff]
    omega
  · simp only [h, reduceCtorEq, false_iff]
    omega
  · exact ⟨fun _ => hle, fun _ => h⟩

/-- **A worth beyond 128 bits is a product that leaves them**: an amount with
eight decimals or more has none. -/
theorem le_worth_iff : 2 ^ 128 ≤ a.worth ↔
    a.divisibility < 8 ∧ 2 ^ 128 ≤ a.minorUnits * 10 ^ (8 - a.divisibility) := by
  rw [← scaledToSats_eq_worth]
  by_cases hd : a.divisibility < 8
  · rw [scaledToSats_of_coarse hd]
    exact (and_iff_right hd).symm
  · have hlt : a.scaledToSats < 2 ^ 128 := scaledToSats_lt (Nat.le_of_not_lt hd)
    exact ⟨fun hle => absurd hle (Nat.not_le.2 hlt), fun hcoarse => absurd hcoarse.1 hd⟩

/-- **What an amount is answered to be worth.**  Every amount can be built from
its parts and read from a text.  Its worth is told exactly when it fits 64
bits, and found too large beyond them as long as it fits 128.  From there on
the answer is the overflow of the product that brings missing decimals back;
the powers of ten fit, and the quotient of an amount with more decimals does. -/
theorem worth_answered (a : Amount) :
    (∃ m, ofMinorUnits m a.divisibility = .ok a) ∧ (∃ s, read s = .ok a)
    ∧ (∀ n, a.sats = .sats n ↔ a.worth = n.toNat)
    ∧ (a.sats = .tooLarge ↔ 2 ^ 64 ≤ a.worth ∧ a.worth < 2 ^ 128)
    ∧ (a.sats = .overflow ↔ 2 ^ 128 ≤ a.worth)
    ∧ (2 ^ 128 ≤ a.worth ↔
        a.divisibility < 8 ∧ 2 ^ 128 ≤ a.minorUnits * 10 ^ (8 - a.divisibility))
    ∧ 10 ^ (a.divisibility - 8) < 2 ^ 128 ∧ 10 ^ (8 - a.divisibility) < 2 ^ 128 := by
  have hpow : ∀ k ≤ 18, 10 ^ k < 2 ^ 128 := fun k hk =>
    Nat.lt_of_le_of_lt (Nat.pow_le_pow_right (by decide) hk) (by decide)
  have hd : a.divisibility ≤ 18 := a.divisibility_le
  exact ⟨⟨_, ofMinorUnits_self a⟩, exists_read a, fun _ => sats_eq_sats_iff,
    sats_eq_tooLarge_iff, sats_eq_overflow_iff, le_worth_iff, hpow _ (by omega), hpow _ (by omega)⟩

/-- The most whole bitcoins that do not overflow. -/
example : sats ⟨3402823669209384634633746074317, 0, by decide, by decide⟩ = .tooLarge := by decide

/-! ## §3. An amount that overflows. -/

/-- The least number of whole bitcoins that is worth more than 128 bits. -/
def vast : Amount := ⟨3402823669209384634633746074318, 0, by decide, by decide⟩

/-- A worth beyond 64 bits is not always found too large. -/
theorem overflow_vast :
    ofMinorUnits ⟨3402823669209384634633746074318, by decide⟩ 0 = .ok vast
    ∧ read "3402823669209384634633746074318" = .ok vast
    ∧ 2 ^ 64 ≤ vast.worth ∧ vast.sats = .overflow ∧ vast.sats ≠ .tooLarge := by
  have hworth : vast.worth = 340282366920938463463374607431800000000 := by
    rw [worth_eq]
    decide
  have hsats : vast.sats = .overflow := by
    rw [sats_eq_overflow_iff, hworth]
    decide
  have hspells : Spells "3402823669209384634633746074318".toList
      "3402823669209384634633746074318".toList [] :=
    .whole (by decide) (List.all_eq_true.1 (by decide))
  refine ⟨rfl, read_eq_ok hspells rfl (by decide), ?_, hsats, ?_⟩
  · rw [hworth]
    decide
  · rw [hsats]
    decide

end SwapBridge.Amount
