/-
  SwapBridge.Proofs.Amount.Conversion
  ───────────────────────────────────
  **SATOSHIS TO MINOR UNITS AND BACK.**

  One bitcoin is 10⁸ satoshis and 10ᵈ minor units of a currency with `d`
  decimals.  A conversion multiplies first and then divides, so it is exact
  wherever the division leaves no rest; it refuses to round everywhere else.

    • `ofSats_cases` — the three ends of a conversion,
    • `scaledToSats_eq` — the way back as one division,
    • `scaledToSats_of_exact` — an exact conversion is undone,
    • `conversion_exact` — when it succeeds, what it gives, and that neither
      way leaves the words it is computed in.
-/
import Mathlib.Algebra.Order.Field.Rat
import SwapBridge.Amount

namespace SwapBridge.Amount

variable {n d : ℕ} {a : Amount}

/-! ## §1. From satoshis. -/

/-- **The ends of a conversion**: too many decimals, a rest, or an exact amount. -/
theorem ofSats_cases (sats : UInt64) (d : ℕ) :
    (18 < d ∧ ofSats sats d = .error (.divisibility d))
    ∨ (d ≤ 18 ∧ ¬ 10 ^ 8 ∣ sats.toNat * 10 ^ d ∧ ofSats sats d = .error (.inexact sats d))
    ∨ (d ≤ 18 ∧ ∃ a, ofSats sats d = .ok a ∧ a.divisibility = d
        ∧ a.minorUnits * 10 ^ 8 = sats.toNat * 10 ^ d) := by
  -- the divisibility is looked at before the remainder
  by_cases hd : d ≤ maxDivisibility
  · by_cases hrest : sats.toNat * Nat.pow 10 d % Nat.pow 10 satDecimals = 0
    · refine .inr (.inr ⟨hd, ⟨_, d, scaled_lt sats hd, hd⟩, ?_, rfl, ?_⟩)
      · unfold ofSats
        rw [dif_pos hd, if_pos hrest]
      · exact Nat.div_mul_cancel (Nat.dvd_of_mod_eq_zero hrest)
    · refine .inr (.inl ⟨hd, fun hdvd => hrest (Nat.mod_eq_zero_of_dvd hdvd), ?_⟩)
      unfold ofSats
      rw [dif_pos hd, if_neg hrest]
  · refine .inl ⟨Nat.lt_of_not_le hd, ?_⟩
    unfold ofSats
    rw [dif_neg hd]

/-! ## §2. Back to satoshis. -/

/-- **One formula for both directions.**  Dropping the decimals behind the eighth
and bringing the missing ones back are the same division of `m · 10⁸` by `10ᵈ`. -/
theorem scaledToSats_eq (a : Amount) :
    a.scaledToSats = a.minorUnits * 10 ^ 8 / 10 ^ a.divisibility := by
  unfold scaledToSats
  by_cases hd : satDecimals ≤ a.divisibility
  · have hpow : 10 ^ a.divisibility = 10 ^ (a.divisibility - satDecimals) * 10 ^ satDecimals := by
      rw [← pow_add, Nat.sub_add_cancel hd]
    rw [if_pos hd, hpow]
    exact (Nat.mul_div_mul_right _ _ (Nat.pow_pos (by decide))).symm
  · have hpow : 10 ^ 8 = 10 ^ (satDecimals - a.divisibility) * 10 ^ a.divisibility := by
      rw [← pow_add, Nat.sub_add_cancel (Nat.le_of_not_le hd)]
      rfl
    rw [if_neg hd, hpow, ← Nat.mul_assoc]
    exact (Nat.mul_div_cancel _ (Nat.pow_pos (by decide))).symm

/-- **An exact conversion is undone**, whichever side has more decimals. -/
theorem scaledToSats_of_exact (h : a.minorUnits * 10 ^ 8 = n * 10 ^ a.divisibility) :
    a.scaledToSats = n := by
  rw [scaledToSats_eq, h]
  exact Nat.mul_div_cancel _ (Nat.pow_pos (by decide))

/-- Satoshis that a 64-bit word holds come back as that word. -/
theorem sats_of_exact {sats : UInt64}
    (h : a.minorUnits * 10 ^ 8 = sats.toNat * 10 ^ a.divisibility) : a.sats = .sats sats := by
  have hscaled : a.scaledToSats = sats.toNat := scaledToSats_of_exact h
  unfold Amount.sats
  rw [hscaled, if_pos sats.toNat_lt, UInt64.ofNat_toNat]

/-! ## §3. The law of the conversion. -/

/-- **A conversion is exact or refused.**  It is refused for too many decimals
first, and then for a rest; what it gives is worth the satoshis it was given
and converts back to them.  The power of ten and its product with the satoshis
have 128 bits, so nothing is lost on the way; on the way back, leaving the 128
bits would be the outcome `overflow`. -/
theorem conversion_exact (sats : UInt64) (d : ℕ) :
    (ofSats sats d = .error (.divisibility d) ↔ 18 < d)
    ∧ (ofSats sats d = .error (.inexact sats d) ↔ d ≤ 18 ∧ ¬ 10 ^ 8 ∣ sats.toNat * 10 ^ d)
    ∧ ((∃ a, ofSats sats d = .ok a) ↔ d ≤ 18 ∧ 10 ^ 8 ∣ sats.toNat * 10 ^ d)
    ∧ (∀ a, ofSats sats d = .ok a → a.divisibility = d
        ∧ a.minorUnits * 10 ^ 8 = sats.toNat * 10 ^ d ∧ a.sats = .sats sats)
    ∧ (d ≤ 18 → 10 ^ d < 2 ^ 128 ∧ sats.toNat * 10 ^ d < 2 ^ 128) := by
  -- each part of the law is read off the one end that the conversion comes to
  have hbounds : d ≤ 18 → 10 ^ d < 2 ^ 128 ∧ sats.toNat * 10 ^ d < 2 ^ 128 := fun hd =>
    ⟨Nat.lt_of_le_of_lt (Nat.pow_le_pow_right (by decide) hd) (by decide), product_lt sats hd⟩
  rcases ofSats_cases sats d with ⟨hd, h⟩ | ⟨hd, hrest, h⟩ | ⟨hd, a, h, hdecimals, hexact⟩
  · have hnot : ¬ d ≤ 18 := Nat.not_le.2 hd
    exact ⟨by simp [h, hd], by simp [h, hnot], by simp [h, hnot], by simp [h], hbounds⟩
  · have hnot : ¬ 18 < d := Nat.not_lt.2 hd
    exact ⟨by simp [h, hnot], ⟨fun _ => ⟨hd, hrest⟩, fun _ => h⟩,
      ⟨by simp [h], fun hok => absurd hok.2 hrest⟩, by simp [h], hbounds⟩
  · have hnot : ¬ 18 < d := Nat.not_lt.2 hd
    have hdvd : 10 ^ 8 ∣ sats.toNat * 10 ^ d := ⟨a.minorUnits, by rw [← hexact, Nat.mul_comm]⟩
    refine ⟨by simp [h, hnot], ⟨by simp [h], fun hinexact => absurd hdvd hinexact.2⟩,
      ⟨fun _ => ⟨hd, hdvd⟩, fun _ => ⟨a, h⟩⟩, ?_, hbounds⟩
    intro b hb
    obtain rfl : a = b := by simpa [h] using hb
    exact ⟨hdecimals, hexact, sats_of_exact (hdecimals ▸ hexact)⟩

end SwapBridge.Amount
