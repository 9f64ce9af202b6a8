/-
  SwapBridge.Text.Decimal
  ───────────────────────
  **DECIMAL NUMBERS AS TEXT.**

  Writing is the usual one: no sign, no leading zero.  Reading is wider, since
  leading zeros are allowed everywhere and some readers take a leading plus.

    • `Decimal.write` — the shortest digits of a number,
    • `Decimal.readBelow?` — digits only, value below a bound,
    • `Decimal.readSignedBelow?` — the same after at most one plus sign.
-/

namespace SwapBridge.Decimal

/-- The digits of a number, without leading zeros. -/
def digits (n : Nat) : List Char := Nat.toDigits 10 n

/-- The decimal text of a number. -/
def write (n : Nat) : String := String.ofList (digits n)

/-- The decimal text of an integer. -/
def writeInt : Int → String
  | .ofNat n => write n
  | .negSucc n => "-" ++ write (n + 1)

/-- The number that a list of digits stands for. -/
def value (ds : List Char) : Nat := Nat.ofDigitChars 10 ds 0

/-- One or more digits and nothing else. -/
def isNumeral (ds : List Char) : Bool := !ds.isEmpty && ds.all Char.isDigit

/-- Reads a numeral whose value is below `bound`. -/
def readBelow? (bound : Nat) (cs : List Char) : Option Nat :=
  if isNumeral cs && value cs < bound then some (value cs) else none

/-- Reads a numeral below `bound`, after at most one plus sign. -/
def readSignedBelow? (bound : Nat) : List Char → Option Nat
  | '+' :: cs => readBelow? bound cs
  | cs => readBelow? bound cs

/-- A number in decimal, padded with zeros on the left to `width` digits. -/
def padded (width n : Nat) : List Char :=
  List.replicate (width - (digits n).length) '0' ++ digits n

/-! ## Words -/

def readUInt16? (s : String) : Option UInt16 :=
  (readSignedBelow? UInt16.size s.toList).map UInt16.ofNat

/-! ## Writing reads back -/

theorem value_digits (n : Nat) : value (digits n) = n :=
  Nat.ofDigitChars_toDigits (by decide) (by decide)

theorem isDigit_of_mem_digits {n : Nat} {c : Char} (h : c ∈ digits n) : c.isDigit = true :=
  Nat.isDigit_of_mem_toDigits (by decide) (by decide) h

theorem digits_ne_nil (n : Nat) : digits n ≠ [] := Nat.toDigits_ne_nil

theorem isNumeral_digits (n : Nat) : isNumeral (digits n) = true := by
  simp only [isNumeral, Bool.and_eq_true, Bool.not_eq_true', List.isEmpty_eq_false_iff,
    List.all_eq_true]
  exact ⟨digits_ne_nil n, fun c hc => isDigit_of_mem_digits hc⟩

theorem readBelow?_digits {bound n : Nat} (h : n < bound) :
    readBelow? bound (digits n) = some n := by
  simp [readBelow?, isNumeral_digits, value_digits, h]

theorem readUInt16?_digits (n : UInt16) :
    readUInt16? (String.ofList (digits n.toNat)) = some n := by
  have hread : readSignedBelow? UInt16.size (digits n.toNat) = some n.toNat := by
    rw [← readBelow?_digits n.toNat_lt]
    unfold readSignedBelow?
    split
    · rename_i cs hplus
      have hmem : '+' ∈ digits n.toNat := hplus ▸ List.mem_cons_self
      exact absurd (isDigit_of_mem_digits hmem) (by decide)
    · rfl
  unfold readUInt16?
  rw [String.toList_ofList, hread, Option.map_some, UInt16.ofNat_toNat]

/-! ## Digits and padding -/

/-- The digits of a positive number have no zero in front. -/
theorem digits_of_pos {n : Nat} (hn : 0 < n) : ∃ c cs, digits n = c :: cs ∧ c ≠ '0' := by
  unfold digits
  induction n using Nat.strongRecOn with
  | _ n ih =>
    by_cases hlt : n < 10
    · refine ⟨Nat.digitChar n, [], Nat.toDigits_of_lt_base hlt, ?_⟩
      have hsmall : ∀ d < 10, 0 < d → Nat.digitChar d ≠ '0' := by decide
      exact hsmall n hlt hn
    · -- the front stays where a digit is added at the end
      obtain ⟨c, cs, hdigits, hc⟩ := ih (n / 10) (by omega) (by omega)
      refine ⟨c, cs ++ [Nat.digitChar (n % 10)], ?_, hc⟩
      rw [Nat.toDigits_of_base_le (by decide) (by omega), hdigits]
      rfl

/-- The last digit of a number that is no multiple of ten. -/
theorem digits_concat {n : Nat} (hn : n % 10 ≠ 0) : ∃ cs c, digits n = cs ++ [c] ∧ c ≠ '0' := by
  have hsmall : ∀ d < 10, d ≠ 0 → Nat.digitChar d ≠ '0' := by decide
  unfold digits
  by_cases hlt : n < 10
  · exact ⟨[], _, Nat.toDigits_of_lt_base hlt, hsmall n hlt (by omega)⟩
  · exact ⟨_, _, Nat.toDigits_of_base_le (by decide) (by omega), hsmall _ (by omega) hn⟩

/-- Ten times a number has one more zero at the end. -/
theorem digits_mul_ten {n : Nat} (hn : 0 < n) : digits (10 * n) = digits n ++ ['0'] := by
  have hzero : digits 0 = ['0'] := Nat.toDigits_zero 10
  rw [← hzero]
  exact (@Nat.toDigits_append_toDigits 10 n 0 (by decide) hn (by decide)).symm

theorem value_append (xs ys : List Char) :
    value (xs ++ ys) = Nat.pow 10 ys.length * value xs + value ys := by
  unfold value
  rw [Nat.ofDigitChars_append, Nat.ofDigitChars_eq_ofDigitChars_zero]
  rfl

theorem value_padded (width n : Nat) : value (padded width n) = n := by
  unfold padded
  rw [value_append, value_digits]
  simp [value, Nat.ofDigitChars_replicate_zero]

theorem isDigit_of_mem_padded {width n : Nat} {c : Char} (h : c ∈ padded width n) :
    c.isDigit = true := by
  rcases List.mem_append.1 h with hzero | hdigit
  · rw [List.eq_of_mem_replicate hzero]
    rfl
  · exact isDigit_of_mem_digits hdigit

/-- A number that has at most `width` digits is padded to `width` digits. -/
theorem length_padded {width n : Nat} (hwidth : 0 < width) (hn : n < Nat.pow 10 width) :
    (padded width n).length = width := by
  have hle : (digits n).length ≤ width :=
    (Nat.length_toDigits_le_iff (by decide) hwidth).2 hn
  unfold padded
  rw [List.length_append, List.length_replicate]
  omega

theorem padded_mul_ten {width n : Nat} (hn : 0 < n) :
    padded (width + 1) (10 * n) = padded width n ++ ['0'] := by
  unfold padded
  rw [digits_mul_ten hn, List.length_append, ← List.append_assoc, List.length_singleton,
    Nat.add_sub_add_right]

end SwapBridge.Decimal
