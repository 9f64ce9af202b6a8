/-
  SwapBridge.Proofs.Amount.Text
  ─────────────────────────────
  **AMOUNTS AS DECIMAL TEXTS.**

  `Spells` is the grammar of the texts that are read.  An amount is written
  without zeros at the end, so amounts of one value share one text, which
  reads as the one among them with the fewest decimals.

    • `Spells` — digits, and possibly a point with more digits,
    • `read_of_spells`, `read_cases` — the reader along the grammar,
    • `decimals_read` — which texts are read, as what, and which error wins,
    • `exists_read` — no amount is beyond the reader,
    • `write_of_scaled` — zeros at the end are not written,
    • `IsShortest.read_write` — an amount without such zeros is read back,
    • `text_tells_value` — the text of an amount and its value tell each other.
-/
import Mathlib.Algebra.Order.Field.Rat
import Mathlib.Tactic.Positivity
import Mathlib.Tactic.Ring
import SwapBridge.Amount

namespace SwapBridge.Amount

variable {a b : Amount} {cs whole fraction : List Char} {s : String}

/-! ## §1. The grammar of decimal texts. -/

/-- A text spells the digits of a whole part, at least one, and those behind
the point, if there is one. -/
inductive Spells : List Char → List Char → List Char → Prop where
  | whole {whole : List Char} (hne : whole ≠ []) (hwhole : ∀ c ∈ whole, c.isDigit = true) :
    Spells whole whole []
  | pointed {whole fraction : List Char} (hne : whole ≠ [])
    (hwhole : ∀ c ∈ whole, c.isDigit = true) (hfraction : ∀ c ∈ fraction, c.isDigit = true) :
    Spells (whole ++ '.' :: fraction) whole fraction

/-- Digits have no point among them, so that `cut?` finds the one that was written. -/
theorem point_not_mem (h : ∀ c ∈ cs, c.isDigit = true) : '.' ∉ cs := fun hmem =>
  absurd (h _ hmem) (by decide)

/-- The first point divides what a text spells. -/
theorem Spells.parts_eq (h : Spells cs whole fraction) : parts cs = (whole, fraction) := by
  unfold parts
  cases h with
  | whole hne hwhole => rw [Text.cut?_of_not_mem (point_not_mem hwhole), Option.getD_none]
  | pointed hne hwhole hfraction => rw [Text.cut?_append (point_not_mem hwhole), Option.getD_some]

/-- A whole part that `Spells` allows is a numeral: there is a digit in it. -/
theorem Spells.isNumeral (h : Spells cs whole fraction) : Decimal.isNumeral whole = true := by
  cases h with
  | whole hne hwhole | pointed hne hwhole _ => simpa [Decimal.isNumeral, hne] using hwhole

theorem Spells.isDigit (h : Spells cs whole fraction) : fraction.all Char.isDigit = true := by
  cases h with
  | whole => rfl
  | pointed _ _ hfraction => exact List.all_eq_true.2 hfraction

/-- Parts that hold digits only are spelled. -/
theorem spells_of_parts (h : parts cs = (whole, fraction))
    (hwhole : Decimal.isNumeral whole = true) (hfraction : fraction.all Char.isDigit = true) :
    Spells cs whole fraction := by
  obtain ⟨hne, hdigits⟩ : whole ≠ [] ∧ ∀ c ∈ whole, c.isDigit = true := by
    simpa [Decimal.isNumeral] using hwhole
  unfold parts at h
  -- without a point the whole text is the whole part
  cases hcut : Text.cut? ['.'] cs with
  | none =>
    obtain ⟨rfl, rfl⟩ : cs = whole ∧ [] = fraction := by simpa [hcut] using h
    exact .whole hne hdigits
  | some cut =>
    obtain rfl : cut = (whole, fraction) := by simpa [hcut] using h
    have hcs : cs = whole ++ '.' :: fraction := by
      simpa using Text.eq_append_of_cut? hcut
    rw [hcs]
    exact .pointed hne hdigits (List.all_eq_true.1 hfraction)

/-- What a list of characters spells its text spells too. -/
theorem Spells.ofList (h : Spells cs whole fraction) :
    Spells (String.ofList cs).toList whole fraction := by
  rwa [String.toList_ofList]

/-- A fraction is no longer than the text. -/
theorem Spells.length_le (h : Spells cs whole fraction) : fraction.length ≤ cs.length := by
  cases h with
  | whole => exact Nat.zero_le _
  | pointed =>
    rw [List.length_append, List.length_cons]
    omega

/-! ## §2. Reading along the grammar. -/

/-- Every character of a text takes a byte. -/
theorem length_le_utf8ByteSize (s : String) : s.toList.length ≤ s.utf8ByteSize := by
  have hbytes : ∀ cs : List Char, cs.length ≤ (String.ofList cs).utf8ByteSize := by
    intro cs
    induction cs with
    | nil => exact Nat.zero_le _
    | cons c cs ih =>
      have hc : 0 < c.utf8Size := c.utf8Size_pos
      rw [String.ofList_cons, String.utf8ByteSize_append, String.utf8ByteSize_singleton,
        List.length_cons]
      omega
  simpa using hbytes s.toList

/-- The reader behind the grammar: the decimals are looked at before the value. -/
theorem read_of_spells (h : Spells s.toList whole fraction)
    (hcount : fraction.length < UInt32.size) :
    read s = if hd : fraction.length ≤ maxDivisibility then
        if hv : Decimal.value (whole ++ fraction) < Nat.pow 2 128 then
          .ok ⟨Decimal.value (whole ++ fraction), fraction.length, hv, hd⟩
        else .error (.malformed s)
      else .error (.divisibility fraction.length) := by
  unfold read
  rw [h.parts_eq]
  dsimp only
  rw [if_pos (by simp only [h.isNumeral, h.isDigit, decide_eq_true hcount, Bool.and_self])]

/-- An amount is read from a text that spells its minor units with its decimals. -/
theorem read_eq_ok (h : Spells s.toList whole fraction) (hd : a.divisibility = fraction.length)
    (hm : a.minorUnits = Decimal.value (whole ++ fraction)) : read s = .ok a := by
  have hle : fraction.length ≤ maxDivisibility := hd ▸ a.divisibility_le
  have hlt : Decimal.value (whole ++ fraction) < Nat.pow 2 128 := hm ▸ a.minorUnits_lt
  have hcount : fraction.length < UInt32.size := Nat.lt_of_le_of_lt hle (by decide)
  rw [read_of_spells h hcount, dif_pos hle, dif_pos hlt]
  cases a
  subst hd hm
  rfl

/-- **Too many decimals are refused by their number**, before the digits are looked at. -/
theorem read_eq_divisibility (h : Spells s.toList whole fraction)
    (hcount : fraction.length < UInt32.size) (hd : maxDivisibility < fraction.length) :
    read s = .error (.divisibility fraction.length) := by
  rw [read_of_spells h hcount, dif_neg (Nat.not_le.2 hd)]

/-- **The ends of a reading.**  Only texts of the grammar come to an amount or
to a complaint about their decimals. -/
theorem read_cases (s : String) :
    (∃ a whole fraction, read s = .ok a ∧ Spells s.toList whole fraction
      ∧ a.minorUnits = Decimal.value (whole ++ fraction) ∧ a.divisibility = fraction.length)
    ∨ (∃ whole fraction, read s = .error (.divisibility fraction.length)
      ∧ Spells s.toList whole fraction ∧ maxDivisibility < fraction.length)
    ∨ read s = .error (.malformed s) := by
  unfold read
  obtain ⟨whole, fraction, hparts⟩ : ∃ whole fraction, parts s.toList = (whole, fraction) :=
    ⟨_, _, rfl⟩
  rw [hparts]
  dsimp only
  -- the digits are looked at before their number, and that before the value
  split
  case isTrue hguard =>
    simp only [Bool.and_eq_true] at hguard
    have hspells : Spells s.toList whole fraction :=
      spells_of_parts hparts hguard.1.1 hguard.1.2
    split
    case isTrue hd =>
      split
      case isTrue hv => exact .inl ⟨_, whole, fraction, rfl, hspells, rfl, rfl⟩
      case isFalse => exact .inr (.inr rfl)
    case isFalse hd => exact .inr (.inl ⟨whole, fraction, rfl, hspells, Nat.lt_of_not_le hd⟩)
  case isFalse => exact .inr (.inr rfl)

/-- **What a text is read as.**  Exactly the texts of the grammar with at most
eighteen digits behind the point, and a number of 128 bits over all digits, are
amounts; one with more digits there is refused for their count, whatever its
number is, and all else as malformed. -/
theorem decimals_read (s : String) (hs : s.utf8ByteSize < 2 ^ 32) :
    (∀ a, read s = .ok a ↔ ∃ whole fraction, Spells s.toList whole fraction
        ∧ fraction.length ≤ 18 ∧ Decimal.value (whole ++ fraction) ≤ 2 ^ 128 - 1
        ∧ a.minorUnits = Decimal.value (whole ++ fraction) ∧ a.divisibility = fraction.length)
    ∧ (∀ k, read s = .error (.divisibility k) ↔
        ∃ whole fraction, Spells s.toList whole fraction ∧ fraction.length = k ∧ 18 < k)
    ∧ ((∀ a, read s ≠ .ok a) → (∀ k, read s ≠ .error (.divisibility k)) →
        read s = .error (.malformed s)) := by
  have hcases := read_cases s
  refine ⟨fun a => ⟨fun hok => ?_, ?_⟩, fun k => ⟨fun herror => ?_, ?_⟩, fun hok herror => ?_⟩
  · rcases hcases with ⟨b, whole, fraction, hread, h, hm, hd⟩ | ⟨_, _, hread, _⟩ | hread
    · obtain rfl : b = a := Except.ok.inj (hread.symm.trans hok)
      exact ⟨whole, fraction, h, hd ▸ b.divisibility_le,
        Nat.le_pred_of_lt (hm ▸ b.minorUnits_lt), hm, hd⟩
    · simp [hread] at hok
    · simp [hread] at hok
  · rintro ⟨whole, fraction, h, -, -, hm, hd⟩
    exact read_eq_ok h hd hm
  · rcases hcases with ⟨_, _, _, hread, _⟩ | ⟨whole, fraction, hread, h, hd⟩ | hread
    · simp [hread] at herror
    · obtain rfl : fraction.length = k := by simpa [hread] using herror
      exact ⟨whole, fraction, h, rfl, hd⟩
    · simp [hread] at herror
  · rintro ⟨whole, fraction, h, rfl, hd⟩
    -- so many digits fit a text of fewer than 2³² bytes only if their count fits 32 bits
    have hcount : fraction.length < UInt32.size :=
      Nat.lt_of_le_of_lt (h.length_le.trans (length_le_utf8ByteSize s)) hs
    exact read_eq_divisibility h hcount hd
  · rcases hcases with ⟨a, _, _, hread, _⟩ | ⟨_, _, hread, _⟩ | hread
    · exact absurd hread (hok a)
    · exact absurd hread (herror _)
    · exact hread

/-- Zeros in front are digits like others. -/
theorem decimals_read_zerosInFront :
    "007.50".utf8ByteSize < 2 ^ 32 ∧ read "007.50" = .ok ⟨750, 2, by decide, by decide⟩ := by
  have hs : "007.50".utf8ByteSize < 2 ^ 32 := by decide
  have hdigits : "007".toList.all Char.isDigit = true ∧ "50".toList.all Char.isDigit = true := by
    decide
  have hspells : Spells "007.50".toList "007".toList "50".toList :=
    @Spells.pointed "007".toList "50".toList (by decide) (List.all_eq_true.1 hdigits.1)
      (List.all_eq_true.1 hdigits.2)
  exact ⟨hs, ((decimals_read _ hs).1 _).2
    ⟨_, _, hspells, by decide, by decide, by decide, by decide⟩⟩

/-- All decimals of an amount are as many as its divisibility says, zeros in front included.
-/
theorem length_allDecimals (hd : 0 < a.divisibility) :
    (Decimal.padded a.divisibility (a.minorUnits % Nat.pow 10 a.divisibility)).length
      = a.divisibility :=
  Decimal.length_padded hd (Nat.mod_lt _ (Nat.pow_pos (by decide)))

/-- All decimals of an amount, behind its whole part, are the digits of its
minor units. -/
theorem value_allDecimals (hd : 0 < a.divisibility) :
    Decimal.value (Decimal.digits (a.minorUnits / Nat.pow 10 a.divisibility)
      ++ Decimal.padded a.divisibility (a.minorUnits % Nat.pow 10 a.divisibility))
      = a.minorUnits := by
  rw [Decimal.value_append, length_allDecimals hd, Decimal.value_digits, Decimal.value_padded]
  exact Nat.div_add_mod _ _

/-- **Every amount is read from a text**, the one with all its decimals. -/
theorem exists_read (a : Amount) : ∃ s, read s = .ok a := by
  have hdigits : ∀ n, ∀ c ∈ Decimal.digits n, c.isDigit = true :=
    fun _ _ => Decimal.isDigit_of_mem_digits
  rcases Nat.eq_zero_or_pos a.divisibility with hd | hd
  · have hspells : Spells (Decimal.digits a.minorUnits) (Decimal.digits a.minorUnits) [] :=
      .whole (Decimal.digits_ne_nil _) (hdigits _)
    exact ⟨_, read_eq_ok hspells.ofList hd (by rw [List.append_nil, Decimal.value_digits])⟩
  · have hdecimals : ∀ c ∈ Decimal.padded a.divisibility
        (a.minorUnits % Nat.pow 10 a.divisibility), c.isDigit = true :=
      fun _ => Decimal.isDigit_of_mem_padded
    have hspells := Spells.pointed
      (Decimal.digits_ne_nil (a.minorUnits / Nat.pow 10 a.divisibility)) (hdigits _) hdecimals
    exact ⟨_, read_eq_ok hspells.ofList (length_allDecimals hd).symm (value_allDecimals hd).symm⟩

/-! ## §3. Zeros at the end. -/

/-- A zero at the end of the fraction is not written. -/
theorem fractionDigits_of_mul_ten (hm : b.minorUnits = 10 * a.minorUnits)
    (hd : b.divisibility = a.divisibility + 1) : b.fractionDigits = a.fractionDigits := by
  have hrest : b.minorUnits % Nat.pow 10 b.divisibility
      = 10 * (a.minorUnits % Nat.pow 10 a.divisibility) := by
    rw [hm, hd, ← Nat.mul_mod_mul_left]
    congr 1
    exact Nat.pow_succ'
  unfold fractionDigits
  rw [hrest]
  dsimp only
  by_cases hzero : a.minorUnits % Nat.pow 10 a.divisibility = 0
  · rw [if_pos hzero, if_pos (by omega)]
  · rw [if_neg hzero, if_neg (by omega), hd, Decimal.padded_mul_ten (by omega)]
    simp

/-- Ten times the units with one decimal more is written the same: the last zero is dropped.
-/
theorem chars_of_mul_ten (hm : b.minorUnits = 10 * a.minorUnits)
    (hd : b.divisibility = a.divisibility + 1) : b.chars = a.chars := by
  have hwhole : b.minorUnits / Nat.pow 10 b.divisibility
      = a.minorUnits / Nat.pow 10 a.divisibility := by
    rw [hm, hd, ← Nat.mul_div_mul_left a.minorUnits _ (by decide : 0 < 10)]
    congr 1
    exact Nat.pow_succ'
  unfold chars
  rw [hwhole, fractionDigits_of_mul_ten hm hd]

/-- **Amounts that differ in zeros at the end have one text.** -/
theorem write_of_scaled {k : ℕ} (hm : b.minorUnits = a.minorUnits * 10 ^ k)
    (hd : b.divisibility = a.divisibility + k) : b.write = a.write := by
  induction k generalizing b with
  | zero =>
    obtain rfl : b = a := by
      cases a
      cases b
      simp_all
    rfl
  | succ k ih =>
    have hunits : b.minorUnits = 10 * (a.minorUnits * 10 ^ k) := by rw [hm]; ring
    -- the amount with one zero less, which `b` bounds
    let c : Amount := ⟨a.minorUnits * 10 ^ k, a.divisibility + k,
      Nat.lt_of_le_of_lt (by omega) b.minorUnits_lt, Nat.le_trans (by omega) b.divisibility_le⟩
    have hc : b.chars = c.chars := chars_of_mul_ten hunits hd
    calc b.write = c.write := congrArg String.ofList hc
      _ = a.write := ih rfl rfl

/-! ## §4. The shortest amount of a value. -/

/-- An amount without a zero at the end of its decimals. -/
def IsShortest (a : Amount) : Prop := a.divisibility = 0 ∨ ¬ 10 ∣ a.minorUnits

/-- Zeros at the end can be taken away until there are none. -/
theorem exists_shortest (a : Amount) : ∃ b : Amount, b.IsShortest
    ∧ ∃ k, a.minorUnits = b.minorUnits * 10 ^ k ∧ a.divisibility = b.divisibility + k := by
  induction hd : a.divisibility generalizing a with
  | zero => exact ⟨a, .inl hd, 0, by simp, hd.symm⟩
  | succ d ih =>
    by_cases hten : 10 ∣ a.minorUnits
    · obtain ⟨m, hm⟩ := hten
      let c : Amount := ⟨m, d, Nat.lt_of_le_of_lt (by omega) a.minorUnits_lt,
        Nat.le_trans (by omega) a.divisibility_le⟩
      obtain ⟨b, hb, k, hunits, hdecimals⟩ := ih c rfl
      refine ⟨b, hb, k + 1, ?_, by omega⟩
      calc a.minorUnits = 10 * c.minorUnits := hm
        _ = b.minorUnits * 10 ^ (k + 1) := by rw [hunits]; ring
    · exact ⟨a, .inr hten, 0, by simp, hd.symm⟩

/-- **A shortest amount writes all its decimals.** -/
theorem IsShortest.fractionDigits_eq (h : a.IsShortest) (hd : 0 < a.divisibility) :
    a.fractionDigits
      = Decimal.padded a.divisibility (a.minorUnits % Nat.pow 10 a.divisibility) := by
  have hten : ¬ 10 ∣ a.minorUnits := h.resolve_left (by omega)
  have hlast : a.minorUnits % Nat.pow 10 a.divisibility % 10 ≠ 0 := by
    have hpow : 10 ∣ Nat.pow 10 a.divisibility := dvd_pow_self 10 (by omega)
    rw [Nat.mod_mod_of_dvd _ hpow]
    exact fun hmod => hten (Nat.dvd_of_mod_eq_zero hmod)
  -- the last digit is no zero, so none is dropped
  obtain ⟨cs, c, hdigits, hc⟩ := Decimal.digits_concat hlast
  unfold fractionDigits
  dsimp only
  rw [if_neg (by omega), Decimal.padded, hdigits, ← List.append_assoc]
  simp [hc]

/-- A shortest amount drops no decimals. -/
theorem IsShortest.length_fractionDigits (h : a.IsShortest) :
    a.fractionDigits.length = a.divisibility := by
  rcases Nat.eq_zero_or_pos a.divisibility with hd | hd
  · unfold fractionDigits
    simp [hd, Nat.mod_one]
  · rw [h.fractionDigits_eq hd]
    exact length_allDecimals hd

/-- Its whole part and its decimals, the one behind the other, are the digits of its units.
-/
theorem IsShortest.value_digits (h : a.IsShortest) :
    Decimal.value (Decimal.digits (a.minorUnits / Nat.pow 10 a.divisibility) ++ a.fractionDigits)
      = a.minorUnits := by
  rcases Nat.eq_zero_or_pos a.divisibility with hd | hd
  · have hnil : a.fractionDigits = [] :=
      List.eq_nil_of_length_eq_zero (h.length_fractionDigits.trans hd)
    rw [hnil, List.append_nil, Decimal.value_digits, hd]
    exact Nat.div_one _
  · rw [h.fractionDigits_eq hd]
    exact value_allDecimals hd

theorem isDigit_fractionDigits (a : Amount) : ∀ c ∈ a.fractionDigits, c.isDigit = true := by
  intro c hc
  unfold fractionDigits at hc
  dsimp only at hc
  split at hc
  · cases hc
  · have hmem := List.mem_reverse.1 (List.mem_reverse.1 hc |> List.dropWhile_subset _)
    exact Decimal.isDigit_of_mem_padded hmem

/-- What is written is a text of the grammar. -/
theorem spells_write (a : Amount) : Spells a.write.toList
    (Decimal.digits (a.minorUnits / Nat.pow 10 a.divisibility)) a.fractionDigits := by
  have hne := Decimal.digits_ne_nil (a.minorUnits / Nat.pow 10 a.divisibility)
  have hwhole : ∀ c ∈ Decimal.digits (a.minorUnits / Nat.pow 10 a.divisibility),
      c.isDigit = true := fun _ => Decimal.isDigit_of_mem_digits
  unfold write
  apply Spells.ofList
  unfold chars
  dsimp only
  cases hfraction : a.fractionDigits with
  | nil => exact .whole hne hwhole
  | cons c cs => exact .pointed hne hwhole (hfraction ▸ isDigit_fractionDigits a)

/-- **A shortest amount is read back from its text.** -/
theorem IsShortest.read_write (h : a.IsShortest) : read a.write = .ok a :=
  read_eq_ok (spells_write a) h.length_fractionDigits.symm h.value_digits.symm

/-! ## §5. Texts and values. -/

/-- The number that an amount stands for. -/
def value (a : Amount) : ℚ := a.minorUnits / 10 ^ a.divisibility

/-- Values are compared without fractions, crosswise. -/
theorem value_eq_iff :
    a.value = b.value ↔ a.minorUnits * 10 ^ b.divisibility = b.minorUnits * 10 ^ a.divisibility := by
  unfold value
  rw [div_eq_div_iff (by positivity) (by positivity)]
  exact_mod_cast Iff.rfl

/-- Of two amounts of one value the one with more decimals is a scaled one. -/
theorem scaled_of_value_eq (h : b.value = a.value) (hle : a.divisibility ≤ b.divisibility) :
    b.minorUnits = a.minorUnits * 10 ^ (b.divisibility - a.divisibility) := by
  have hcross := value_eq_iff.1 h
  apply Nat.eq_of_mul_eq_mul_right (Nat.pow_pos (by decide : 0 < 10) : 0 < 10 ^ a.divisibility)
  rw [hcross, Nat.mul_assoc, ← pow_add, Nat.sub_add_cancel hle]

/-- Units and decimals that grow together leave the value as it is. -/
theorem value_of_scaled {k : ℕ} (hm : b.minorUnits = a.minorUnits * 10 ^ k)
    (hd : b.divisibility = a.divisibility + k) : b.value = a.value := by
  rw [value_eq_iff, hm, hd]
  ring

/-- **One value, one text**: amounts of the same value go back to the same shortest one. -/
theorem write_of_value_eq (h : b.value = a.value) : b.write = a.write := by
  rcases Nat.le_total a.divisibility b.divisibility with hle | hle
  · exact write_of_scaled (scaled_of_value_eq h hle) (Nat.add_sub_of_le hle).symm
  · exact (write_of_scaled (scaled_of_value_eq h.symm hle) (Nat.add_sub_of_le hle).symm).symm

/-- **Every text reads as the shortest amount of its value.** -/
theorem exists_read_write (a : Amount) : ∃ b : Amount, read a.write = .ok b ∧ b.IsShortest
    ∧ ∃ k, a.minorUnits = b.minorUnits * 10 ^ k ∧ a.divisibility = b.divisibility + k := by
  obtain ⟨b, hb, k, hm, hd⟩ := exists_shortest a
  exact ⟨b, write_of_scaled hm hd ▸ hb.read_write, hb, k, hm, hd⟩

/-- **One text, one value**: what is read back from the text has the value of either amount.
-/
theorem value_eq_of_write_eq (h : b.write = a.write) : b.value = a.value := by
  obtain ⟨a', ha, -, k, hm, hd⟩ := exists_read_write a
  obtain ⟨b', hb, -, l, hm', hd'⟩ := exists_read_write b
  obtain rfl : b' = a' := Except.ok.inj (hb.symm.trans (h ▸ ha))
  rw [value_of_scaled hm hd, value_of_scaled hm' hd']

/-- No amount of the same value has fewer decimals than a shortest one. -/
theorem IsShortest.divisibility_le_of_value_eq (h : a.IsShortest) (hvalue : b.value = a.value) :
    a.divisibility ≤ b.divisibility := by
  by_contra hlt
  have hle : b.divisibility ≤ a.divisibility := by omega
  obtain ⟨k, hk⟩ : ∃ k, a.divisibility - b.divisibility = k + 1 :=
    Nat.exists_eq_succ_of_ne_zero (by omega)
  have hm : a.minorUnits = b.minorUnits * 10 ^ (k + 1) := hk ▸ scaled_of_value_eq hvalue.symm hle
  rcases h with hzero | hten
  · omega
  · exact hten (hm ▸ Dvd.dvd.mul_left (dvd_pow_self 10 (by omega)) _)

/-- **The text of an amount tells its value, and only its value.**  It reads as
the amount of that value with the fewest decimals, which is written in the same
way; no other amounts share the text than those of that value. -/
theorem text_tells_value (a : Amount) :
    (∃ b, read a.write = .ok b ∧ b.divisibility ≤ a.divisibility
      ∧ b.minorUnits * 10 ^ (a.divisibility - b.divisibility) = a.minorUnits
      ∧ (10 ∣ b.minorUnits → b.divisibility = 0)
      ∧ (∀ c : Amount, c.value = a.value → b.divisibility ≤ c.divisibility)
      ∧ b.write = a.write)
    ∧ ∀ c : Amount, c.write = a.write ↔ c.value = a.value := by
  refine ⟨?_, fun c => ⟨value_eq_of_write_eq, write_of_value_eq⟩⟩
  obtain ⟨b, hread, hshort, k, hm, hd⟩ := exists_read_write a
  have hk : a.divisibility - b.divisibility = k := by omega
  have hvalue : a.value = b.value := value_of_scaled hm hd
  refine ⟨b, hread, by omega, by rw [hk, hm], fun hten => hshort.resolve_right (· hten), ?_, ?_⟩
  · intro c hc
    exact hshort.divisibility_le_of_value_eq (hc.trans hvalue)
  · exact write_of_value_eq hvalue.symm

end SwapBridge.Amount
