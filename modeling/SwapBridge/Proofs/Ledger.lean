/-
  SwapBridge.Proofs.Ledger
  ────────────────────────
  **WHAT A LEDGER SAYS ABOUT ONE PAYMENT ID.**

  The ledger keys a payment by its invoice and its id.  As long as the bridge
  alone writes it, an id stands under one invoice at most and the row there
  reads back as the payment that was written.  `Holds` states both at once for
  one id, so that a write acts on it like a write to a single cell.

    • `Row.read_ofPayment` — a row that was written reads back,
    • `Holds.get_eq`, `Holds.invoiceOf?_eq` — what the readers of the ledger find,
    • `Holds.putRow`, `Holds.putRow_ne` — what a write does to its own id and to others.
-/
import SwapBridge.Ledger
import SwapBridge.Proofs.Table

namespace SwapBridge

/-! ## §1. Rows. -/

/-- A numeral never begins with a sign. -/
theorem Decimal.readSignedBelow?_digits {bound n : Nat} (h : n < bound) :
    readSignedBelow? bound (digits n) = some n := by
  rw [← readBelow?_digits h]
  unfold readSignedBelow?
  split
  · rename_i cs hcs
    have hplus : '+' ∈ digits n := hcs ▸ List.mem_cons_self
    exact absurd (isDigit_of_mem_digits hplus) (by decide)
  · rfl

namespace Ledger

theorem Row.decimals_ofPayment (p : Payment) :
    (Row.ofPayment p).decimals = .ok p.amount.divisibility := by
  have hle : (Row.ofPayment p).divisibility ≤ 18 :=
    Int.ofNat_le.2 p.amount.divisibility_le
  have hb : 0 ≤ (Row.ofPayment p).divisibility
      ∧ (Row.ofPayment p).divisibility < UInt32.size := by
    have hsize : UInt32.size = 4294967296 := rfl
    exact ⟨Int.natCast_nonneg _, by omega⟩
  unfold decimals
  rw [if_pos hb]
  rfl

theorem Row.units_ofPayment (p : Payment) :
    (Row.ofPayment p).units = .ok ⟨p.amount.minorUnits, p.amount.minorUnits_lt⟩ := by
  have hl : (Decimal.write p.amount.minorUnits).toList = Decimal.digits p.amount.minorUnits := by
    simp [Decimal.write]
  unfold units
  rw [show (Row.ofPayment p).minorUnits = Decimal.write p.amount.minorUnits from rfl, hl,
    Decimal.readSignedBelow?_digits p.amount.minorUnits_lt]
  show Except.ok (Fin.ofNat _ _) = _
  congr 1
  exact Fin.ext (Nat.mod_eq_of_lt p.amount.minorUnits_lt)

/-- **A row that was written reads back as its payment.** -/
theorem Row.read_ofPayment (p : Payment) : (Row.ofPayment p).read p.id = .ok p := by
  have hname : Payment.Status.ofName? (Row.ofPayment p).status = some p.status :=
    Payment.Status.ofName?_name p.status
  unfold read
  rw [Row.decimals_ofPayment, Row.units_ofPayment, hname]
  show ((Amount.ofMinorUnits ⟨p.amount.minorUnits, _⟩ p.amount.divisibility).mapError
      RowFault.amount >>= _) = _
  rw [Amount.ofMinorUnits_self]
  rfl

/-! ## §2. One payment id. -/

/-- What a ledger holds under a payment id: nothing under any invoice, or a
payment under one invoice and nothing under the others. -/
def Holds (l : Ledger) (t : String) : Option (String × Payment) → Prop
  | none => ∀ j, l.row? j t = none
  | some (i, p) => p.id = t ∧ ∀ j, l.row? j t = if j = i then some (.ofPayment p) else none

theorem holds_empty (t : String) : empty.Holds t none := fun _ => rfl

/-- What a reader finds under an invoice and a payment id. -/
theorem Holds.get_eq {l : Ledger} {t : String} {s : Option (String × Payment)} (h : l.Holds t s)
    (j : String) :
    l.get j t = .ok (s.bind fun (i, p) => if j = i then some p else none) := by
  unfold get
  match s, h with
  | none, h => rw [h j]; rfl
  | some (i, p), ⟨hp, h⟩ =>
    rw [h j]
    show _ = Except.ok (if j = i then some p else none)
    by_cases hj : j = i
    · rw [if_pos hj, if_pos hj]
      subst hp
      show ((Row.ofPayment p).read p.id).map some = _
      rw [Row.read_ofPayment]
      rfl
    · rw [if_neg hj, if_neg hj]

/-- The payment is found under its invoice. -/
theorem Holds.get_self {l : Ledger} {t i : String} {p : Payment} (h : l.Holds t (some (i, p))) :
    l.get i t = .ok (some p) := by
  rw [h.get_eq i]
  show Except.ok (if i = i then some p else none) = _
  rw [if_pos rfl]

/-- Nothing is found under another invoice. -/
theorem Holds.get_of_ne {l : Ledger} {t i j : String} {p : Payment}
    (h : l.Holds t (some (i, p))) (hj : j ≠ i) : l.get j t = .ok none := by
  rw [h.get_eq j]
  show Except.ok (if j = i then some p else none) = _
  rw [if_neg hj]

/-- A payment that can be read is the one that is held. -/
theorem Holds.eq_some_of_get {l : Ledger} {t i : String} {p : Payment}
    {s : Option (String × Payment)} (h : l.Holds t s) (hg : l.get i t = .ok (some p)) :
    s = some (i, p) := by
  rw [h.get_eq i] at hg
  injection hg with hg
  obtain ⟨⟨k, q⟩, hs, hk⟩ := Option.bind_eq_some_iff.1 hg
  by_cases hi : i = k
  · simp only [hi, if_true, Option.some.injEq] at hk
    rw [hs, hi, hk]
  · simp only [hi, if_false] at hk
    exact absurd hk (by simp)

/-- An invoice has a row under an id exactly if its table of rows contains the id. -/
theorem contains_of_mem {l : Ledger} {i t : String} {rows : Table Row}
    (h : (i, rows) ∈ l.rows.entries) : rows.contains t = (l.row? i t).isSome := by
  unfold row? ofInvoice
  rw [Table.get?_eq_some_iff.2 h]
  rfl

/-- **The invoice that holds a payment id is found by the id alone.** -/
theorem Holds.invoiceOf?_eq {l : Ledger} {t : String} {s : Option (String × Payment)}
    (h : l.Holds t s) : l.invoiceOf? t = s.map (·.1) := by
  unfold invoiceOf?
  match s, h with
  | none, h =>
    have hnone : l.rows.entries.find? (fun e => e.2.contains t) = none := by
      rw [List.find?_eq_none]
      rintro ⟨i, rows⟩ hm
      rw [contains_of_mem hm, h i]
      simp
    rw [hnone]
    rfl
  | some (i, p), ⟨_, h⟩ =>
    cases hf : l.rows.entries.find? (fun e => e.2.contains t) with
    | none =>
      -- the row under `i` stands in some entry, which the search would have met
      have hrow : (l.row? i t).isSome = true := by rw [h i, if_pos rfl]; rfl
      cases hi : l.rows.get? i with
      | none => simp [row?, ofInvoice, hi] at hrow
      | some rows =>
        have hm := Table.get?_eq_some_iff.1 hi
        have := List.find?_eq_none.1 hf _ hm
        rw [contains_of_mem hm, hrow] at this
        exact absurd rfl this
    | some e =>
      obtain ⟨j, rows⟩ := e
      have hm := List.mem_of_find?_eq_some hf
      have hc := List.find?_some hf
      rw [contains_of_mem hm, h j] at hc
      by_cases hj : j = i
      · rw [hj]
        rfl
      · simp [hj] at hc

/-- A payment that is written under a free id, or under the invoice that holds
the id already, is what the id holds from then on. -/
theorem Holds.putRow {l : Ledger} {i : String} {p : Payment} {s : Option (String × Payment)}
    (h : l.Holds p.id s) (hs : ∀ e ∈ s, e.1 = i) :
    (l.putRow i p.id (.ofPayment p)).Holds p.id (some (i, p)) := by
  refine ⟨rfl, fun j => ?_⟩
  rw [row?_putRow]
  by_cases hj : j = i
  · simp [hj]
  · simp only [hj, false_and, if_false]
    match s, h with
    | none, h => exact h j
    | some (k, q), ⟨_, h⟩ =>
      have hk : k = i := hs (k, q) rfl
      rw [h j, if_neg (hk ▸ hj)]

/-- A write leaves all other payment ids alone. -/
theorem Holds.putRow_ne {l : Ledger} {i t u : String} {r : Row} {s : Option (String × Payment)}
    (h : l.Holds t s) (hu : t ≠ u) : (l.putRow i u r).Holds t s := by
  have hrow : ∀ j, (l.putRow i u r).row? j t = l.row? j t := by
    intro j
    rw [row?_putRow, if_neg (fun hc => hu hc.2)]
  match s, h with
  | none, h => exact fun j => (hrow j).trans (h j)
  | some (k, q), ⟨hq, h⟩ => exact ⟨hq, fun j => (hrow j).trans (h j)⟩

end Ledger

end SwapBridge
