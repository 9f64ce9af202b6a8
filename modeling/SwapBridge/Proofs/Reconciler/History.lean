/-
  SwapBridge.Proofs.Reconciler.History
  ────────────────────────────────────
  **A LEDGER TELLS THE HISTORY OF ITS EVENTS.**

  For one lockup transaction, most events of a run say nothing: they belong to
  another transaction, do not settle, have no address or an amount that cannot
  be expressed, or came before any invoice showed the address.  What is left
  is the `history` of the transaction, and the ledger holds exactly the payment
  that accounts for it, under the invoice that showed the address first.

    • `AccountsFor` — what a payment says about the events behind it,
    • `AccountsFor.merge` — a later event is accounted for by merging it in,
    • `held_of_history` — what the machine of a payment id holds after a run,
    • `ledger_tells_history` — the payments on the ledger after any run.
-/
import SwapBridge.Proofs.Reconciler.Run
import SwapBridge.Proofs.Sample

namespace SwapBridge

/-! ## §1. Statuses. -/

/-- The later of two states is "settled" if one of them is. -/
theorem Payment.Status.later_eq_settled {a b : Status} :
    a.later b = .settled ↔ a = .settled ∨ b = .settled := by
  cases a <;> cases b <;> decide

/-- A swap that succeeded or was refunded settles its payment, and no other does. -/
theorem Settlement.status_eq_settled {e : Swap.Event} {x : Settlement} (h : ofEvent? e = some x) :
    x.status = .settled ↔ e.state = .successful ∨ e.state = .refunded := by
  unfold ofEvent? at h
  cases hs : e.state <;> rw [hs] at h <;> simp only at h
  case pending => split at h <;> cases h; decide
  case error => split at h <;> cases h; decide
  case serverError => split at h <;> cases h; decide
  case abandoned => cases h
  all_goals
    injection h with h
    subst h
    decide

namespace Reconciler

variable {currency : Currency} {t : String}

/-! ## §2. The events behind a payment. -/

/-- What a payment says about the events behind it. -/
structure AccountsFor (currency : Currency) (t : String) (es : List Swap.Event) (p : Payment) :
    Prop where
  id_eq : p.id = t
  transaction_eq : p.details.transactionId = t
  currency_eq : p.currency = currency.code
  /-- Settled once any of the events settles. -/
  settled_iff : p.status = .settled ↔ ∃ e ∈ es, e.state = .successful ∨ e.state = .refunded
  /-- The refund that was named last. -/
  refund_eq : p.details.refundTransactionId = (es.filterMap (·.refundTx)).getLast?
  refundAddress_eq : p.details.refundAddress = (es.filterMap (·.refundAddress)).getLast?
  /-- Swap and amount of the last event. -/
  last_eq : ∃ e, es.getLast? = some e ∧ p.details.swapId = e.id
    ∧ Amount.ofSats e.amount currency.divisibility = .ok p.amount

/-- A first event is accounted for by the payment that it describes. -/
theorem AccountsFor.single {e : Swap.Event} {p : Payment} (h : paymentFor? currency t e = some p) :
    AccountsFor currency t [e] p := by
  obtain ⟨settlement, address, amount, hs, _, _, hm, rfl⟩ := paymentFor?_eq_some h
  refine ⟨rfl, rfl, rfl, ?_, ?_, ?_, e, rfl, rfl, hm⟩
  · show settlement.status = .settled ↔ _
    rw [Settlement.status_eq_settled hs]
    simp
  · show e.refundTx = _
    cases hr : e.refundTx <;> simp [hr]
  · show e.refundAddress = _
    cases hr : e.refundAddress <;> simp [hr]

/-- The last present value, when one more event comes. -/
theorem getLast?_filterMap_concat {α β : Type} (f : α → Option β) (xs : List α) (x : α) :
    ((xs ++ [x]).filterMap f).getLast? = (f x).or (xs.filterMap f).getLast? := by
  rw [List.filterMap_append, List.getLast?_append]
  cases hx : f x <;> simp [hx]

/-- A later event is accounted for by merging its payment in. -/
theorem AccountsFor.merge {es : List Swap.Event} {e : Swap.Event} {p q : Payment}
    (hq : AccountsFor currency t es q) (h : paymentFor? currency t e = some p) :
    AccountsFor currency t (es ++ [e]) (merge q p) := by
  have hp := AccountsFor.single h
  obtain ⟨settlement, address, amount, hs, _, _, hm, rfl⟩ := paymentFor?_eq_some h
  refine ⟨rfl, rfl, rfl, ?_, ?_, ?_, e, List.getLast?_concat, rfl, hm⟩
  · show q.status.later settlement.status = .settled ↔ _
    rw [Payment.Status.later_eq_settled, hq.settled_iff, Settlement.status_eq_settled hs]
    simp only [List.mem_append, List.mem_singleton, or_and_right, exists_or, exists_eq_left]
  · show e.refundTx.or q.details.refundTransactionId = _
    rw [getLast?_filterMap_concat, hq.refund_eq]
  · show e.refundAddress.or q.details.refundAddress = _
    rw [getLast?_filterMap_concat, hq.refundAddress_eq]

/-! ## §3. The history of a lockup transaction. -/

/-- Whether an event bears on a lockup transaction: it is about the
transaction, settles it or may come to settle it, has a lockup address, and
its amount can be expressed in the currency. -/
def bearsOn (currency : Currency) (t : String) (e : Swap.Event) : Bool :=
  e.lockupTx == some t && (Settlement.ofEvent? e).isSome && e.lockupAddress.isSome
    && (Amount.ofSats e.amount currency.divisibility).isOk

/-- A call bears on the transaction that its event bears on. -/
def Call.bearsOn (currency : Currency) (t : String) (c : Call) : Bool :=
  Reconciler.bearsOn currency t c.event

/-- The calls that bear on a lockup transaction, from the first one on whose
address the platform knew an invoice for at that moment. -/
def history (currency : Currency) (t : String) (cs : List Call) : List Call :=
  (cs.filter (Call.bearsOn currency t)).dropWhile fun c => c.shown?.isNone

theorem bearsOn_eq (e : Swap.Event) :
    bearsOn currency t e = (paymentFor? currency t e).isSome := by
  unfold bearsOn paymentFor?
  cases Settlement.ofEvent? e with
  | none => simp
  | some settlement =>
    cases e.lockupAddress with
    | none => simp
    | some address =>
      cases Amount.ofSats e.amount currency.divisibility with
      | error a => simp [Except.isOk, Except.toBool]
      | ok amount =>
        by_cases ht : e.lockupTx = some t
        · simp [ht, Except.isOk, Except.toBool]
        · simp [ht]

/-- An event that bears on a lockup is one that pays for it. -/
theorem paymentFor?_of_bearsOn {c : Call} (h : c.bearsOn currency t = true) :
    ∃ p, paymentFor? currency t c.event = some p := by
  unfold Call.bearsOn at h
  rwa [bearsOn_eq, Option.isSome_iff_exists] at h

/-- All other events leave the record of the lockup as it is. -/
theorem follow_of_not_bearsOn {c : Call} {s : Option (String × Payment)}
    (h : c.bearsOn currency t = false) : c.follow currency t s = s := by
  unfold Call.bearsOn at h
  rw [bearsOn_eq, Option.isSome_eq_false_iff, Option.isNone_iff_eq_none] at h
  exact follow_of_none _ h

/-- Once a payment is held, every event that bears on it is merged in. -/
theorem held_of_accounted (cs : List Call) (i : String) {done : List Swap.Event} {q : Payment}
    (hq : AccountsFor currency t done q) :
    ∃ p, cs.foldl (Call.follow currency t) (some (i, q)) = some (i, p)
      ∧ AccountsFor currency t
        (done ++ (cs.filter (Call.bearsOn currency t)).map (·.event)) p := by
  -- once a record is held, events that bear on `t` are merged and all others pass by
  induction cs generalizing done q with
  | nil => exact ⟨q, rfl, by simpa using hq⟩
  | cons c cs ih =>
    rw [List.foldl_cons]
    cases hb : c.bearsOn currency t with
    | false =>
      rw [follow_of_not_bearsOn hb, List.filter_cons_of_neg (by simp [hb])]
      exact ih hq
    | true =>
      obtain ⟨p, hp⟩ := paymentFor?_of_bearsOn hb
      obtain ⟨r, hr, hacc⟩ := ih (hq.merge hp)
      refine ⟨r, by rw [Call.follow_held hp]; exact hr, ?_⟩
      rw [List.filter_cons_of_pos hb]
      simpa using hacc

/-- **What a payment id holds after a run**: nothing without a history, and
otherwise the payment that accounts for the history, under the invoice that
showed the address of its first event. -/
theorem held_of_history (currency : Currency) (t : String) (cs : List Call) :
    (history currency t cs = [] → cs.foldl (Call.follow currency t) none = none)
    ∧ ∀ first rest, history currency t cs = first :: rest →
      ∃ i p, first.shown? = some i ∧ cs.foldl (Call.follow currency t) none = some (i, p)
        ∧ AccountsFor currency t ((first :: rest).map (·.event)) p := by
  -- until an event is resolved nothing is held, and the history has not begun
  induction cs with
  | nil => exact ⟨fun _ => rfl, fun _ _ h => absurd h (by simp [history])⟩
  | cons c cs ih =>
    rw [List.foldl_cons]
    cases hb : c.bearsOn currency t with
    | false =>
      have hh : history currency t (c :: cs) = history currency t cs := by
        unfold history
        rw [List.filter_cons_of_neg (by simp [hb])]
      rw [follow_of_not_bearsOn hb, hh]
      exact ih
    | true =>
      obtain ⟨p, hp⟩ := paymentFor?_of_bearsOn hb
      have hstep := Call.follow_free hp
      cases hi : c.shown? with
      | none =>
        have hh : history currency t (c :: cs) = history currency t cs := by
          unfold history
          rw [List.filter_cons_of_pos hb, List.dropWhile_cons_of_pos (by simp [hi])]
        rw [hstep, hi, hh]
        exact ih
      | some i =>
        have hh : history currency t (c :: cs)
            = c :: cs.filter (Call.bearsOn currency t) := by
          unfold history
          rw [List.filter_cons_of_pos hb, List.dropWhile_cons_of_neg (by simp [hi])]
        rw [hstep, hi, hh]
        refine ⟨fun h => absurd h (by simp), fun first rest h => ?_⟩
        injection h with hfirst hrest
        subst hfirst hrest
        -- the history begins here; from now on the record is held
        obtain ⟨r, hr, hacc⟩ := held_of_accounted cs i (AccountsFor.single hp)
        exact ⟨i, r, hi, hr, by simpa using hacc⟩

/-! ## §4. The ledger after a run. -/

/-- **THE LEDGER TELLS THE HISTORY**: after any run from an empty ledger, with
the prompts changing in any way between the calls, a transaction without a
history is on record nowhere.  Any other is on record once, under the invoice
that showed the address of the first event of its history, and the payment
accounts for the whole history.  Where the platform says whose address it is
asked for, a call of the run fails only at an amount that the currency cannot
express, or at a refused notification. -/
theorem ledger_tells_history (currency : Currency) (cs : List Call) (w : World)
    (hw : w.store.ledger = .empty) :
    (∀ t, history currency t cs = [] → ∀ i, (ledgerAfter currency cs w).get i t = .ok none)
    ∧ (∀ t first rest, history currency t cs = first :: rest →
      ∃ i p, first.shown? = some i
        ∧ (ledgerAfter currency cs w).get i t = .ok (some p)
        ∧ (∀ j, j ≠ i → (ledgerAfter currency cs w).get j t = .ok none)
        ∧ AccountsFor currency t ((first :: rest).map (·.event)) p)
    ∧ ((∀ c ∈ cs, c.Answered) →
      List.Forall₂ (Call.EndsAs currency) cs (run currency cs w).1) := by
  refine ⟨fun t hnil i => ?_, fun t first rest hcons => ?_, fun hcs => ?_⟩
  · have hl := holds_run_empty currency cs hw t
    rw [(held_of_history currency t cs).1 hnil] at hl
    rw [hl.get_eq i]
    rfl
  -- what the ledger holds for `t` is what following the calls alone comes to
  · have hl := holds_run_empty currency cs hw t
    obtain ⟨i, p, hi, hheld, hacc⟩ := (held_of_history currency t cs).2 first rest hcons
    rw [hheld] at hl
    exact ⟨i, p, hi, hl.get_self, fun j hj => hl.get_of_ne hj, hacc⟩
  · exact run_results currency hcs (holds_of_empty hw)

/-- A prompt that moves on after the lockup was seen; the refund and a late
sighting with another amount still reach the invoice. -/
def movingPrompt : List Call :=
  [{ event := Sample.lockup "swap-1" "A" "tx-1"
     invoices := Sample.invoices [Sample.invoice "inv" "A"] },
   { event := { Sample.lockup "swap-1" "A" "tx-1" with
       state := .refunded, refundTx := some "back" }
     invoices := Sample.invoices [Sample.invoice "inv" "B"] },
   { event := { Sample.lockup "swap-1" "A" "tx-1" with amount := 20000 }
     invoices := Sample.invoices [Sample.invoice "other" "A", Sample.invoice "inv" "B"] }]

theorem movingPrompt_tells_history :
    Sample.world.store.ledger = .empty ∧ (∀ c ∈ movingPrompt, c.Answered)
    ∧ history .bitcoin "tx-1" movingPrompt = movingPrompt
    ∧ (∃ p, (ledgerAfter .bitcoin movingPrompt Sample.world).get "inv" "tx-1" = .ok (some p)
      ∧ p.status = .settled ∧ p.details.refundTransactionId = some "back"
      ∧ p.amount.minorUnits = 20000)
    ∧ (ledgerAfter .bitcoin movingPrompt Sample.world).get "other" "tx-1" = .ok none := by
  have hcs : ∀ c ∈ movingPrompt, c.Answered := by decide
  have hh : history .bitcoin "tx-1" movingPrompt = movingPrompt := rfl
  obtain ⟨i, p, hi, hp, hothers, hacc⟩ :=
    (ledger_tells_history .bitcoin movingPrompt Sample.world rfl).2.1 "tx-1" _ _ hh
  have hinv : i = "inv" := (Option.some.inj hi).symm
  obtain ⟨e, he, _, hm⟩ := hacc.last_eq
  refine ⟨rfl, hcs, hh, ⟨p, hinv ▸ hp, ?_, hacc.refund_eq, ?_⟩, hothers _ (by rw [hinv]; decide)⟩
  · exact hacc.settled_iff.2 ⟨_, List.mem_cons_of_mem _ List.mem_cons_self, .inr rfl⟩
  · injection he with he
    subst he
    injection hm with hm
    rw [← hm]
    rfl

end Reconciler

end SwapBridge
