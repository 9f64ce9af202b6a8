/-
  SwapBridge.Proofs.CatchUp
  ─────────────────────────
  **PAYMENTS AFTER A CATCH-UP.**

  The ledger remembers under which invoice a lockup was paid, also when the
  prompt of the invoice has moved on.  The catch-up goes by the addresses that
  the prompts show now.  So it settles a payment whose swap is over only while
  some open invoice still shows the address of the swap.

    • `Reached` — the worlds that events lead to,
    • `settled_of_held` — a held payment is settled by the events that settle,
    • `settled_after_catchUp_iff` — the payments that a catch-up settles.
-/
import SwapBridge.Proofs.PartialPayment
import SwapBridge.Proofs.Poll
import SwapBridge.Proofs.Reconciler.History

namespace SwapBridge

open Reconciler

variable {currency : Currency} {w w' : World}

/-! ## §1. Ledgers that events lead to. -/

/-- The worlds that swap events and invoice events lead to from an empty
ledger, while anything but the ledger may change in between. -/
inductive Reached (currency : Currency) : World → Prop where
  | start {w : World} : w.store.ledger = .empty → Reached currency w
  | swapEvent {w : World} (e : Swap.Event) : Reached currency w →
      Reached currency (handle currency e w).2
  | invoiceEvent {w : World} (p : PartialPayment.Provisioner) (e : Invoice.Event) :
      Reached currency w → Reached currency (PartialPayment.handle p e w).2
  | elsewhere {w w' : World} : Reached currency w → w'.store.ledger = w.store.ledger →
      Reached currency w'

/-- **Events keep each payment id under one invoice at most**: `Holds` along everything that
leads to a world that is `Reached`. -/
theorem Reached.holds (h : Reached currency w) :
    ∃ held : String → Option (String × Payment), ∀ t, w.store.ledger.Holds t (held t) := by
  induction h with
  | start hw => exact ⟨fun _ => none, holds_of_empty hw⟩
  | swapEvent e _ ih =>
    obtain ⟨held, h⟩ := ih
    exact ⟨_, holds_handle currency h⟩
  | invoiceEvent p e _ ih =>
    rw [PartialPayment.handle_store]
    exact ih
  | elsewhere _ hw ih =>
    rw [hw]
    exact ih

/-! ## §2. Settling. -/

/-- An event settles a lockup transaction: it bears on it and the swap succeeded
or was refunded. -/
def Settles (currency : Currency) (t : String) (e : Swap.Event) : Prop :=
  bearsOn currency t e = true ∧ (e.state = .successful ∨ e.state = .refunded)

/-- One event that is merged into a payment: the result is settled if the payment was, or
the event `Settles` its lockup. -/
theorem merge_settled_iff {t : String} {e : Swap.Event} {p q : Payment}
    (h : paymentFor? currency t e = some q) :
    (merge p q).status = .settled ↔ p.status = .settled ∨ Settles currency t e := by
  obtain ⟨settlement, _, _, hs, _, _, _, rfl⟩ := paymentFor?_eq_some h
  have hb : bearsOn currency t e = true := by
    rw [bearsOn_eq, h]
    rfl
  show p.status.later settlement.status = .settled ↔ _
  rw [Payment.Status.later_eq_settled, Settlement.status_eq_settled hs]
  unfold Settles
  simp only [hb, true_and]

/-- **A payment that is held stays with its invoice, and is settled by exactly the calls
whose events settle it**: `Call.follow` never moves a record, and `merge` never takes a
settlement back. -/
theorem settled_of_held (currency : Currency) (cs : List Call) (t i : String) (p : Payment) :
    ∃ q, cs.foldl (Call.follow currency t) (some (i, p)) = some (i, q)
      ∧ (q.status = .settled ↔ p.status = .settled ∨ ∃ c ∈ cs, Settles currency t c.event) := by
  -- a merge settles by one of its two sides, and whatever does not bear on `t` settles nothing
  induction cs generalizing p with
  | nil => exact ⟨p, rfl, by simp⟩
  | cons c cs ih =>
    rw [List.foldl_cons]
    cases hb : c.bearsOn currency t with
    | false =>
      obtain ⟨q, hq, hiff⟩ := ih p
      rw [follow_of_not_bearsOn hb]
      refine ⟨q, hq, hiff.trans (or_congr_right ?_)⟩
      have hnot : ¬ Settles currency t c.event := fun hs => by
        have := hs.1.symm.trans hb
        cases this
      simp only [List.mem_cons, exists_eq_or_imp, hnot, false_or]
    | true =>
      obtain ⟨r, hr⟩ := paymentFor?_of_bearsOn hb
      obtain ⟨q, hq, hiff⟩ := ih (merge p r)
      rw [Call.follow_held hr]
      refine ⟨q, hq, hiff.trans ?_⟩
      rw [merge_settled_iff hr]
      simp only [List.mem_cons, exists_eq_or_imp, or_assoc]

/-! ## §3. The catch-up. -/

/-- **THE PAYMENTS THAT A CATCH-UP SETTLES**: once all that it published was
handled, a payment on record is settled exactly if it was settled before or a
store's listing reports a settling swap for it whose lockup address a monitored
invoice still shows. -/
theorem settled_after_catchUp_iff (currency : Currency) {w w' : World} {events : List Swap.Event}
    {calls : List Call} {i t : String} {p : Payment} (hw : Reached currency w)
    (hmonitored : w.platform.permit .monitoredInvoices = .ok ())
    (hpoll : Poll.run true w = (.ok events, w')) (hcalls : calls.map (·.event) = events)
    (hp : w.store.ledger.get i t = .ok (some p)) :
    ∃ q, (ledgerAfter currency calls w').get i t = .ok (some q)
      ∧ (q.status = .settled ↔ p.status = .settled
        ∨ ∃ e, Poll.Reports w e ∧ Settles currency t e
          ∧ ∃ address, e.lockupAddress = some address ∧ w.platform.Monitors address) := by
  -- the poll leaves the ledger, so the calls after it start from the record `p`
  obtain ⟨held, hheld⟩ := hw.holds
  have hstore : w'.store = w.store := by
    have := Poll.run_store true w
    rwa [hpoll] at this
  obtain ⟨q, hq, hiff⟩ := settled_of_held currency calls t i p
  have hafter : (ledgerAfter currency calls w').Holds t (some (i, q)) := by
    have := holds_run currency calls (hstore ▸ hheld) t
    rwa [(hheld t).eq_some_of_get hp, hq] at this
  refine ⟨q, hafter.get_self, hiff.trans (or_congr_right ?_)⟩
  have hmem := Poll.mem_run hmonitored hpoll
  constructor
  · rintro ⟨c, hc, hs⟩
    obtain ⟨hreport, hpending | hshown⟩ :=
      (hmem c.event).1 (hcalls ▸ List.mem_map_of_mem hc)
    · -- a pending swap settles nothing
      rcases hs.2 with h | h <;> exact absurd (hpending.symm.trans h) (by simp)
    · exact ⟨c.event, hreport, hs, hshown⟩
  · rintro ⟨e, hreport, hs, hshown⟩
    have he := (hmem e).2 ⟨hreport, .inr hshown⟩
    rw [← hcalls] at he
    obtain ⟨c, hc, rfl⟩ := List.mem_map.1 he
    exact ⟨c, hc, hs⟩

/-! ## §4. A prompt that stays, and one that moves on. -/

/-- The bridge after the lockup of an invoice was seen. -/
def lockupSeen : World :=
  (handle .bitcoin (Sample.lockup "swap-1" "A" "tx-1") (Sample.shop PartialPayment.partlyPaid)).2

/-- The bridge after the invoice was given another address for the rest. -/
def movedOn : World :=
  (PartialPayment.handle (.fixed "B") (.dataChanged "inv" .new .paidPartial) lockupSeen).2

/-- The first swap comes to its end while nobody listens. -/
def claimedUnheard (w : World) : World :=
  { w with daemon := { w.daemon with swaps := { chain := [Sample.claimed] } } }

/-- A claim that nobody hears of changes the daemon alone, so that what was reached still
is. -/
theorem Reached.claimedUnheard (h : Reached currency w) : Reached currency (claimedUnheard w) :=
  .elsewhere h rfl

theorem allSettings_claimedUnheard {r : Except Store.Fault (List (String × Settings))}
    (h : w.store.allSettings = r) : (claimedUnheard w).store.allSettings = r := h

/-- The payment of the first swap. -/
def firstPayment : Payment where
  id := "tx-1"
  status := .processing
  amount := ⟨10000, 8, Sample.lockup_amount_lt, Sample.satDecimals_le⟩
  currency := "BTC"
  details := ⟨"swap-1", "tx-1", none, none⟩

theorem allSettings_lockupSeen :
    lockupSeen.store.allSettings = .ok [("shop", Sample.settings)] := by
  unfold Store.allSettings lockupSeen
  rw [handle_settings]
  exact Sample.allSettings_store

theorem allSettings_movedOn : movedOn.store.allSettings = .ok [("shop", Sample.settings)] := by
  unfold movedOn
  rw [PartialPayment.handle_store]
  exact allSettings_lockupSeen

theorem reached_lockupSeen : Reached .bitcoin lockupSeen := .swapEvent _ (.start rfl)

/-- The world in which the prompt has moved on can be reached: the lockup was seen and the
invoice was paid in part. -/
theorem reached_movedOn : Reached .bitcoin movedOn := .invoiceEvent _ _ reached_lockupSeen

theorem settled_after_catchUp_lockupSeen :
    Reached .bitcoin (claimedUnheard lockupSeen)
    ∧ (claimedUnheard lockupSeen).platform.permit .monitoredInvoices = .ok ()
    ∧ ∃ w', Poll.run true (claimedUnheard lockupSeen)
        = (.ok ([{ event := .ofChain Sample.claimed }].map Call.event), w')
      ∧ (claimedUnheard lockupSeen).store.ledger.get "inv" "tx-1" = .ok (some firstPayment)
      ∧ ∃ q, (ledgerAfter .bitcoin [{ event := .ofChain Sample.claimed }] w').get "inv" "tx-1"
          = .ok (some q) ∧ q.status = .settled := by
  have hw : Reached .bitcoin (claimedUnheard lockupSeen) :=
    reached_lockupSeen.claimedUnheard
  have hsettings : (claimedUnheard lockupSeen).store.allSettings
      = .ok [("shop", Sample.settings)] := allSettings_claimedUnheard allSettings_lockupSeen
  have hget : (claimedUnheard lockupSeen).store.ledger.get "inv" "tx-1"
      = .ok (some firstPayment) := by decide +kernel
  -- the prompt still shows the address of the swap, so its claim is found
  have hevents : (Poll.ofStores (Poll.openDestinations (claimedUnheard lockupSeen).platform)
      [("shop", Sample.settings)] (claimedUnheard lockupSeen)).1
        = [{ event := .ofChain Sample.claimed }].map Call.event := by decide +kernel
  have hpoll := Poll.run_of_settings true hsettings
  rw [if_pos rfl, hevents] at hpoll
  obtain ⟨q, hq, hiff⟩ := settled_after_catchUp_iff .bitcoin hw rfl hpoll rfl hget
  refine ⟨hw, rfl, _, hpoll, hget, q, hq, hiff.2 (.inr ⟨.ofChain Sample.claimed, ?_, ?_, ?_⟩)⟩
  · exact ⟨_, "shop", { chain := [Sample.claimed] }, hsettings, by decide +kernel,
      List.mem_cons_self⟩
  · exact ⟨by decide +kernel, .inl rfl⟩
  · exact ⟨"A", rfl, "inv", PartialPayment.partlyPaid, by decide +kernel, rfl, rfl, rfl⟩

/-- Once the prompt has moved on, the catch-up takes nothing up, and the payment
of an invoice that is still monitored is left unsettled, though the listing of
its store reports the swap as successful. -/
theorem not_settled_movedOn :
    Reached .bitcoin (claimedUnheard movedOn)
    ∧ ((claimedUnheard movedOn).platform.monitoredInvoices boltzMethod).map (·.map (·.id))
      = .ok ["inv"]
    ∧ Poll.Reports (claimedUnheard movedOn) (.ofChain Sample.claimed)
    ∧ Settles .bitcoin "tx-1" (.ofChain Sample.claimed)
    ∧ ∀ events w' calls, Poll.run true (claimedUnheard movedOn) = (.ok events, w') →
        calls.map Call.event = events →
        (ledgerAfter .bitcoin calls w').get "inv" "tx-1" = .ok (some firstPayment)
          ∧ firstPayment.status ≠ .settled := by
  have hsettings : (claimedUnheard movedOn).store.allSettings
      = .ok [("shop", Sample.settings)] := allSettings_claimedUnheard allSettings_movedOn
  -- the prompt shows another address by now, so nothing that the poll finds is wanted
  have hpoll : (Poll.run true (claimedUnheard movedOn)).1 = .ok [] := by
    rw [Poll.run_of_settings true hsettings]
    decide +kernel
  have hget : (claimedUnheard movedOn).store.ledger.get "inv" "tx-1"
      = .ok (some firstPayment) := by decide +kernel
  refine ⟨reached_movedOn.claimedUnheard, by decide +kernel,
    ⟨_, "shop", { chain := [Sample.claimed] }, hsettings, by decide +kernel, List.mem_cons_self⟩,
    ⟨by decide +kernel, .inl rfl⟩, ?_⟩
  intro events w' calls hrun hcalls
  have hstore := Poll.run_store true (claimedUnheard movedOn)
  rw [hrun] at hpoll hstore
  have hnone : calls = [] := by
    rw [Except.ok.inj hpoll] at hcalls
    exact List.map_eq_nil_iff.1 hcalls
  refine ⟨?_, by decide⟩
  rw [hnone]
  show w'.store.ledger.get "inv" "tx-1" = _
  rw [hstore]
  exact hget

end SwapBridge
