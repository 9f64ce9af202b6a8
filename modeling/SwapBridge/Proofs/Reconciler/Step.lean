/-
  SwapBridge.Proofs.Reconciler.Step
  ─────────────────────────────────
  **ONE EVENT AND ONE PAYMENT ID.**

  An event bears on one payment id at most, that of its lockup transaction.
  Seen from a payment id the reconciler is a small machine: `follow` says what
  the id holds after an event, given what it held before and which invoice
  shows the address of the event at that moment.

    • `handle_of_free`, `handle_of_held` — a call, by what the payment id holds,
    • `handle_cases` — the three things that handling an event can do,
    • `holds_handle` — the ledger follows `follow`, for every payment id,
    • `handle_result` — how a call can end.
-/
import SwapBridge.Proofs.Ledger
import SwapBridge.Reconciler

namespace SwapBridge

/-- The world after a payment was written under an invoice. -/
def World.withPayment (w : World) (i : String) (p : Payment) : World :=
  { w with store := { w.store with ledger := w.store.ledger.putRow i p.id (.ofPayment p) } }

namespace Reconciler

variable {currency : Currency} {t : String} {e : Swap.Event} {w : World}
  {s : Option (String × Payment)}

/-! ## §1. What an event says about a payment id. -/

/-- The payment that an event describes, if it bears on the payment id: it
settles or may come to settle the lockup, has a lockup address, and its amount
can be written in the currency. -/
def paymentFor? (currency : Currency) (t : String) (e : Swap.Event) : Option Payment :=
  match Settlement.ofEvent? e, e.lockupAddress, Amount.ofSats e.amount currency.divisibility with
  | some settlement, some _, .ok amount =>
    if e.lockupTx = some t then some (paymentOf e settlement t amount currency) else none
  | _, _, _ => none

/-- The invoice whose prompt shows the lockup address of an event. -/
def shown? (p : Platform) (e : Swap.Event) : Option String :=
  e.lockupAddress.bind fun address =>
    match p.invoiceForAddress boltzMethod address with
    | .ok invoice => invoice.map (·.id)
    | .error _ => none

/-- What a payment id holds after an event. -/
def follow (currency : Currency) (p : Platform) (t : String) (e : Swap.Event)
    (s : Option (String × Payment)) : Option (String × Payment) :=
  match paymentFor? currency t e, s with
  | none, s => s
  | some incoming, none => (shown? p e).map (·, incoming)
  | some incoming, some (i, existing) => some (i, merge existing incoming)

/-- What `paymentFor?` finds says everything of the event that it was made from. -/
theorem paymentFor?_eq_some {p : Payment} (h : paymentFor? currency t e = some p) :
    ∃ settlement address amount, Settlement.ofEvent? e = some settlement
      ∧ e.lockupAddress = some address ∧ e.lockupTx = some t
      ∧ Amount.ofSats e.amount currency.divisibility = .ok amount
      ∧ p = paymentOf e settlement t amount currency := by
  unfold paymentFor? at h
  split at h
  · rename_i settlement address amount hs ha hm
    split at h
    · rename_i ht
      injection h with h
      exact ⟨settlement, address, amount, hs, ha, ht, hm, h.symm⟩
    · exact absurd h (by simp)
  · exact absurd h (by simp)

/-- The payment that a settled lockup with an expressible amount describes. -/
theorem paymentFor?_of_settled {settlement : Settlement} {address : String} {amount : Amount}
    (hs : Settlement.ofEvent? e = some settlement) (ht : e.lockupTx = some t)
    (ha : e.lockupAddress = some address)
    (hm : Amount.ofSats e.amount currency.divisibility = .ok amount) :
    paymentFor? currency t e = some (paymentOf e settlement t amount currency) := by
  unfold paymentFor?
  rw [hs, ha, hm]
  show (if e.lockupTx = some t then _ else _) = _
  rw [if_pos ht]

/-- An amount that the currency cannot express describes no payment. -/
theorem paymentFor?_of_inexact {a : AmountError}
    (hm : Amount.ofSats e.amount currency.divisibility = .error a) :
    paymentFor? currency t e = none := by
  unfold paymentFor?
  rw [hm]
  cases Settlement.ofEvent? e <;> cases e.lockupAddress <;> rfl

/-- An event describes a payment for its own lockup transaction alone. -/
theorem lockupTx_of_paymentFor? {p : Payment} (h : paymentFor? currency t e = some p) :
    e.lockupTx = some t := by
  obtain ⟨_, _, _, _, _, ht, _, _⟩ := paymentFor?_eq_some h
  exact ht

/-- The payment has the lockup transaction for its id. -/
theorem id_of_paymentFor? {p : Payment} (h : paymentFor? currency t e = some p) : p.id = t := by
  obtain ⟨_, _, _, _, _, _, _, hp⟩ := paymentFor?_eq_some h
  rw [hp]
  rfl

/-- An event with another lockup transaction, or with none, pays for something else. -/
theorem paymentFor?_eq_none (h : e.lockupTx ≠ some t) : paymentFor? currency t e = none := by
  cases hp : paymentFor? currency t e with
  | none => rfl
  | some p => exact absurd (lockupTx_of_paymentFor? hp) h

/-- An event that does not pay for a lockup leaves what is known of it. -/
theorem follow_of_none (p : Platform) (h : paymentFor? currency t e = none) :
    follow currency p t e s = s := by
  unfold follow
  rw [h]

/-- An event leaves all payment ids alone but that of its lockup transaction. -/
theorem follow_of_ne (p : Platform) (h : e.lockupTx ≠ some t) :
    follow currency p t e s = s :=
  follow_of_none p (paymentFor?_eq_none h)

/-! ## §2. The parts of a call. -/

/-- `announce` writes nothing into the store. -/
theorem announce_store (n : Platform.Notification) (o : Outcome) (w : World) :
    (announce n o w).2.store = w.store := by
  unfold announce
  split <;> rfl

/-- An announcement ends well unless the platform takes no notifications. -/
theorem announce_result (n : Platform.Notification) (o : Outcome) (w : World) :
    (announce n o w).1 = .ok o
      ∨ ∃ f, w.platform.permit .notify = .error f ∧ (announce n o w).1 = .error (.notify f) := by
  unfold announce Platform.notify
  cases w.platform.permit .notify with
  | ok u => exact .inl rfl
  | error f => exact .inr ⟨f, rfl, rfl⟩

/-- What a call may change: the ledger and what the platform was told. -/
def Frames (w w' : World) : Prop :=
  ∃ ledger notifications, w' = { w with
    store := { w.store with ledger }
    platform := { w.platform with notifications } }

theorem Frames.refl (w : World) : Frames w w :=
  ⟨w.store.ledger, w.platform.notifications, rfl⟩

/-- It changes the notifications at most. -/
theorem frames_announce (n : Platform.Notification) (o : Outcome) (w : World) (ledger : Ledger) :
    Frames w (announce n o { w with store := { w.store with ledger } }).2 := by
  have hpermit : { w with store := { w.store with ledger } }.platform.permit .notify
    = w.platform.permit .notify := rfl
  unfold announce Platform.notify
  rw [hpermit]
  cases w.platform.permit .notify with
  | ok u => exact ⟨ledger, w.platform.notifications ++ [n], rfl⟩
  | error f => exact ⟨ledger, w.platform.notifications, rfl⟩

/-- `revise` changes the ledger and the notifications at most. -/
theorem frames_revise (i : String) (p : Payment) (w : World) : Frames w (revise i p w).2 := by
  unfold revise
  cases w.store.payment i p.id with
  | error fault => exact .refl w
  | ok found =>
    cases found with
    | none => exact .refl w
    | some existing =>
      dsimp only [Store.updatePayment]
      cases w.store.ledger.update i (merge existing p) with
      | mk written ledger =>
        cases written with
        | false => exact .refl w
        | true => exact frames_announce _ _ w ledger

/-- So does `record`, which revises or inserts. -/
theorem frames_record (i : String) (p : Payment) (w : World) : Frames w (record i p w).2 := by
  unfold record
  dsimp only [Store.insertPayment]
  cases w.store.ledger.insert i p with
  | mk fresh ledger =>
    cases fresh with
    | false => exact frames_revise i p w
    | true => exact frames_announce _ _ w ledger

/-- The first sighting of a lockup is written as it is and announced. -/
theorem record_of_free {i : String} {p : Payment} (h : w.store.ledger.Holds p.id none) :
    record i p w
      = announce (.paymentReceived i p.id) (.created p) (w.withPayment i p) := by
  have hins : w.store.insertPayment i p
      = (true, { w.store with ledger := w.store.ledger.putRow i p.id (.ofPayment p) }) := by
    unfold Store.insertPayment Ledger.insert
    rw [h i]
    rfl
  unfold record
  rw [hins]
  rfl

/-- A lockup that is on record is merged with what was known and the platform
is asked for a look. -/
theorem record_of_held {i : String} {p q : Payment}
    (h : w.store.ledger.Holds p.id (some (i, q))) :
    record i p w
      = announce (.needsUpdate i) (.updated (merge q p)) (w.withPayment i (merge q p)) := by
  have hrow : (w.store.ledger.row? i p.id).isSome = true := by
    rw [h.2 i, if_pos rfl]
    rfl
  have hins : w.store.insertPayment i p = (false, w.store) := by
    unfold Store.insertPayment Ledger.insert
    rw [if_pos hrow]
  have hget : w.store.payment i p.id = .ok (some q) := by
    unfold Store.payment
    rw [h.get_self]
    rfl
  have hupd : w.store.updatePayment i (merge q p)
      = .ok { w.store with
          ledger := w.store.ledger.putRow i p.id (.ofPayment (merge q p)) } := by
    unfold Store.updatePayment Ledger.update
    rw [show (merge q p).id = p.id from rfl, if_pos hrow]
  unfold record
  rw [hins]
  show revise i p w = _
  unfold revise
  simp only [hget, hupd]
  rfl

/-- A lockup on record stays with its invoice, whatever the platform says. -/
theorem invoiceOf_of_held {i address : String} {q : Payment}
    (h : w.store.ledger.Holds t (some (i, q))) : invoiceOf t address w = .ok (some i) := by
  unfold invoiceOf
  rw [h.invoiceOf?_eq]
  rfl

/-- A new lockup belongs to the invoice that shows its address. -/
theorem invoiceOf_of_free {address : String} (h : w.store.ledger.Holds t none)
    (ha : e.lockupAddress = some address) :
    invoiceOf t address w
      = ((w.platform.permit .invoiceForAddress).mapError .lookup).map
          fun _ => shown? w.platform e := by
  unfold invoiceOf shown? Platform.invoiceForAddress
  rw [h.invoiceOf?_eq, ha]
  cases w.platform.permit .invoiceForAddress <;> rfl

/-- A platform that cannot be asked shows no invoice. -/
theorem shown?_of_refused {f : Platform.Fault}
    (h : w.platform.permit .invoiceForAddress = .error f) : shown? w.platform e = none := by
  unfold shown? Platform.invoiceForAddress
  rw [h]
  cases e.lockupAddress <;> rfl

/-! ## §3. A call. -/

/-- An event without a settlement or without a lockup says nothing. -/
theorem handle_of_unsettled (currency : Currency)
    (h : Settlement.ofEvent? e = none ∨ e.lockupTx = none ∨ e.lockupAddress = none) :
    handle currency e w = (.ok .ignored, w) := by
  unfold handle
  split
  · rename_i hs ht ha
    rcases h with h | h | h
    · exact absurd (h.symm.trans hs) (by simp)
    · exact absurd (h.symm.trans ht) (by simp)
    · exact absurd (h.symm.trans ha) (by simp)
  · rfl

/-- An event with a settlement and a lockup goes to the invoice that has it. -/
theorem handle_of_settled (currency : Currency) {settlement : Settlement} {address : String}
    (hs : Settlement.ofEvent? e = some settlement) (ht : e.lockupTx = some t)
    (ha : e.lockupAddress = some address) :
    handle currency e w =
      match invoiceOf t address w with
      | .error f => (.error f, w)
      | .ok none => (.ok .ignored, w)
      | .ok (some i) =>
        match Amount.ofSats e.amount currency.divisibility with
        | .error a => (.error (.amount a), w)
        | .ok amount => record i (paymentOf e settlement t amount currency) w := by
  unfold handle
  cases hi : invoiceOf t address w with
  | error f => simp only [hs, ht, ha, hi]
  | ok found =>
    cases found with
    | none => simp only [hs, ht, ha, hi]
    | some i => cases Amount.ofSats e.amount currency.divisibility <;>
        simp only [hs, ht, ha, hi]

/-- **An event changes the ledger and what the platform was told**, and nothing else. -/
theorem frames_handle (currency : Currency) (e : Swap.Event) (w : World) :
    Frames w (handle currency e w).2 := by
  unfold handle
  split
  · split
    · exact .refl w
    · exact .refl w
    · split
      · exact .refl w
      · exact frames_record _ _ w
  · exact .refl w

/-- **No event changes any settings.** -/
theorem handle_settings (currency : Currency) (e : Swap.Event) (w : World) :
    (handle currency e w).2.store.settings = w.store.settings := by
  obtain ⟨ledger, notifications, h⟩ := frames_handle currency e w
  rw [h]

/-- How a call can end that changes nothing. -/
def EndsWithoutEffect (currency : Currency) (e : Swap.Event) (w : World)
    (r : Except Failure Outcome) : Prop :=
  r = .ok .ignored
  ∨ (∃ a, Amount.ofSats e.amount currency.divisibility = .error a ∧ r = .error (.amount a))
  ∨ ∃ f, w.platform.permit .invoiceForAddress = .error f ∧ r = .error (.lookup f)

/-- A call that changes nothing, where the payment id of its event has nothing
to follow. -/
def HasNoEffect (currency : Currency) (e : Swap.Event) (w : World)
    (s : Option (String × Payment)) : Prop :=
  (handle currency e w).2 = w
  ∧ (∀ t, e.lockupTx = some t → follow currency w.platform t e s = s)
  ∧ EndsWithoutEffect currency e w (handle currency e w).1

/-- An event without a settlement or without a lockup has no effect. -/
theorem hasNoEffect_of_unsettled (currency : Currency)
    (h : Settlement.ofEvent? e = none ∨ e.lockupTx = none ∨ e.lockupAddress = none) :
    HasNoEffect currency e w s := by
  unfold HasNoEffect
  rw [handle_of_unsettled currency h]
  refine ⟨rfl, fun t _ => follow_of_none _ ?_, .inl rfl⟩
  cases hf : paymentFor? currency t e with
  | none => rfl
  | some p =>
    obtain ⟨_, _, _, hs, ha, ht, _, _⟩ := paymentFor?_eq_some hf
    rw [hs, ha, ht] at h
    exact absurd h (by simp)

/-- An amount that the currency cannot express ends a call without effect. -/
theorem hasNoEffect_of_inexact {a : AmountError}
    (hm : Amount.ofSats e.amount currency.divisibility = .error a)
    (h : handle currency e w = (.error (.amount a), w)) : HasNoEffect currency e w s := by
  unfold HasNoEffect
  rw [h]
  exact ⟨rfl, fun t _ => follow_of_none _ (paymentFor?_of_inexact hm), .inr (.inl ⟨a, hm, rfl⟩)⟩

/-- A free payment id stays free as long as no invoice shows the address. -/
theorem follow_of_hidden (h : shown? w.platform e = none) :
    follow currency w.platform t e none = none := by
  unfold follow
  cases paymentFor? currency t e with
  | none => rfl
  | some p => rw [h]; rfl

/-- A lockup that is not on record yet: no effect, or a first payment for the
invoice that shows the address. -/
theorem handle_of_free (currency : Currency) {settlement : Settlement} {address : String}
    (hs : Settlement.ofEvent? e = some settlement) (ht : e.lockupTx = some t)
    (ha : e.lockupAddress = some address) (hl : w.store.ledger.Holds t none) :
    HasNoEffect currency e w none
    ∨ ∃ i p, paymentFor? currency t e = some p ∧ shown? w.platform e = some i
        ∧ handle currency e w
          = announce (.paymentReceived i t) (.created p) (w.withPayment i p) := by
  have heq := handle_of_settled (w := w) currency hs ht ha
  rw [invoiceOf_of_free hl ha] at heq
  cases hp : w.platform.permit .invoiceForAddress with
  | error f =>
    rw [hp] at heq
    exact .inl ⟨by rw [heq]; rfl, fun u _ => follow_of_hidden (shown?_of_refused hp),
      .inr (.inr ⟨f, hp, by rw [heq]; rfl⟩)⟩
  | ok u =>
    rw [hp] at heq
    cases hi : shown? w.platform e with
    | none =>
      rw [hi] at heq
      exact .inl ⟨by rw [heq]; rfl, fun u _ => follow_of_hidden hi, .inl (by rw [heq]; rfl)⟩
    | some i =>
      rw [hi] at heq
      cases hm : Amount.ofSats e.amount currency.divisibility with
      | error a =>
        rw [hm] at heq
        exact .inl (hasNoEffect_of_inexact hm heq)
      | ok amount =>
        rw [hm] at heq
        exact .inr ⟨i, _, paymentFor?_of_settled hs ht ha hm, rfl, heq.trans (record_of_free hl)⟩

/-- A lockup that is on record: no effect, or its payment is merged with what
the event says. -/
theorem handle_of_held (currency : Currency) {settlement : Settlement} {address i : String}
    {q : Payment} (hs : Settlement.ofEvent? e = some settlement) (ht : e.lockupTx = some t)
    (ha : e.lockupAddress = some address) (hl : w.store.ledger.Holds t (some (i, q))) :
    HasNoEffect currency e w (some (i, q))
    ∨ ∃ p, paymentFor? currency t e = some p
        ∧ handle currency e w
          = announce (.needsUpdate i) (.updated (merge q p)) (w.withPayment i (merge q p)) := by
  have heq := handle_of_settled (w := w) currency hs ht ha
  rw [invoiceOf_of_held hl] at heq
  cases hm : Amount.ofSats e.amount currency.divisibility with
  | error a =>
    rw [hm] at heq
    exact .inl (hasNoEffect_of_inexact hm heq)
  | ok amount =>
    rw [hm] at heq
    exact .inr ⟨_, paymentFor?_of_settled hs ht ha hm, heq.trans (record_of_held hl)⟩

/-- **The three things that handling an event can do**: nothing at all, a first
payment for an invoice that shows the address, or a change of the payment on
record. -/
theorem handle_cases (currency : Currency)
    (h : ∀ t, e.lockupTx = some t → w.store.ledger.Holds t s) :
    HasNoEffect currency e w s
    ∨ (∃ t i p, paymentFor? currency t e = some p ∧ s = none ∧ shown? w.platform e = some i
        ∧ handle currency e w
          = announce (.paymentReceived i t) (.created p) (w.withPayment i p))
    ∨ (∃ t i p q, paymentFor? currency t e = some p ∧ s = some (i, q)
        ∧ handle currency e w
          = announce (.needsUpdate i) (.updated (merge q p)) (w.withPayment i (merge q p))) := by
  by_cases hu : Settlement.ofEvent? e = none ∨ e.lockupTx = none ∨ e.lockupAddress = none
  · exact .inl (hasNoEffect_of_unsettled currency hu)
  · obtain ⟨⟨settlement, hs⟩, ⟨t, ht⟩, ⟨address, ha⟩⟩ :
        (∃ x, Settlement.ofEvent? e = some x) ∧ (∃ t, e.lockupTx = some t)
          ∧ ∃ a, e.lockupAddress = some a := by
      simpa [not_or, Option.ne_none_iff_exists'] using hu
    have hl := h t ht
    cases s with
    | none =>
      rcases handle_of_free currency hs ht ha hl with hnone | ⟨i, p, hp, hi, heq⟩
      · exact .inl hnone
      · exact .inr (.inl ⟨t, i, p, hp, rfl, hi, heq⟩)
    | some entry =>
      obtain ⟨i, q⟩ := entry
      rcases handle_of_held currency hs ht ha hl with hnone | ⟨p, hp, heq⟩
      · exact .inl hnone
      · exact .inr (.inr ⟨t, i, p, q, hp, rfl, heq⟩)

/-- What the payment id of an event holds, read off what every id holds. -/
theorem holds_own {held : String → Option (String × Payment)}
    (h : ∀ t, w.store.ledger.Holds t (held t)) (t : String) (ht : e.lockupTx = some t) :
    w.store.ledger.Holds t (held (e.lockupTx.getD "")) := by
  rw [ht]
  exact h t

/-- A call that ends in writing a payment does to every payment id what `follow`
says, if it does so to the id of the payment. -/
theorem holds_announced (currency : Currency) {held : String → Option (String × Payment)}
    {i : String} {p : Payment} {n : Platform.Notification} {o : Outcome}
    (h : ∀ t, w.store.ledger.Holds t (held t)) (he : e.lockupTx = some p.id)
    (hi : ∀ entry ∈ held p.id, entry.1 = i)
    (hf : follow currency w.platform p.id e (held p.id) = some (i, p)) (t : String) :
    (announce n o (w.withPayment i p)).2.store.ledger.Holds t
      (follow currency w.platform t e (held t)) := by
  rw [announce_store]
  by_cases ht : t = p.id
  · rw [ht, hf]
    exact (h p.id).putRow hi
  · rw [follow_of_ne _ (fun hc => ht (Option.some.inj (hc.symm.trans he)))]
    exact (h t).putRow_ne ht

/-- **The ledger follows `follow`**: this is what an event does to what any
payment id holds. -/
theorem holds_handle (currency : Currency) {held : String → Option (String × Payment)}
    (h : ∀ t, w.store.ledger.Holds t (held t)) (t : String) :
    (handle currency e w).2.store.ledger.Holds t (follow currency w.platform t e (held t)) := by
  rcases handle_cases currency (holds_own h) with
    ⟨hw, hfollow, _⟩ | ⟨u, i, p, hf, hs, hi, heq⟩ | ⟨u, i, p, q, hf, hs, heq⟩
  · rw [hw]
    by_cases ht : e.lockupTx = some t
    · have hstay := hfollow t ht
      rw [ht, Option.getD_some] at hstay
      rw [hstay]
      exact h t
    · rw [follow_of_ne _ ht]
      exact h t
  · have hid := id_of_paymentFor? hf
    rw [lockupTx_of_paymentFor? hf, Option.getD_some, ← hid] at hs
    rw [heq]
    refine holds_announced currency h (hid ▸ lockupTx_of_paymentFor? hf) (by rw [hs]; simp) ?_ t
    unfold follow
    rw [hid, hf, ← hid, hs, hi]
    rfl
  · have hid := id_of_paymentFor? hf
    rw [lockupTx_of_paymentFor? hf, Option.getD_some, ← hid] at hs
    have hmid : (merge q p).id = p.id := rfl
    rw [heq]
    refine holds_announced currency h (hmid ▸ hid ▸ lockupTx_of_paymentFor? hf)
      (by rw [hmid, hs]; simp) ?_ t
    unfold follow
    rw [hmid, hid, hf, ← hid, hs]

/-- How a call can end on a ledger that the bridge alone writes: it fails for an
amount that the currency cannot express, or because the platform takes no
notifications.  A payment on record is never unreadable, and never vanishes. -/
theorem handle_result (currency : Currency) {held : String → Option (String × Payment)}
    (hp : w.platform.permit .invoiceForAddress = .ok ())
    (h : ∀ t, w.store.ledger.Holds t (held t)) :
    (∃ o, (handle currency e w).1 = .ok o)
    ∨ (∃ a, Amount.ofSats e.amount currency.divisibility = .error a
        ∧ (handle currency e w).1 = .error (.amount a))
    ∨ ∃ f, w.platform.permit .notify = .error f
        ∧ (handle currency e w).1 = .error (.notify f) := by
  rcases handle_cases currency (holds_own h) with
    ⟨_, _, hr⟩ | ⟨u, i, p, _, _, _, heq⟩ | ⟨u, i, p, q, _, _, heq⟩
  · rcases hr with hr | hr | ⟨f, hf, _⟩
    · exact .inl ⟨_, hr⟩
    · exact .inr (.inl hr)
    · exact absurd (hp.symm.trans hf) (by simp)
  · rw [heq]
    rcases announce_result (.paymentReceived i u) (.created p) (w.withPayment i p) with hr | hr
    · exact .inl ⟨_, hr⟩
    · exact .inr (.inr hr)
  · rw [heq]
    rcases announce_result (.needsUpdate i) (.updated (merge q p)) (w.withPayment i (merge q p))
      with hr | hr
    · exact .inl ⟨_, hr⟩
    · exact .inr (.inr hr)

end Reconciler

end SwapBridge
