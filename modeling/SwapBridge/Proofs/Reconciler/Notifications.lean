/-
  SwapBridge.Proofs.Reconciler.Notifications
  ──────────────────────────────────────────
  **NOTIFICATIONS FOLLOW THE LEDGER.**

  As long as the platform takes what it is told, every write to the ledger is
  told once: a payment that is new on record as received, one that is revised
  as a need to look at its invoice.  So the notifications of a run and the
  payments on record match one to one, whatever is delivered again and in
  whatever order.

    • `told` — what the platform was told between two worlds,
    • `Inserts`, `Revises` — what a call can do to the ledger,
    • `Tells` — the result and the notifications of a call say which of them it did,
    • `tells_handle`, `touches_handle` — every call tells, and touches nothing else,
    • `Announced` — each payment on record was announced once, and no other,
    • `notifications_follow_ledger` — the notifications of a whole run.
-/
import SwapBridge.Proofs.Reconciler.Run
import SwapBridge.Proofs.Sample

namespace SwapBridge

/-- What the platform was told on the way from one world to another. -/
def told (w w' : World) : List Platform.Notification :=
  w'.platform.notifications.drop w.platform.notifications.length

/-- The platform has not forgotten what it was told before. -/
def StillTold (w w' : World) : Prop :=
  w'.platform.notifications = w.platform.notifications ++ told w w'

/-- Between a world and itself nothing is told. -/
theorem told_self (w : World) : told w w = [] := by
  simp [told]

/-- `told` is what the list of notifications has grown by. -/
theorem told_of_append {w w' : World} {ns : List Platform.Notification}
    (h : w'.platform.notifications = w.platform.notifications ++ ns) : told w w' = ns := by
  simp [told, h]

theorem stillTold_of_append {w w' : World} {ns : List Platform.Notification}
    (h : w'.platform.notifications = w.platform.notifications ++ ns) : StillTold w w' := by
  unfold StillTold
  rw [told_of_append h, h]

theorem stillTold_self (w : World) : StillTold w w := by
  simp [StillTold, told_self]

/-- What was told on the way to a world comes before what was told afterwards. -/
theorem told_trans {w w' w'' : World} (h : StillTold w w') (h' : StillTold w' w'') :
    StillTold w w'' ∧ told w w'' = told w w' ++ told w' w'' := by
  have hall : w''.platform.notifications
      = w.platform.notifications ++ (told w w' ++ told w' w'') := by
    rw [h', h, List.append_assoc]
  exact ⟨stillTold_of_append hall, told_of_append hall⟩

namespace Reconciler

variable {currency : Currency} {e : Swap.Event} {w w' : World} {i t : String} {p : Payment}
  {held : String → Option (String × Payment)}

/-! ## §1. What a call does to the ledger. -/

/-- On the way to a later world a payment is put on record. -/
def Inserts (w w' : World) (i : String) (p : Payment) : Prop :=
  w.store.ledger.get i p.id = .ok none ∧ w'.store.ledger.get i p.id = .ok (some p)

/-- On the way to a later world a payment on record is rewritten: it is merged
with what the event says about its transaction. -/
def Revises (currency : Currency) (e : Swap.Event) (w w' : World) (i : String) (p : Payment) :
    Prop :=
  ∃ q incoming, w.store.ledger.get i p.id = .ok (some q)
    ∧ paymentFor? currency p.id e = some incoming ∧ p = merge q incoming
    ∧ w'.store.ledger.get i p.id = .ok (some p)

/-- The result of a call and what it tells the platform say what the call does
to the ledger. -/
structure Tells (currency : Currency) (e : Swap.Event) (w : World) (r : Except Failure Outcome)
    (w' : World) : Prop where
  still : StillTold w w'
  once : (told w w').length ≤ 1
  received_iff : ∀ i t, told w w' = [.paymentReceived i t] ↔ ∃ p, p.id = t ∧ Inserts w w' i p
  created_iff : ∀ p, r = .ok (.created p) ↔ ∃ i, Inserts w w' i p
  needsUpdate_iff : ∀ i, told w w' = [.needsUpdate i] ↔ ∃ p, Revises currency e w w' i p
  updated_iff : ∀ p, r = .ok (.updated p) ↔ ∃ i, Revises currency e w w' i p
  /-- An event that is ignored, or that cannot be handled, leaves no trace. -/
  silent : (r = .ok .ignored ∨ ∃ f, r = .error f) → w' = w

/-- Nothing but the payments on record and the notifications differs. -/
def TouchesPayments (w w' : World) : Prop :=
  w' = { w with
    store := { w.store with ledger := w'.store.ledger }
    platform := { w.platform with notifications := w'.platform.notifications } }

/-- The payment id of an event is the one that the event says something about. -/
theorem id_eq_of_paymentFor? {q : Payment} (h : paymentFor? currency t e = some p)
    {u : String} (h' : paymentFor? currency u e = some q) : u = t :=
  Option.some.inj ((lockupTx_of_paymentFor? h').symm.trans (lockupTx_of_paymentFor? h))

/-- A reader finds under an invoice exactly what is held under it. -/
theorem get_eq_some_iff {l : Ledger} {s : Option (String × Payment)} (h : l.Holds t s) :
    l.get i t = .ok (some p) ↔ s = some (i, p) := by
  constructor
  · exact h.eq_some_of_get
  · intro hs
    subst hs
    exact h.get_self

/-- `get` finds nothing where another invoice holds the payment, or none does. -/
theorem get_eq_none_iff {l : Ledger} {s : Option (String × Payment)} (h : l.Holds t s) :
    l.get i t = .ok none ↔ ∀ p, s ≠ some (i, p) := by
  rw [h.get_eq i]
  cases s with
  | none => simp
  | some entry =>
    obtain ⟨j, q⟩ := entry
    by_cases hj : i = j
    · simp [hj]
    · simp [hj, Ne.symm hj]

/-- What holding payments says about an insertion. -/
theorem inserts_iff {held' : String → Option (String × Payment)}
    (h : ∀ t, w.store.ledger.Holds t (held t)) (h' : ∀ t, w'.store.ledger.Holds t (held' t)) :
    Inserts w w' i p ↔ (∀ q, held p.id ≠ some (i, q)) ∧ held' p.id = some (i, p) := by
  unfold Inserts
  rw [get_eq_none_iff (h p.id), get_eq_some_iff (h' p.id)]

/-- What holding payments says about a revision. -/
theorem revises_iff {held' : String → Option (String × Payment)}
    (h : ∀ t, w.store.ledger.Holds t (held t)) (h' : ∀ t, w'.store.ledger.Holds t (held' t)) :
    Revises currency e w w' i p ↔ ∃ q incoming, held p.id = some (i, q)
      ∧ paymentFor? currency p.id e = some incoming ∧ p = merge q incoming
      ∧ held' p.id = some (i, p) := by
  unfold Revises
  simp only [get_eq_some_iff (h p.id), get_eq_some_iff (h' p.id)]

/-! ## §2. Calls, by what there is to do. -/

/-- The world in which the platform was told one thing more. -/
def notified (n : Platform.Notification) (w : World) : World :=
  { w with platform := { w.platform with notifications := w.platform.notifications ++ [n] } }

/-- Where the platform listens, `announce` adds its notification to the list. -/
theorem announce_of_heard (h : w.platform.permit .notify = .ok ()) (n : Platform.Notification)
    (o : Outcome) : announce n o w = (.ok o, notified n w) := by
  unfold announce Platform.notify
  rw [h]
  rfl

/-- The first payment for a transaction is made and announced. -/
theorem handle_of_first (hl : w.store.ledger.Holds t none)
    (hp : paymentFor? currency t e = some p) (hi : shown? w.platform e = some i) :
    handle currency e w = announce (.paymentReceived i t) (.created p) (w.withPayment i p) := by
  obtain ⟨settlement, address, amount, hs, ha, ht, hm, rfl⟩ := paymentFor?_eq_some hp
  rw [handle_of_settled currency hs ht ha, invoiceOf_of_free hl ha, hi, hm]
  cases hq : w.platform.permit .invoiceForAddress with
  | error f => rw [shown?_of_refused hq] at hi; cases hi
  | ok u => exact record_of_free hl

/-- A payment on record is merged with what the event says. -/
theorem handle_of_later {q : Payment} (hl : w.store.ledger.Holds t (some (i, q)))
    (hp : paymentFor? currency t e = some p) :
    handle currency e w
      = announce (.needsUpdate i) (.updated (merge q p)) (w.withPayment i (merge q p)) := by
  obtain ⟨settlement, address, amount, hs, ha, ht, hm, rfl⟩ := paymentFor?_eq_some hp
  rw [handle_of_settled currency hs ht ha, invoiceOf_of_held hl, hm]
  exact record_of_held hl

/-- What there is to do for an event: a payment on record to revise, a first
payment to make, or neither. -/
theorem work_cases (currency : Currency) (p : Platform) (e : Swap.Event)
    (held : String → Option (String × Payment)) :
    (∃ t i q incoming, held t = some (i, q) ∧ paymentFor? currency t e = some incoming)
    ∨ (∃ t i incoming, held t = none ∧ paymentFor? currency t e = some incoming
        ∧ shown? p e = some i)
    ∨ ∀ t incoming, paymentFor? currency t e = some incoming →
        held t = none ∧ shown? p e = none := by
  -- an event pays for one lockup at most, so that one case decides for all ids
  by_cases hp : ∃ t incoming, paymentFor? currency t e = some incoming
  · obtain ⟨t, incoming, hp⟩ := hp
    cases hs : held t with
    | some entry => exact .inl ⟨t, entry.1, entry.2, incoming, hs, hp⟩
    | none =>
      cases hi : shown? p e with
      | some i => exact .inr (.inl ⟨t, i, incoming, hs, hp, rfl⟩)
      | none =>
        refine .inr (.inr fun u q hq => ⟨?_, rfl⟩)
        rw [id_eq_of_paymentFor? hp hq]
        exact hs
  · exact .inr (.inr fun t incoming h => absurd ⟨t, incoming, h⟩ hp)

/-- Where there is nothing to do, nothing is done. -/
theorem hasNoEffect_of_idle (h : ∀ t, w.store.ledger.Holds t (held t))
    (hidle : ∀ t incoming, paymentFor? currency t e = some incoming →
      held t = none ∧ shown? w.platform e = none) :
    HasNoEffect currency e w (held (e.lockupTx.getD "")) := by
  rcases handle_cases currency (holds_own h) with
    hnone | ⟨t, i, p, hp, _, hi, _⟩ | ⟨t, i, p, q, hp, hs, _⟩
  · exact hnone
  · exact absurd ((hidle t p hp).2.symm.trans hi) (by simp)
  · rw [lockupTx_of_paymentFor? hp, Option.getD_some] at hs
    exact absurd ((hidle t p hp).1.symm.trans hs) (by simp)

/-- A call inserts a payment exactly if nothing is on record for the transaction
of its event and an invoice shows the address. -/
theorem inserts_handle_iff (currency : Currency) (h : ∀ t, w.store.ledger.Holds t (held t)) :
    Inserts w (handle currency e w).2 i p ↔ held p.id = none
      ∧ paymentFor? currency p.id e = some p ∧ shown? w.platform e = some i := by
  rw [inserts_iff h (holds_handle currency h)]
  -- inserted is what `follow` gives and was not held before
  cases hp : paymentFor? currency p.id e with
  | none =>
    rw [follow_of_none _ hp]
    exact ⟨fun hh => absurd hh.2 (hh.1 p), fun hh => by cases hh.2.1⟩
  | some incoming =>
    unfold follow
    rw [hp]
    cases held p.id with
    | none =>
      cases shown? w.platform e with
      | none => simp
      | some j => simp [eq_comm, and_comm]
    | some entry =>
      obtain ⟨j, q⟩ := entry
      refine ⟨fun hh => ?_, fun hh => by cases hh.1⟩
      have hj : j = i := congrArg Prod.fst (Option.some.inj hh.2)
      exact absurd (by rw [hj]) (hh.1 q)

/-- A call revises a payment exactly if it is on record and the event says
something about its transaction. -/
theorem revises_handle_iff (currency : Currency) (h : ∀ t, w.store.ledger.Holds t (held t)) :
    Revises currency e w (handle currency e w).2 i p ↔ ∃ q incoming, held p.id = some (i, q)
      ∧ paymentFor? currency p.id e = some incoming ∧ p = merge q incoming := by
  rw [revises_iff h (holds_handle currency h)]
  constructor
  · rintro ⟨q, incoming, hs, hp, hm, _⟩
    exact ⟨q, incoming, hs, hp, hm⟩
  · rintro ⟨q, incoming, hs, hp, hm⟩
    refine ⟨q, incoming, hs, hp, hm, ?_⟩
    unfold follow
    rw [hp, hs, hm]

/-! ## §3. Every call tells what it does. -/

/-- A first sighting inserts the record and announces the payment: both or neither. -/
theorem tells_of_first (h : ∀ t, w.store.ledger.Holds t (held t))
    (hn : w.platform.permit .notify = .ok ()) (hs : held t = none)
    (hp : paymentFor? currency t e = some p) (hi : shown? w.platform e = some i) :
    Tells currency e w (handle currency e w).1 (handle currency e w).2 := by
  have hid := id_of_paymentFor? hp
  have heq := (handle_of_first (hs ▸ h t) hp hi).trans
    (announce_of_heard (w := w.withPayment i p) hn (.paymentReceived i t) (.created p))
  have hlog : (handle currency e w).2.platform.notifications
      = w.platform.notifications ++ [.paymentReceived i t] := by rw [heq]; rfl
  have hr : (handle currency e w).1 = .ok (.created p) := by rw [heq]
  -- of all records one is new, and none is revised
  have hins : ∀ j q, Inserts w (handle currency e w).2 j q ↔ j = i ∧ q = p := by
    intro j q
    rw [inserts_handle_iff currency h]
    constructor
    · rintro ⟨_, hq, hj⟩
      rw [id_eq_of_paymentFor? hp hq] at hq
      exact ⟨Option.some.inj (hj.symm.trans hi), Option.some.inj (hq.symm.trans hp)⟩
    · rintro ⟨rfl, rfl⟩
      rw [hid]
      exact ⟨hs, hp, hi⟩
  have hrev : ∀ j q, ¬ Revises currency e w (handle currency e w).2 j q := by
    intro j q hh
    obtain ⟨r, incoming, hr, hq, _⟩ := (revises_handle_iff currency h).1 hh
    rw [id_eq_of_paymentFor? hp hq, hs] at hr
    cases hr
  refine ⟨stillTold_of_append hlog, by simp [told_of_append hlog], fun j u => ?_, fun q => ?_,
    fun j => ?_, fun q => ?_, ?_⟩
  -- notifications, insertions, revisions and the answer: each is the one of this sighting
  · rw [told_of_append hlog]
    simp only [hins, List.cons.injEq, and_true, Platform.Notification.paymentReceived.injEq]
    constructor
    · rintro ⟨rfl, rfl⟩
      exact ⟨p, hid, rfl, rfl⟩
    · rintro ⟨q, rfl, rfl, rfl⟩
      exact ⟨rfl, hid.symm⟩
  · rw [hr]
    simp [hins, eq_comm]
  · rw [told_of_append hlog]
    simp [hrev]
  · rw [hr]
    simp [hrev]
  · rw [hr]
    simp

/-- A later sighting revises the record, and asks for an update if that changes it. -/
theorem tells_of_later {q : Payment} (h : ∀ t, w.store.ledger.Holds t (held t))
    (hn : w.platform.permit .notify = .ok ()) (hs : held t = some (i, q))
    (hp : paymentFor? currency t e = some p) :
    Tells currency e w (handle currency e w).1 (handle currency e w).2 := by
  have hid : (merge q p).id = t := show p.id = t from id_of_paymentFor? hp
  have heq := (handle_of_later (hs ▸ h t) hp).trans
    (announce_of_heard (w := w.withPayment i (merge q p)) hn (.needsUpdate i)
      (.updated (merge q p)))
  have hlog : (handle currency e w).2.platform.notifications
      = w.platform.notifications ++ [.needsUpdate i] := by rw [heq]; rfl
  have hr : (handle currency e w).1 = .ok (.updated (merge q p)) := by rw [heq]
  have hins : ∀ j r, ¬ Inserts w (handle currency e w).2 j r := by
    intro j r hh
    obtain ⟨hr, hq, _⟩ := (inserts_handle_iff currency h).1 hh
    rw [id_eq_of_paymentFor? hp hq, hs] at hr
    cases hr
  have hrev : ∀ j r, Revises currency e w (handle currency e w).2 j r
      ↔ j = i ∧ r = merge q p := by
    intro j r
    rw [revises_handle_iff currency h]
    constructor
    · rintro ⟨q', incoming, hr, hq, hm⟩
      rw [id_eq_of_paymentFor? hp hq] at hr hq
      obtain ⟨rfl, rfl⟩ := Prod.mk.inj (Option.some.inj (hr.symm.trans hs))
      rw [Option.some.inj (hq.symm.trans hp)] at hm
      exact ⟨rfl, hm⟩
    · rintro ⟨rfl, rfl⟩
      rw [hid]
      exact ⟨q, p, hs, hp, rfl⟩
  refine ⟨stillTold_of_append hlog, by simp [told_of_append hlog], fun j u => ?_, fun r => ?_,
    fun j => ?_, fun r => ?_, ?_⟩
  · rw [told_of_append hlog]
    simp [hins]
  · rw [hr]
    simp [hins]
  · rw [told_of_append hlog]
    simp [hrev, eq_comm]
  · rw [hr]
    simp [hrev, eq_comm]
  · rw [hr]
    simp

/-- An event without a payment, or for nobody, tells nothing. -/
theorem tells_of_idle (h : ∀ t, w.store.ledger.Holds t (held t))
    (hidle : ∀ t incoming, paymentFor? currency t e = some incoming →
      held t = none ∧ shown? w.platform e = none) :
    Tells currency e w (handle currency e w).1 (handle currency e w).2 := by
  obtain ⟨hw, _, hends⟩ := hasNoEffect_of_idle h hidle
  have hins : ∀ j q, ¬ Inserts w (handle currency e w).2 j q := by
    intro j q hh
    obtain ⟨_, hq, hj⟩ := (inserts_handle_iff currency h).1 hh
    exact absurd ((hidle _ _ hq).2.symm.trans hj) (by simp)
  have hrev : ∀ j q, ¬ Revises currency e w (handle currency e w).2 j q := by
    intro j q hh
    obtain ⟨r, incoming, hr, hq, _⟩ := (revises_handle_iff currency h).1 hh
    exact absurd ((hidle _ _ hq).1.symm.trans hr) (by simp)
  have hlog : told w (handle currency e w).2 = [] := by rw [hw, told_self]
  refine ⟨by rw [hw]; exact stillTold_self w, by simp [hlog], fun j u => ?_, fun q => ?_,
    fun j => ?_, fun q => ?_, fun _ => hw⟩
  · rw [hlog]
    simp [hins]
  · rcases hends with hr | ⟨a, _, hr⟩ | ⟨f, _, hr⟩ <;> simp [hr, hins]
  · rw [hlog]
    simp [hrev]
  · rcases hends with hr | ⟨a, _, hr⟩ | ⟨f, _, hr⟩ <;> simp [hr, hrev]

/-- **Every call tells what it does to the ledger**, while the platform takes
notifications. -/
theorem tells_handle (currency : Currency) (h : ∀ t, w.store.ledger.Holds t (held t))
    (hn : w.platform.permit .notify = .ok ()) :
    Tells currency e w (handle currency e w).1 (handle currency e w).2 := by
  rcases work_cases currency w.platform e held with
    ⟨t, i, q, p, hs, hp⟩ | ⟨t, i, p, hs, hp, hi⟩ | hidle
  · exact tells_of_later h hn hs hp
  · exact tells_of_first h hn hs hp hi
  · exact tells_of_idle h hidle

/-- **A call touches the payments and the notifications alone**: no invoice, no
setting, and nothing of the daemon. -/
theorem touches_handle (currency : Currency) (e : Swap.Event) (w : World) :
    TouchesPayments w (handle currency e w).2 := by
  obtain ⟨ledger, notifications, h⟩ := frames_handle currency e w
  unfold TouchesPayments
  rw [h]

/-! ## §4. Announcements and records. -/

/-- The payments on record match the announcements in a log: each was announced
once, and nothing else was. -/
structure Announced (l : Ledger) (log : List Platform.Notification) : Prop where
  count_eq_one : ∀ i t p, l.get i t = .ok (some p) → log.count (.paymentReceived i t) = 1
  on_record : ∀ i t, .paymentReceived i t ∈ log → ∃ p, l.get i t = .ok (some p)

/-- Before any event nothing is announced and nothing recorded. -/
theorem announced_empty : Announced .empty [] where
  count_eq_one i t p h := by cases h
  on_record i t h := by cases h

/-- What a call tells of a payment that is received, it inserts. -/
theorem Tells.inserts_of_mem {r : Except Failure Outcome} (h : Tells currency e w r w')
    (hm : .paymentReceived i t ∈ told w w') : ∃ p, p.id = t ∧ Inserts w w' i p := by
  refine (h.received_iff i t).1 ?_
  obtain ⟨a, ha⟩ := List.length_eq_one_iff.1
    (Nat.le_antisymm h.once (List.length_pos_of_mem hm))
  rw [ha, List.mem_singleton] at hm
  rw [ha, hm]

/-- A payment on record stays on record under its invoice. -/
theorem on_record_of_on_record (currency : Currency) (h : ∀ t, w.store.ledger.Holds t (held t))
    (hp : w.store.ledger.get i t = .ok (some p)) :
    ∃ q, (handle currency e w).2.store.ledger.get i t = .ok (some q) := by
  have hafter := holds_handle (e := e) currency h t
  rw [(h t).eq_some_of_get hp] at hafter
  unfold follow at hafter
  cases hf : paymentFor? currency t e with
  | none =>
    rw [hf] at hafter
    exact ⟨_, hafter.get_self⟩
  | some incoming =>
    rw [hf] at hafter
    exact ⟨_, hafter.get_self⟩

/-- A payment that a call leaves on record was there before, or is inserted. -/
theorem inserts_or_on_record (currency : Currency) (h : ∀ t, w.store.ledger.Holds t (held t))
    (hp : (handle currency e w).2.store.ledger.get i t = .ok (some p)) :
    (∃ q, w.store.ledger.get i t = .ok (some q))
      ∨ p.id = t ∧ Inserts w (handle currency e w).2 i p := by
  have hafter := holds_handle (e := e) currency h t
  rw [hafter.eq_some_of_get hp] at hafter
  have hid : p.id = t := hafter.1
  cases hs : w.store.ledger.get i t with
  | error f =>
    rw [(h t).get_eq i] at hs
    cases hs
  | ok found =>
    cases found with
    | some q => exact .inl ⟨q, rfl⟩
    | none => exact .inr ⟨hid, by rw [hid]; exact hs, by rw [hid]; exact hp⟩

/-- **One call keeps announcements and records in step.** -/
theorem Announced.handle {log : List Platform.Notification} (hlog : Announced w.store.ledger log)
    (h : ∀ t, w.store.ledger.Holds t (held t)) (hn : w.platform.permit .notify = .ok ()) :
    Announced (handle currency e w).2.store.ledger
      (log ++ told w (Reconciler.handle currency e w).2) := by
  have htells := tells_handle (e := e) currency h hn
  constructor
  · intro i t p hp
    rw [List.count_append]
    rcases inserts_or_on_record currency h hp with ⟨q, hq⟩ | ⟨hid, hins⟩
    · have hnot : .paymentReceived i t ∉ told w (Reconciler.handle currency e w).2 := by
        intro hm
        obtain ⟨r, hid, hnone, _⟩ := htells.inserts_of_mem hm
        rw [hid, hq] at hnone
        cases hnone
      rw [hlog.count_eq_one i t q hq, List.count_eq_zero_of_not_mem hnot]
    · -- nothing was on record, so nothing was announced before
      have hnot : .paymentReceived i t ∉ log := by
        intro hm
        obtain ⟨q, hq⟩ := hlog.on_record i t hm
        have hnone := hins.1
        rw [hid, hq] at hnone
        cases hnone
      rw [List.count_eq_zero_of_not_mem hnot, (htells.received_iff i t).2 ⟨p, hid, hins⟩]
      simp
  · intro i t hm
    rcases List.mem_append.1 hm with hm | hm
    · obtain ⟨q, hq⟩ := hlog.on_record i t hm
      exact on_record_of_on_record currency h hq
    · obtain ⟨p, hid, hins⟩ := htells.inserts_of_mem hm
      exact ⟨p, hid ▸ hins.2⟩

/-! ## §5. Runs. -/

/-- The platform takes what it is told. -/
def Call.Heard (c : Call) : Prop := c.platform.permit .notify = .ok ()

instance (c : Call) : Decidable c.Heard :=
  inferInstanceAs (Decidable (c.platform.permit .notify = .ok ()))

/-- The world that a call meets after the calls before it. -/
def met (currency : Currency) (before : List Call) (w : World) (c : Call) : World :=
  c.enter (run currency before w).2

/-- A run goes on where an earlier one ended. -/
theorem run_append (currency : Currency) (cs ds : List Call) (w : World) :
    (run currency (cs ++ ds) w).2 = (run currency ds (run currency cs w).2).2 := by
  induction cs generalizing w with
  | nil => rfl
  | cons c cs ih => exact ih (c.run currency w).2

/-- In a run the platform forgets nothing that it was told. -/
theorem stillTold_run (currency : Currency) {cs : List Call} (hcs : ∀ c ∈ cs, c.Heard)
    (h : ∀ t, w.store.ledger.Holds t (held t)) : StillTold w (run currency cs w).2 := by
  induction cs generalizing w held with
  | nil => exact stillTold_self w
  | cons c cs ih =>
    -- a call meets what the platform was told before, whatever else has changed
    have hcall : StillTold w (c.run currency w).2 :=
      (tells_handle (w := c.enter w) currency h (hcs c List.mem_cons_self)).still
    have hrest := ih (fun d hd => hcs d (List.mem_cons_of_mem _ hd))
      (Call.holds_run currency (c := c) h)
    exact (told_trans hcall hrest).1

/-- What a run tells is what its first call tells and then what the others do. -/
theorem told_run_cons (currency : Currency) {c : Call} {cs : List Call}
    (hcs : ∀ d ∈ c :: cs, d.Heard) (h : ∀ t, w.store.ledger.Holds t (held t)) :
    told w (run currency (c :: cs) w).2
      = told w (c.run currency w).2 ++ told (c.run currency w).2 (run currency (c :: cs) w).2 := by
  have hcall : StillTold w (c.run currency w).2 :=
    (tells_handle (w := c.enter w) currency h (hcs c List.mem_cons_self)).still
  exact (told_trans hcall (stillTold_run currency
    (fun d hd => hcs d (List.mem_cons_of_mem _ hd)) (Call.holds_run currency h))).2

/-- **A run keeps announcements and records in step.** -/
theorem announced_run (currency : Currency) {cs : List Call} (hcs : ∀ c ∈ cs, c.Heard)
    (h : ∀ t, w.store.ledger.Holds t (held t)) {log : List Platform.Notification}
    (hlog : Announced w.store.ledger log) :
    Announced (ledgerAfter currency cs w) (log ++ told w (run currency cs w).2) := by
  induction cs generalizing w held log with
  | nil =>
    show Announced w.store.ledger (log ++ told w w)
    rw [told_self, List.append_nil]
    exact hlog
  | cons c cs ih =>
    rw [told_run_cons currency hcs h, ← List.append_assoc]
    exact ih (fun d hd => hcs d (List.mem_cons_of_mem _ hd)) (Call.holds_run currency h)
      (Announced.handle (w := c.enter w) hlog h (hcs c List.mem_cons_self))

/-- **NOTIFICATIONS FOLLOW THE LEDGER**: in any run from an empty ledger in
which the platform takes what it is told, every call tells exactly what it does
to the ledger and touches nothing but payments and notifications.  At every
moment each payment on record was announced once and no other was, and the
announcement of a payment comes before every request for a look that a revision
of the payment causes. -/
theorem notifications_follow_ledger (currency : Currency) (cs : List Call) (w : World)
    (hw : w.store.ledger = .empty) (hcs : ∀ c ∈ cs, c.Heard) :
    (∀ before c after, cs = before ++ c :: after →
      Tells currency c.event (met currency before w c)
        (handle currency c.event (met currency before w c)).1
        (handle currency c.event (met currency before w c)).2
      ∧ TouchesPayments (met currency before w c)
        (handle currency c.event (met currency before w c)).2)
    ∧ (∀ before after, cs = before ++ after →
      Announced (ledgerAfter currency before w) (told w (run currency before w).2))
    ∧ ∀ before c after i p, cs = before ++ c :: after →
      Revises currency c.event (met currency before w c)
        (handle currency c.event (met currency before w c)).2 i p →
      .paymentReceived i p.id ∈ told w (run currency before w).2
        ∧ ∃ later, told w (run currency cs w).2
          = told w (run currency before w).2 ++ .needsUpdate i :: later := by
  have hempty := holds_of_empty hw
  -- each call by itself, in the world that it meets
  have htells : ∀ before c after, cs = before ++ c :: after →
      Tells currency c.event (met currency before w c)
        (handle currency c.event (met currency before w c)).1
        (handle currency c.event (met currency before w c)).2
      ∧ TouchesPayments (met currency before w c)
        (handle currency c.event (met currency before w c)).2 := by
    rintro before c after rfl
    have hheard := hcs c (by simp)
    have hheld := holds_run currency before hempty
    exact ⟨tells_handle (w := met currency before w c) currency hheld hheard,
      touches_handle currency c.event (met currency before w c)⟩
  -- all calls so far
  have hannounced : ∀ before after, cs = before ++ after →
      Announced (ledgerAfter currency before w) (told w (run currency before w).2) := by
    rintro before after rfl
    exact announced_run currency (fun c hc => hcs c (List.mem_append_left _ hc)) hempty
      (hw ▸ announced_empty)
  refine ⟨htells, hannounced, ?_⟩
  intro before c after i p hsplit hrev
  -- a record that is revised was on record before, and so it was announced
  obtain ⟨q, _, hq, _⟩ := id hrev
  have hone := (hannounced before (c :: after) hsplit).count_eq_one i p.id q hq
  refine ⟨List.count_pos_iff.1 (by omega), ?_⟩
  have hcall : told (run currency before w).2 (c.run currency (run currency before w).2).2
      = [.needsUpdate i] := ((htells before c after hsplit).1.needsUpdate_iff i).2 ⟨p, hrev⟩
  subst hsplit
  have hbefore : StillTold w (run currency before w).2 :=
    stillTold_run currency (fun d hd => hcs d (List.mem_append_left _ hd)) hempty
  have hafter : ∀ d ∈ c :: after, d.Heard := fun d hd => hcs d (List.mem_append_right _ hd)
  have hheld := holds_run currency before hempty
  rw [run_append, (told_trans hbefore (stillTold_run currency hafter hheld)).2,
    told_run_cons currency hafter hheld, hcall]
  exact ⟨_, rfl⟩

/-- A lockup that is reported, reported again and at last claimed. -/
def deliveredTwice : List Call :=
  let shop := Sample.invoices [Sample.invoice "inv" "A"]
  [{ event := Sample.lockup "swap-1" "A" "tx-1", invoices := shop },
   { event := Sample.lockup "swap-1" "A" "tx-1", invoices := shop },
   { event := { Sample.lockup "swap-1" "A" "tx-1" with state := .successful }, invoices := shop }]

theorem notifications_deliveredTwice :
    Sample.world.store.ledger = .empty ∧ (∀ c ∈ deliveredTwice, c.Heard)
    ∧ (told Sample.world (run .bitcoin deliveredTwice Sample.world).2).count
        (.paymentReceived "inv" "tx-1") = 1
    ∧ ∃ later, told Sample.world (run .bitcoin deliveredTwice Sample.world).2
        = .paymentReceived "inv" "tx-1" :: .needsUpdate "inv" :: later := by
  have hcs : ∀ c ∈ deliveredTwice, c.Heard := by decide
  obtain ⟨_, hannounced, hlater⟩ :=
    notifications_follow_ledger .bitcoin deliveredTwice Sample.world rfl hcs
  -- the second delivery revises this record
  let first : Payment :=
    { id := "tx-1", status := .processing, amount := ⟨10000, 8, by decide, by decide⟩
      currency := "BTC", details := ⟨"swap-1", "tx-1", none, none⟩ }
  have hrev : Revises .bitcoin (deliveredTwice[1]).event
      (met .bitcoin [deliveredTwice[0]] Sample.world (deliveredTwice[1]))
      (handle .bitcoin (deliveredTwice[1]).event
        (met .bitcoin [deliveredTwice[0]] Sample.world (deliveredTwice[1]))).2 "inv" first :=
    ⟨first, first, by decide +kernel, by decide +kernel, by decide +kernel, by decide +kernel⟩
  obtain ⟨_, later, htold⟩ :=
    hlater [deliveredTwice[0]] (deliveredTwice[1]) [deliveredTwice[2]] "inv" first rfl hrev
  have hfirst : told Sample.world (run .bitcoin [deliveredTwice[0]] Sample.world).2
      = [.paymentReceived "inv" "tx-1"] := by decide +kernel
  rw [hfirst] at htold
  refine ⟨rfl, hcs, ?_, later, htold⟩
  exact (hannounced deliveredTwice [] (by simp)).count_eq_one "inv" "tx-1"
    { first with status := .settled } (by decide +kernel)

end Reconciler

end SwapBridge
