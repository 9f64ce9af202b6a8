/-
  SwapBridge.Proofs.Reconciler.Unheard
  ────────────────────────────────────
  **PAYMENTS THAT NOBODY WAS TOLD ABOUT.**

  A payment is put on record before it is announced.  When the platform does
  not take the announcement, the call fails and the payment stays on record, so
  an event that is delivered again finds it there: it revises the payment, asks
  for a look at the invoice, and never announces the payment.

    • `count_told_of_inserts` — how often a call announces the payment that it makes,
    • `FollowsMakers` — a payment is announced by the call that makes it, or by none,
    • `FollowsMakers.concat` — one more call keeps it so,
    • `announced_iff_maker_heard` — the announcements of any run,
    • `unannounced_retried` — a payment whose last event was handled well, and
      that was never announced.
-/
import SwapBridge.Proofs.Reconciler.Notifications
import SwapBridge.Proofs.Reconciler.SharedLockup

namespace SwapBridge.Reconciler

variable {currency : Currency} {e : Swap.Event} {w : World} {i t : String} {p : Payment}
  {held : String → Option (String × Payment)} {f : Platform.Fault}

/-! ## §1. Calls that the platform does not hear. -/

/-- Where the platform does not listen, `announce` fails and leaves the world as it is. -/
theorem announce_of_unheard (h : w.platform.permit .notify = .error f) (n : Platform.Notification)
    (o : Outcome) : announce n o w = (.error (.notify f), w) := by
  unfold announce Platform.notify
  rw [h]
  rfl

/-- So the list of notifications stays, while the ledger may have changed. -/
theorem notifications_of_unheard (h : ∀ t, w.store.ledger.Holds t (held t))
    (hn : w.platform.permit .notify = .error f) :
    (handle currency e w).2.platform.notifications = w.platform.notifications ++ [] := by
  rw [List.append_nil]
  rcases work_cases currency w.platform e held with
    ⟨t, i, q, p, hs, hp⟩ | ⟨t, i, p, hs, hp, hi⟩ | hidle
  · rw [handle_of_later (hs ▸ h t) hp,
      announce_of_unheard (w := w.withPayment i (merge q p)) hn]
    rfl
  · rw [handle_of_first (hs ▸ h t) hp hi, announce_of_unheard (w := w.withPayment i p) hn]
    rfl
  · rw [(hasNoEffect_of_idle h hidle).1]

/-- A platform that does not listen is told nothing. -/
theorem told_of_unheard (h : ∀ t, w.store.ledger.Holds t (held t))
    (hn : w.platform.permit .notify = .error f) :
    StillTold w (handle currency e w).2 ∧ told w (handle currency e w).2 = [] :=
  ⟨stillTold_of_append (notifications_of_unheard h hn),
    told_of_append (notifications_of_unheard h hn)⟩

/-- Heard or not, a call takes back nothing that the platform was told. -/
theorem stillTold_handle (currency : Currency) (e : Swap.Event)
    (h : ∀ t, w.store.ledger.Holds t (held t)) : StillTold w (handle currency e w).2 := by
  cases hn : w.platform.permit .notify with
  | ok u => exact (tells_handle currency h hn).still
  | error f =>
    exact (told_of_unheard h hn).1

/-- A call that puts a payment on record announces it once if it is heard. -/
theorem count_told_of_inserts (h : ∀ t, w.store.ledger.Holds t (held t))
    (hins : Inserts w (handle currency e w).2 i p) :
    (told w (handle currency e w).2).count (.paymentReceived i p.id)
      = if w.platform.permit .notify = .ok () then 1 else 0 := by
  cases hn : w.platform.permit .notify with
  | ok u =>
    rw [((tells_handle currency h hn).received_iff i p.id).2 ⟨p, rfl, hins⟩]
    simp
  | error f =>
    rw [(told_of_unheard h hn).2, if_neg (by simp), List.count_nil]

/-- Other calls do not announce it. -/
theorem count_told_of_not_inserts (h : ∀ t, w.store.ledger.Holds t (held t))
    (hins : ∀ p, p.id = t → ¬ Inserts w (handle currency e w).2 i p) :
    (told w (handle currency e w).2).count (.paymentReceived i t) = 0 := by
  refine List.count_eq_zero_of_not_mem fun hm => ?_
  cases hn : w.platform.permit .notify with
  | ok u =>
    obtain ⟨p, hid, hp⟩ := (tells_handle currency h hn).inserts_of_mem hm
    exact hins p hid hp
  | error f =>
    rw [(told_of_unheard h hn).2] at hm
    cases hm

/-- How a call ends that puts a payment on record. -/
theorem result_of_inserts (h : ∀ t, w.store.ledger.Holds t (held t))
    (hins : Inserts w (handle currency e w).2 i p) :
    (handle currency e w).1 = match w.platform.permit .notify with
      | .ok () => .ok (.created p)
      | .error f => .error (.notify f) := by
  obtain ⟨hs, hp, hi⟩ := (inserts_handle_iff currency h).1 hins
  rw [handle_of_first (hs ▸ h p.id) hp hi]
  cases hn : w.platform.permit .notify with
  | ok u => rw [announce_of_heard (w := w.withPayment i p) hn]
  | error f => rw [announce_of_unheard (w := w.withPayment i p) hn]

/-! ## §2. Makers. -/

variable {c : Call} {cs before after : List Call}

/-- The last call of a run is handled in the world in which it was `met`. -/
theorem run_concat (currency : Currency) (cs : List Call) (c : Call) (w : World) :
    (run currency (cs ++ [c]) w).2 = (handle currency c.event (met currency cs w c)).2 :=
  run_append currency cs [c] w

/-- The maker of a payment is the call that puts it on record. -/
theorem makes_iff (hw : w.store.ledger = .empty) : Makes currency w cs c i t ↔
    ∃ p, p.id = t ∧ Inserts (met currency cs w c)
      (handle currency c.event (met currency cs w c)).2 i p := by
  have hafter : ledgerAfter currency (cs ++ [c]) w
      = (handle currency c.event (met currency cs w c)).2.store.ledger :=
    congrArg (·.store.ledger) (run_concat currency cs c w)
  unfold Makes Inserts
  rw [hafter]
  constructor
  · rintro ⟨hnone, p, hp⟩
    -- the ledger after the call says what payment it is, and under which id
    have hheld := holds_run currency (cs ++ [c]) (holds_of_empty hw) t
    rw [hafter] at hheld
    rw [hheld.eq_some_of_get hp] at hheld
    have hid : p.id = t := hheld.1
    subst hid
    exact ⟨p, rfl, hnone, hp⟩
  · rintro ⟨p, rfl, hnone, hp⟩
    exact ⟨hnone, p, hp⟩

/-- What is on record at some moment of a run is on record from then on. -/
theorem on_record_run (hw : w.store.ledger = .empty) (before after : List Call)
    (hp : ∃ p, (ledgerAfter currency before w).get i t = .ok (some p)) :
    ∃ p, (ledgerAfter currency (before ++ after) w).get i t = .ok (some p) := by
  induction after using List.reverseRecOn with
  | nil => rwa [List.append_nil]
  | append_singleton after d ih =>
    obtain ⟨q, hq⟩ := ih
    rw [← List.append_assoc]
    unfold ledgerAfter
    rw [run_concat]
    exact on_record_of_on_record (w := met currency (before ++ after) w d) currency
      (holds_run currency (before ++ after) (holds_of_empty hw)) hq

/-- A call makes no payment that is on record. -/
theorem not_inserts_of_on_record
    (hp : ∃ p, (ledgerAfter currency cs w).get i t = .ok (some p)) (q : Payment) (hq : q.id = t) :
    ¬ Inserts (met currency cs w c) (handle currency c.event (met currency cs w c)).2 i q := by
  obtain ⟨p, hp⟩ := hp
  rintro ⟨hnone, _⟩
  rw [hq] at hnone
  cases hp.symm.trans hnone

/-! ## §3. Runs. -/

/-- The announcements of a run are those of the calls that made the payments on
record, as far as these were heard. -/
structure FollowsMakers (currency : Currency) (w : World) (cs : List Call) : Prop where
  still : StillTold w (run currency cs w).2
  maker : ∀ i t p, (ledgerAfter currency cs w).get i t = .ok (some p) →
    ∃ before c after, cs = before ++ c :: after ∧ Makes currency w before c i t
  /-- Whatever is delivered later, it is announced by its maker or never. -/
  count_eq : ∀ before c after i t, cs = before ++ c :: after → Makes currency w before c i t →
    (told w (run currency cs w).2).count (.paymentReceived i t) = if c.Heard then 1 else 0
  on_record : ∀ i t, .paymentReceived i t ∈ told w (run currency cs w).2 →
    ∃ p, (ledgerAfter currency cs w).get i t = .ok (some p)

/-- Before any call nobody has made a record. -/
theorem followsMakers_nil (hw : w.store.ledger = .empty) : FollowsMakers currency w [] where
  still := stillTold_self w
  maker i t p h := by
    have hl : ledgerAfter currency [] w = .empty := hw
    rw [hl] at h
    cases h
  count_eq before c after i t h := by simp at h
  on_record i t h := by
    have hnone : told w (run currency [] w).2 = [] := told_self w
    rw [hnone] at h
    cases h

/-- **One more call keeps it so.** -/
theorem FollowsMakers.concat (hw : w.store.ledger = .empty) (hcs : FollowsMakers currency w cs)
    (c : Call) : FollowsMakers currency w (cs ++ [c]) := by
  have hheld := holds_run currency cs (holds_of_empty hw)
  have hcall : StillTold (run currency cs w).2 (run currency (cs ++ [c]) w).2 := by
    rw [run_concat]
    exact stillTold_handle (w := met currency cs w c) currency c.event hheld
  -- what the platform was told splits into what it was told before and in the call
  obtain ⟨hstill, htold⟩ := told_trans hcs.still hcall
  have hstays : ∀ i t, (∃ p, (ledgerAfter currency cs w).get i t = .ok (some p)) →
      ∃ p, (ledgerAfter currency (cs ++ [c]) w).get i t = .ok (some p) :=
    fun i t => on_record_run hw cs [c]
  rw [run_concat] at htold
  have hquiet : ∀ i t, (∀ p, p.id = t → ¬ Inserts (met currency cs w c)
        (handle currency c.event (met currency cs w c)).2 i p) →
      (told (run currency cs w).2 (handle currency c.event (met currency cs w c)).2).count
        (.paymentReceived i t) = 0 :=
    fun i t => count_told_of_not_inserts (w := met currency cs w c) hheld
  refine ⟨hstill, fun i t p hp => ?_, fun before d after i t hsplit hmakes => ?_,
    fun i t hm => ?_⟩
  · unfold ledgerAfter at hp
    rw [run_concat] at hp
    rcases inserts_or_on_record (w := met currency cs w c) currency hheld hp with
      ⟨q, hq⟩ | ⟨hid, hins⟩
    · obtain ⟨before, d, after, rfl, hmakes⟩ := hcs.maker i t q hq
      exact ⟨before, d, after ++ [c], by simp, hmakes⟩
    · exact ⟨cs, c, [], rfl, (makes_iff hw).2 ⟨p, hid, hins⟩⟩
  · rw [run_concat, htold, List.count_append]
    rcases List.eq_nil_or_concat after with rfl | ⟨after, d', rfl⟩
    · -- the call makes the payment, which nobody was told about before
      obtain ⟨rfl, hd⟩ := List.append_inj' hsplit rfl
      obtain rfl : c = d := List.head_eq_of_cons_eq hd
      have hnone : .paymentReceived i t ∉ told w (run currency cs w).2 := by
        intro hm
        obtain ⟨q, hq⟩ := hcs.on_record i t hm
        cases hq.symm.trans hmakes.1
      obtain ⟨p, rfl, hins⟩ := (makes_iff hw).1 hmakes
      rw [List.count_eq_zero_of_not_mem hnone, Nat.zero_add]
      exact count_told_of_inserts (w := met currency cs w c) hheld hins
    · -- it was made before, and the call finds it on record
      have hsplit' : cs ++ [c] = (before ++ d :: after) ++ [d'] := by simpa using hsplit
      obtain ⟨rfl, _⟩ := List.append_inj' hsplit' rfl
      have hbefore : ∃ p, (ledgerAfter currency (before ++ d :: after) w).get i t
          = .ok (some p) := by
        have hlater := on_record_run hw (before ++ [d]) after hmakes.2
        rwa [List.append_assoc] at hlater
      rw [hcs.count_eq before d after i t rfl hmakes,
        hquiet i t (not_inserts_of_on_record hbefore), Nat.add_zero]
  · rw [run_concat, htold, List.mem_append] at hm
    rcases hm with hm | hm
    · exact hstays i t (hcs.on_record i t hm)
    · -- what the call announces, it makes
      by_contra hnone
      refine absurd hm (List.count_eq_zero.1 (hquiet i t fun p hid hins => hnone ?_))
      exact ((makes_iff hw).2 ⟨p, hid, hins⟩).2

/-- **Along every run** what was told follows from who made the records: by induction at the
end. -/
theorem followsMakers_run (hw : w.store.ledger = .empty) (cs : List Call) :
    FollowsMakers currency w cs := by
  induction cs using List.reverseRecOn with
  | nil => exact followsMakers_nil hw
  | append_singleton cs c ih => exact ih.concat hw c

/-- **WHICH PAYMENTS ARE ANNOUNCED**, in any run from an empty ledger in which
the platform may refuse any calls anything.  Every payment on record was made
by a call.  If the platform heard that call, it ended with the payment created,
and the payment is announced once in the whole run; if not, it ended with the
refusal, and the payment is never announced, however its later events are
handled.  Nothing else is announced, and no announcement is taken back. -/
theorem announced_iff_maker_heard (currency : Currency) (cs : List Call) (w : World)
    (hw : w.store.ledger = .empty) :
    StillTold w (run currency cs w).2
    ∧ (∀ i t p, (ledgerAfter currency cs w).get i t = .ok (some p) →
      ∃ before c after, cs = before ++ c :: after ∧ Makes currency w before c i t)
    ∧ (∀ before c after i t, cs = before ++ c :: after → Makes currency w before c i t →
      (told w (run currency cs w).2).count (.paymentReceived i t) = (if c.Heard then 1 else 0)
      ∧ match c.platform.permit .notify with
        | .ok () => ∃ p, p.id = t ∧ (c.run currency (run currency before w).2).1 = .ok (.created p)
        | .error f => (c.run currency (run currency before w).2).1 = .error (.notify f))
    ∧ ∀ i t, .paymentReceived i t ∈ told w (run currency cs w).2 →
      ∃ p, (ledgerAfter currency cs w).get i t = .ok (some p) := by
  -- the count of announcements is the invariant; what the making call itself answers is added
  have hrun : FollowsMakers currency w cs := followsMakers_run hw cs
  refine ⟨hrun.still, hrun.maker, fun before c after i t hsplit hmakes =>
    ⟨hrun.count_eq before c after i t hsplit hmakes, ?_⟩, hrun.on_record⟩
  obtain ⟨p, hid, hins⟩ := (makes_iff hw).1 hmakes
  have hresult := result_of_inserts (w := met currency before w c)
    (holds_run currency before (holds_of_empty hw)) hins
  have hpermit : (met currency before w c).platform.permit .notify
    = c.platform.permit .notify := rfl
  rw [hpermit] at hresult
  cases hn : c.platform.permit .notify with
  | ok u =>
    rw [hn] at hresult
    exact ⟨p, hid, hresult⟩
  | error f =>
    rw [hn] at hresult
    exact hresult

/-! ## §4. A payment that is never announced. -/

/-- The last event about a lockup transaction was handled well: its payment was
created or updated. -/
def LastHandled (currency : Currency) (w : World) (cs : List Call) (t : String) : Prop :=
  ∃ before c after p, cs = before ++ c :: after ∧ c.event.lockupTx = some t
    ∧ (∀ d ∈ after, d.event.lockupTx ≠ some t)
    ∧ ((c.run currency (run currency before w).2).1 = .ok (.created p)
      ∨ (c.run currency (run currency before w).2).1 = .ok (.updated p))

/-- A lockup that is reported while the platform does not listen, and again
when it does. -/
def retried : List Call :=
  let shop := Sample.invoices [Sample.invoice "inv" "A"]
  [{ event := Sample.lockup "swap-1" "A" "tx-1", invoices := shop
     refusals := [(.notify, "down")] },
   { event := Sample.lockup "swap-1" "A" "tx-1", invoices := shop }]

/-- The payment of the lockup. -/
def retriedPayment : Payment where
  id := "tx-1"
  status := .processing
  amount := ⟨10000, 8, Sample.lockup_amount_lt, Sample.satDecimals_le⟩
  currency := "BTC"
  details := ⟨"swap-1", "tx-1", none, none⟩

/-- In the example the first delivery makes the record, unheard. -/
theorem makes_retried :
    Makes .bitcoin Sample.world [] (retried[0]) "inv" "tx-1" :=
  ⟨rfl, retriedPayment, by decide +kernel⟩

/-- The first report fails, and the payment is announced in neither. -/
theorem announced_retried :
    Sample.world.store.ledger = .empty
    ∧ (told Sample.world (run .bitcoin retried Sample.world).2).count
        (.paymentReceived "inv" "tx-1") = 0
    ∧ ((retried[0]).run .bitcoin Sample.world).1 = .error (.notify (.refused "down")) := by
  obtain ⟨_, _, hmade, _⟩ := announced_iff_maker_heard .bitcoin retried Sample.world rfl
  obtain ⟨hcount, hresult⟩ := hmade [] (retried[0]) [retried[1]] "inv" "tx-1" rfl makes_retried
  exact ⟨rfl, hcount, hresult⟩

/-- **A payment stays unannounced** though its last event was handled well. -/
theorem unannounced_retried :
    Sample.world.store.ledger = .empty
    ∧ (ledgerAfter .bitcoin retried Sample.world).get "inv" "tx-1" = .ok (some retriedPayment)
    ∧ LastHandled .bitcoin Sample.world retried "tx-1"
    ∧ ¬ (told Sample.world (run .bitcoin retried Sample.world).2).count
        (.paymentReceived "inv" "tx-1") = 1 := by
  refine ⟨rfl, by decide +kernel, ⟨[retried[0]], retried[1], [], retriedPayment, rfl, rfl,
    by simp, .inr ?_⟩, by decide +kernel⟩
  decide +kernel

end SwapBridge.Reconciler
