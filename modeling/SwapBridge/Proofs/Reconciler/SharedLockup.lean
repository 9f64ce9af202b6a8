/-
  SwapBridge.Proofs.Reconciler.SharedLockup
  ─────────────────────────────────────────
  **SWAPS THAT SHARE A LOCKUP TRANSACTION.**

  A payment is found by its lockup transaction alone.  One transaction can pay
  the lockup addresses of two swaps, and then the events of the second swap
  are taken for news of the first: they rewrite its payment, and the invoice
  of the second swap never gets one.

    • `Makes`, `Rewrites` — what a call of a run does to a payment on record,
    • `KeepsToSwaps` — no payment is rewritten for a swap it was not made for,
    • `keepsToSwaps_iff` — so it is exactly if every history is of one swap.
-/
import Mathlib.Data.List.Induction
import SwapBridge.Proofs.Reconciler.History

namespace SwapBridge.Reconciler

variable {currency : Currency} {w : World} {t i : String} {c : Call} {cs before : List Call}

/-! ## §1. Histories of longer runs. -/

/-- What a payment id holds after the calls of a run. -/
def heldAfter (currency : Currency) (t : String) (cs : List Call) : Option (String × Payment) :=
  cs.foldl (Call.follow currency t) none

theorem heldAfter_concat (currency : Currency) (t : String) (cs : List Call) (c : Call) :
    heldAfter currency t (cs ++ [c]) = c.follow currency t (heldAfter currency t cs) := by
  unfold heldAfter
  rw [List.foldl_append]
  rfl

/-- What is read under an invoice after a run. -/
theorem get_ledgerAfter (hw : w.store.ledger = .empty) (cs : List Call) (i t : String) :
    (ledgerAfter currency cs w).get i t
      = .ok ((heldAfter currency t cs).bind fun (k, p) => if i = k then some p else none) :=
  (holds_run_empty currency cs hw t).get_eq i

/-- A history goes on with all calls that bear on the transaction. -/
theorem history_append (currency : Currency) (t : String) (cs ds : List Call) :
    history currency t (cs ++ ds) =
      if history currency t cs = [] then history currency t ds
      else history currency t cs ++ ds.filter (Call.bearsOn currency t) := by
  unfold history
  rw [List.filter_append, List.dropWhile_append]
  simp only [List.isEmpty_iff]

theorem mem_of_mem_history (h : c ∈ history currency t cs) : c ∈ cs :=
  (List.mem_filter.1 ((List.dropWhile_sublist _).subset h)).1

/-- A history of one call. -/
theorem history_single (hb : c.bearsOn currency t = true) (hi : c.shown? = some i) :
    history currency t [c] = [c] := by
  unfold history
  rw [List.filter_cons_of_pos hb, List.dropWhile_cons_of_neg (by simp [hi])]
  rfl

theorem bearsOn_of_mem_history (h : c ∈ history currency t cs) : c.bearsOn currency t = true :=
  (List.mem_filter.1 ((List.dropWhile_sublist _).subset h)).2

/-- The call that a history begins with. -/
theorem split_of_history {first : Call} {rest : List Call}
    (h : history currency t cs = first :: rest) :
    ∃ before between, cs = before ++ first :: between ∧ history currency t before = []
      ∧ first.bearsOn currency t = true := by
  -- from the right: a history that has begun keeps its first call
  induction cs using List.reverseRecOn generalizing rest with
  | nil => exact absurd h (by simp [history])
  | append_singleton cs c ih =>
    rw [history_append] at h
    cases hh : history currency t cs with
    | nil =>
      rw [if_pos hh] at h
      have hmem : first ∈ history currency t [c] := h ▸ List.mem_cons_self
      have hc : first = c := by simpa using mem_of_mem_history hmem
      exact ⟨cs, [], by rw [hc], hh, bearsOn_of_mem_history hmem⟩
    | cons x xs =>
      rw [if_neg (by rw [hh]; simp), hh] at h
      injection h with hx _
      subst hx
      obtain ⟨before, between, rfl, hbefore, hfirst⟩ := ih hh
      exact ⟨before, between ++ [c], by simp, hbefore, hfirst⟩

/-- Nothing is held exactly as long as there is no history. -/
theorem heldAfter_eq_none : heldAfter currency t cs = none ↔ history currency t cs = [] := by
  obtain ⟨hnil, hcons⟩ := held_of_history currency t cs
  refine ⟨fun h => ?_, hnil⟩
  cases hh : history currency t cs with
  | nil => rfl
  | cons first rest =>
    obtain ⟨i, p, _, hp, _⟩ := hcons first rest hh
    exact absurd (h.symm.trans hp) (by simp)

/-! ## §2. Makers and rewriters. -/

/-- After the calls before it, a call puts a payment on record. -/
def Makes (currency : Currency) (w : World) (before : List Call) (c : Call) (i t : String) : Prop :=
  (ledgerAfter currency before w).get i t = .ok none
  ∧ ∃ p, (ledgerAfter currency (before ++ [c]) w).get i t = .ok (some p)

/-- After the calls before it, a call changes a payment that is on record. -/
def Rewrites (currency : Currency) (w : World) (before : List Call) (c : Call) (i t : String) :
    Prop :=
  ∃ p q, (ledgerAfter currency before w).get i t = .ok (some p)
    ∧ (ledgerAfter currency (before ++ [c]) w).get i t = .ok (some q) ∧ q ≠ p

/-- No payment is rewritten by an event of a swap that it was not made for. -/
def KeepsToSwaps (currency : Currency) (w : World) (cs : List Call) : Prop :=
  ∀ before maker between c after i t, cs = before ++ maker :: (between ++ c :: after) →
    Makes currency w before maker i t →
    Rewrites currency w (before ++ maker :: between) c i t → c.event.id = maker.event.id

/-- The maker of a payment begins the history of its transaction. -/
theorem Makes.history_eq (hw : w.store.ledger = .empty)
    (h : Makes currency w before c i t) : history currency t (before ++ [c]) = [c] := by
  obtain ⟨hnone, p, hsome⟩ := h
  rw [get_ledgerAfter hw] at hnone
  rw [get_ledgerAfter hw, heldAfter_concat] at hsome
  injection hnone with hnone
  injection hsome with hsome
  cases hb : c.bearsOn currency t with
  | false =>
    rw [follow_of_not_bearsOn hb, hnone] at hsome
    exact absurd hsome (by simp)
  | true =>
    obtain ⟨q, hq⟩ := paymentFor?_of_bearsOn hb
    cases hheld : heldAfter currency t before with
    | some entry =>
      obtain ⟨k, r⟩ := entry
      -- the payment would stay under the invoice that has it already
      rw [hheld] at hnone hsome
      rw [Call.follow_held hq] at hsome
      simp only [Option.bind_some] at hnone hsome
      by_cases hik : i = k <;> simp [hik] at hnone hsome
    | none =>
      rw [hheld, Call.follow_free hq] at hsome
      cases hi : c.shown? with
      | none =>
        rw [hi] at hsome
        exact absurd hsome (by simp)
      | some k =>
        rw [history_append, if_pos (heldAfter_eq_none.1 hheld)]
        exact history_single hb hi

/-- A call that rewrites a payment bears on its transaction. -/
theorem Rewrites.bearsOn (hw : w.store.ledger = .empty)
    (h : Rewrites currency w before c i t) : c.bearsOn currency t = true := by
  obtain ⟨p, q, hp, hq, hne⟩ := h
  cases hb : c.bearsOn currency t with
  | true => rfl
  | false =>
    rw [get_ledgerAfter hw, heldAfter_concat, follow_of_not_bearsOn hb] at hq
    rw [get_ledgerAfter hw, hq] at hp
    injection hp with hp
    injection hp with hp
    exact absurd hp hne

/-- The call that a history begins with makes the payment. -/
theorem makes_of_history {first : Call} {rest : List Call} (hw : w.store.ledger = .empty)
    (hh : history currency t cs = first :: rest) (hi : first.shown? = some i) :
    ∃ before between, cs = before ++ first :: between ∧ Makes currency w before first i t := by
  obtain ⟨before, between, hsplit, hbefore, hfirst⟩ := split_of_history hh
  obtain ⟨q, hq⟩ := paymentFor?_of_bearsOn hfirst
  have hnone := heldAfter_eq_none.2 hbefore
  refine ⟨before, between, hsplit, ?_, q, ?_⟩
  · rw [get_ledgerAfter hw, hnone]
    rfl
  · rw [get_ledgerAfter hw, heldAfter_concat, hnone, Call.follow_free hq, hi]
    simp

/-- An event of another swap than the one that is noted changes the payment. -/
theorem rewrites_of_history {first : Call} {rest : List Call} (hw : w.store.ledger = .empty)
    (hh : history currency t before = first :: rest) (hb : c.bearsOn currency t = true)
    (hne : ∀ d ∈ history currency t before, d.event.id ≠ c.event.id) :
    ∃ i, first.shown? = some i ∧ Rewrites currency w before c i t := by
  obtain ⟨i, p, hi, hheld, hacc⟩ := (held_of_history currency t before).2 first rest hh
  obtain ⟨q, hq⟩ := paymentFor?_of_bearsOn hb
  have hheld : heldAfter currency t before = some (i, p) := hheld
  refine ⟨i, hi, p, merge p q, ?_, ?_, ?_⟩
  · rw [get_ledgerAfter hw, hheld]
    simp
  · rw [get_ledgerAfter hw, heldAfter_concat, hheld, Call.follow_held hq]
    simp
  · intro heq
    obtain ⟨e, he, hswap, _⟩ := hacc.last_eq
    obtain ⟨d, hd, rfl⟩ := List.mem_map.1 (List.mem_of_getLast? he)
    -- the merged record names the last swap, which the held one did not
    have hid : (merge p q).details.swapId = c.event.id := by
      obtain ⟨_, _, _, _, _, _, _, rfl⟩ := paymentFor?_eq_some hq
      rfl
    rw [heq, hswap] at hid
    exact hne d (hh ▸ hd) hid

/-! ## §3. One swap for each transaction. -/

/-- Of two calls of a run the second one is behind the first in a prefix. -/
theorem KeepsToSwaps.of_concat (h : KeepsToSwaps currency w (cs ++ [c])) :
    KeepsToSwaps currency w cs := by
  intro before maker between d after i t hsplit hmakes hrewrites
  refine h before maker between d (after ++ [c]) i t ?_ hmakes hrewrites
  rw [hsplit]
  simp

/-- In a run that keeps to its swaps, the last call is of the swap that all
calls of its history before it were of. -/
theorem KeepsToSwaps.event_id_last {first : Call} {rest : List Call}
    (hw : w.store.ledger = .empty) (hkeeps : KeepsToSwaps currency w (cs ++ [c]))
    (hh : history currency t cs = first :: rest)
    (hone : ∀ d ∈ history currency t cs, d.event.id = first.event.id)
    (hb : c.bearsOn currency t = true) : c.event.id = first.event.id := by
  by_contra hne
  have hother : ∀ d ∈ history currency t cs, d.event.id ≠ c.event.id := by
    intro d hd heq
    exact hne (heq.symm.trans (hone d hd))
  obtain ⟨i, hi, hrewrites⟩ := rewrites_of_history hw hh hb hother
  obtain ⟨before, between, hsplit, hmakes⟩ := makes_of_history hw hh hi
  subst hsplit
  exact hne (hkeeps before first between c [] i t (by simp) hmakes hrewrites)

/-- A run that keeps to its swaps has histories of one swap each. -/
theorem KeepsToSwaps.event_id_eq (hw : w.store.ledger = .empty) (t : String) :
    ∀ {cs : List Call}, KeepsToSwaps currency w cs →
      ∀ c ∈ history currency t cs, ∀ d ∈ history currency t cs, c.event.id = d.event.id := by
  intro cs
  -- from the right, as `KeepsToSwaps` speaks of the last call after those before it
  induction cs using List.reverseRecOn with
  | nil => exact fun _ c hc => absurd hc (by simp [history])
  | append_singleton cs c ih =>
    intro hkeeps
    have ih := ih hkeeps.of_concat
    cases hh : history currency t cs with
    | nil =>
      have hone : ∀ d ∈ history currency t (cs ++ [c]), d = c := by
        rw [history_append, if_pos hh]
        exact fun d hd => by simpa using mem_of_mem_history hd
      intro d hd e he
      rw [hone d hd, hone e he]
    | cons first rest =>
      have hfirst : first ∈ history currency t cs := hh ▸ List.mem_cons_self
      -- all events so far are of the first one's swap, so the new one is as well
      have hone := fun d hd => ih d hd first hfirst
      have hall : ∀ d ∈ history currency t (cs ++ [c]), d.event.id = first.event.id := by
        intro d hd
        rw [history_append, if_neg (by rw [hh]; simp)] at hd
        rcases List.mem_append.1 hd with hd | hd
        · exact hone d hd
        · obtain ⟨hdc, hb⟩ := List.mem_filter.1 hd
          rw [List.mem_singleton.1 hdc] at hb ⊢
          exact hkeeps.event_id_last hw hh hone hb
      intro d hd e he
      rw [hall d hd, hall e he]

/-- **REWRITING ACROSS SWAPS**: in a run from an empty ledger no event of one
swap rewrites a payment made for another exactly if each history is of one
swap.  In any case a transaction is on record under one invoice alone, so that
of two invoices which it pays at the same time one gets no payment. -/
theorem keepsToSwaps_iff (currency : Currency) (cs : List Call) (w : World)
    (hw : w.store.ledger = .empty) :
    (KeepsToSwaps currency w cs ↔
      ∀ t, ∀ c ∈ history currency t cs, ∀ d ∈ history currency t cs, c.event.id = d.event.id)
    ∧ ∀ t i j p q, (ledgerAfter currency cs w).get i t = .ok (some p) →
      (ledgerAfter currency cs w).get j t = .ok (some q) → i = j := by
  refine ⟨⟨fun h t => h.event_id_eq hw t, fun h => ?_⟩, fun t i j p q hp hq => ?_⟩
  · intro before maker between c after i t hsplit hmakes hrewrites
    have hmaker := hmakes.history_eq hw
    have hc := hrewrites.bearsOn hw
    -- the history begins with the maker, and everything that bears on it follows
    have hh : history currency t cs
        = maker :: ((between ++ c :: after).filter (Call.bearsOn currency t)) := by
      rw [hsplit, List.append_cons, history_append, hmaker]
      rfl
    refine h t c ?_ maker (hh ▸ List.mem_cons_self)
    rw [hh]
    exact List.mem_cons_of_mem _ (List.mem_filter.2 ⟨by simp, hc⟩)
  · have hl := holds_run_empty currency cs hw t
    have := (hl.eq_some_of_get hp).symm.trans (hl.eq_some_of_get hq)
    injection this with this
    injection this with hij _

theorem keepsToSwaps_movingPrompt :
    Sample.world.store.ledger = .empty
    ∧ KeepsToSwaps .bitcoin Sample.world movingPrompt := by
  have hid : ∀ c ∈ movingPrompt, c.event.id = "swap-1" := by decide
  refine ⟨rfl, (keepsToSwaps_iff .bitcoin movingPrompt Sample.world rfl).1.2 ?_⟩
  intro t c hc d hd
  rw [hid c (mem_of_mem_history hc), hid d (mem_of_mem_history hd)]

/-- Two invoices whose addresses are paid by one transaction. -/
def sharedLockup : List Call :=
  let shop := Sample.invoices [Sample.invoice "inv-1" "A", Sample.invoice "inv-2" "B"]
  [{ event := Sample.lockup "swap-1" "A" "tx-1", invoices := shop },
   { event := { Sample.lockup "swap-2" "B" "tx-1" with amount := 20000 }, invoices := shop }]

/-- The payment of the transaction, as made by a swap. -/
def sharedPayment (swap : String) (amount : Amount) : Payment where
  id := "tx-1"
  status := .processing
  amount := amount
  currency := "BTC"
  details := ⟨swap, "tx-1", none, none⟩

/-- The second swap rewrites the payment of the first, and its own invoice is
left without one. -/
theorem not_keepsToSwaps_sharedLockup :
    ¬ KeepsToSwaps .bitcoin Sample.world sharedLockup
    ∧ (ledgerAfter .bitcoin sharedLockup Sample.world).get "inv-2" "tx-1" = .ok none := by
  refine ⟨fun h => ?_, by decide +kernel⟩
  have hmakes : Makes .bitcoin Sample.world [] (sharedLockup[0]) "inv-1" "tx-1" :=
    ⟨by decide +kernel, sharedPayment "swap-1" ⟨10000, 8, by decide, by decide⟩, by decide +kernel⟩
  have hrewrites : Rewrites .bitcoin Sample.world [sharedLockup[0]] (sharedLockup[1])
      "inv-1" "tx-1" :=
    ⟨sharedPayment "swap-1" ⟨10000, 8, by decide, by decide⟩,
      sharedPayment "swap-2" ⟨20000, 8, by decide, by decide⟩,
      by decide +kernel, by decide +kernel, by decide +kernel⟩
  exact absurd (h [] (sharedLockup[0]) [] (sharedLockup[1]) [] "inv-1" "tx-1" rfl hmakes hrewrites)
    (by decide)

end SwapBridge.Reconciler
