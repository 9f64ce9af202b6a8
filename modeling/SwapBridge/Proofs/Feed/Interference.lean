/-
  SwapBridge.Proofs.Feed.Interference
  ───────────────────────────────────
  **LISTENERS DO NOT INTERFERE.**

  As long as nobody is too far behind, each listener is given all events in
  their order, settlement keeps the books as if it were alone, and so does the
  rotation with what it works on.  A turn that fails costs its event alone.

    • `exists_turns_isSettled` — listeners can catch up from anywhere,
    • `exists_run_receive` — what the feed makes of messages is a run that keeps up,
    • `listeners_do_not_interfere` — what any run comes to.
-/
import SwapBridge.Proofs.Feed.Moves
import SwapBridge.Proofs.Sample

namespace SwapBridge.Feed

open Listener

variable {currency : Currency} {m : Move} {ms : List Move} {f : Feed} {w : World}
  {s : Feed × World} {k : Nat} {refusals : List (Platform.Method × String)}

/-! ## §1. Catching up. -/

/-- A turn of some listener, while the platform refuses some methods. -/
def Move.IsTurn (refusals : List (Platform.Method × String)) (m : Move) : Prop :=
  ∃ k, m = .turn k refusals

/-- What the platform refuses is no matter of the listeners. -/
theorem refusals_act (kind : Kind) (currency : Currency) (e : Swap.Event) (w : World) :
    (kind.act currency e w).platform.refusals = w.platform.refusals := by
  cases kind with
  | settlement => exact (Reconciler.seen_handle currency e w).refusals
  | rotation => exact (Rotation.sameBooks_handle e w).2
  | recorder => rfl
  | failing => rfl
  | crashing => rfl
  | log => rfl

theorem refusals_takeTurn (l : Listener) (currency : Currency) (w : World) :
    (l.takeTurn currency w).2.platform.refusals = w.platform.refusals := by
  unfold takeTurn
  cases l.mailbox.items with
  | nil => rfl
  | cons e rest => exact refusals_act l.kind currency e w

theorem refusals_takeTurns (currency : Currency) (ls : List Listener) (w : World) :
    (takeTurns currency ls w).2.platform.refusals = w.platform.refusals := by
  induction ls generalizing w with
  | nil => rfl
  | cons l ls ih => exact (ih _).trans (refusals_takeTurn l currency w)

/-- Nor is it a matter of any rounds of turns. -/
theorem refusals_takeRounds (currency : Currency) (n : Nat) (ls : List Listener) (w : World) :
    (takeRounds currency n ls w).2.platform.refusals = w.platform.refusals := by
  induction n generalizing ls w with
  | zero => rfl
  | succ n ih => exact (ih _ _).trans (refusals_takeTurns currency ls w)

/-- A round is one turn after the other, from the first listener to the last. -/
theorem run_turns (currency : Currency) (f : Feed) (done ls : List Listener)
    (hw : w.platform.refusals = refusals) :
    run currency ((List.range' done.length ls.length).map (.turn · refusals))
        ({ f with listeners := done ++ ls }, w)
      = ({ f with listeners := done ++ (takeTurns currency ls w).1 },
          (takeTurns currency ls w).2) := by
  -- positions are counted over the listeners whose turn is over and those to come
  induction ls generalizing done w with
  | nil => rfl
  | cons l ls ih =>
    have hsame : w.refusing refusals = w := by rw [← hw]; rfl
    have hmove : Move.apply currency (.turn done.length refusals)
        { f with listeners := done ++ l :: ls } w
        = ({ f with listeners := (done ++ [(l.takeTurn currency w).1]) ++ ls },
            (l.takeTurn currency w).2) := by
      show Move.work currency done.length _ (w.refusing refusals) = _
      unfold Move.work
      rw [hsame]
      simp
    have hrest := ih (done ++ [(l.takeTurn currency w).1])
      ((refusals_takeTurn l currency w).trans hw)
    rw [List.length_append, List.length_singleton] at hrest
    rw [List.length_cons, List.range'_succ, List.map_cons]
    show run currency _ (Move.apply currency (.turn done.length refusals) _ w) = _
    rw [hmove, hrest, List.append_assoc]
    rfl

/-- Rounds are turns of the listeners. -/
theorem exists_run_takeRounds (currency : Currency) (n : Nat) (f : Feed)
    (hw : w.platform.refusals = refusals) :
    ∃ ms, (∀ m ∈ ms, Move.IsTurn refusals m)
      ∧ run currency ms (f, w)
        = ({ f with listeners := (takeRounds currency n f.listeners w).1 },
            (takeRounds currency n f.listeners w).2) := by
  induction n generalizing f w with
  | zero => exact ⟨[], fun m hm => absurd hm List.not_mem_nil, rfl⟩
  | succ n ih =>
    -- the first round comes first: the others start from what it leaves
    obtain ⟨ms, hms, hrun⟩ := ih { f with listeners := (takeTurns currency f.listeners w).1 }
      ((refusals_takeTurns currency f.listeners w).trans hw)
    refine ⟨(List.range' 0 f.listeners.length).map (.turn · refusals) ++ ms, fun m hm => ?_, ?_⟩
    · rcases List.mem_append.1 hm with hm | hm
      · obtain ⟨k, _, rfl⟩ := List.mem_map.1 hm
        exact ⟨k, rfl⟩
      · exact hms m hm
    · have hround := run_turns currency f [] f.listeners hw
      rw [run_append]
      exact (congrArg (run currency ms) hround).trans hrun

/-- **Listeners that work until all mail is handled take turns.** -/
theorem exists_run_settle (currency : Currency) (f : Feed) (hw : w.platform.refusals = refusals) :
    ∃ ms, (∀ m ∈ ms, Move.IsTurn refusals m)
      ∧ run currency ms (f, w) = f.settle currency w :=
  exists_run_takeRounds currency f.backlog f hw

/-- Only messages deliver events. -/
theorem delivered_of_turns {ns : List Move} (h : ∀ m ∈ ns, Move.IsTurn refusals m)
    (s : Feed × World) : delivered currency ns s = [] := by
  induction ns generalizing s with
  | nil => rfl
  | cons m ns ih =>
    obtain ⟨k, rfl⟩ := h m List.mem_cons_self
    exact ih (fun m hm => h m (List.mem_cons_of_mem _ hm)) _

/-- Turns deliver nothing. -/
theorem delivered_append_turns {ns : List Move} (hns : ∀ m ∈ ns, Move.IsTurn refusals m)
    (ms : List Move) (s : Feed × World) :
    delivered currency (ms ++ ns) s = delivered currency ms s := by
  unfold delivered
  rw [gather_append]
  exact (congrArg _ (delivered_of_turns hns _)).trans (List.append_nil _)

/-- Turns do not put anybody behind. -/
theorem KeepsUp.append_turns {ns : List Move} (h : KeepsUp currency ms s)
    (hns : ∀ m ∈ ns, Move.IsTurn refusals m) : KeepsUp currency (ms ++ ns) s := by
  intro before after hsplit k hk
  rcases List.append_eq_append_iff.1 hsplit with ⟨more, rfl, rfl⟩ | ⟨more, rfl, _⟩
  · -- amid the turns as much is delivered as before them, and no less is handled
    have hmore : ∀ m ∈ more, Move.IsTurn refusals m :=
      fun m hm => hns m (List.mem_append_left _ hm)
    have hnow := h ms [] (List.append_nil _).symm k hk
    have hhandled : (handled currency k ms s).length
        ≤ (handled currency k (ms ++ more) s).length := by
      unfold handled
      rw [gather_append, List.length_append]
      exact Nat.le_add_right _ _
    rw [delivered_append_turns hmore]
    omega
  · exact h before more rfl k hk

/-- A listener that is there at the start is there at the end. -/
theorem exists_listener_run (currency : Currency) (ms : List Move) (w : World)
    (hk : k < f.listeners.length) :
    ∃ l, (run currency ms (f, w)).1.listeners[k]? = some l := by
  have hkind := kindAt_run currency ms (f, w) k
  unfold kindAt at hkind
  rw [List.getElem?_eq_getElem hk] at hkind
  obtain ⟨l, hl, _⟩ := Option.map_eq_some_iff.1 hkind
  exact ⟨l, hl⟩

/-- When all mail is handled, each listener has taken exactly what was delivered. -/
theorem handled_of_isSettled (hf : f.IsSettled) (hroom : KeepsUp currency ms (f, w))
    (hdone : (run currency ms (f, w)).1.IsSettled) (hk : k < f.listeners.length) :
    (handled currency k ms (f, w)).map (·.event) = delivered currency ms (f, w) := by
  obtain ⟨l, hl⟩ := exists_listener_run currency ms w hk
  rw [mail_run hf hroom hl, hdone.items_eq hl, List.append_nil]

/-- From any moment on listeners can work until all mail is handled, whatever
the platform refuses from then on. -/
theorem exists_turns_isSettled (currency : Currency) (s : Feed × World)
    (refusals : List (Platform.Method × String)) :
    ∃ ns, (∀ m ∈ ns, Move.IsTurn refusals m) ∧ (run currency ns s).1.IsSettled := by
  -- the first turn of all is one with these refusals, so the others are too
  let first : Move := .turn 0 refusals
  have hrefusals : (first.apply currency s.1 s.2).2.platform.refusals = refusals := by
    show (Move.work currency 0 s.1 (s.2.refusing refusals)).2.platform.refusals = refusals
    unfold Move.work
    split
    · rfl
    · exact refusals_takeTurn _ currency (s.2.refusing refusals)
  obtain ⟨ns, hns, hrun⟩ := exists_run_settle currency (first.apply currency s.1 s.2).1 hrefusals
  refine ⟨first :: ns, fun m hm => ?_, ?_⟩
  · rcases List.mem_cons.1 hm with rfl | hm
    · exact ⟨0, rfl⟩
    · exact hns m hm
  · have hall : run currency (first :: ns) s
        = (first.apply currency s.1 s.2).1.settle currency (first.apply currency s.1 s.2).2 := hrun
    rw [hall]
    exact isSettled_settle currency _ _

/-! ## §2. The messages of a stream. -/

/-- A move adds at most one to what is gathered. -/
theorem length_gather_le {α : Type} (g : Move → Feed → Option α) (ms : List Move)
    (s : Feed × World) : (gather currency g ms s).length ≤ ms.length := by
  induction ms generalizing s with
  | nil => exact Nat.le_refl 0
  | cons m ms ih =>
    have hrest := ih (m.apply currency s.1 s.2)
    have hfirst : (g m s.1).toList.length ≤ 1 := by cases g m s.1 <;> simp
    show ((g m s.1).toList ++ gather currency g ms _).length ≤ _
    rw [List.length_append, List.length_cons]
    omega

/-- As many messages as a mailbox has room for put nobody behind. -/
theorem keepsUp_of_length_le (h : ms.length ≤ Mailbox.capacity) (s : Feed × World) :
    KeepsUp currency ms s := by
  rintro before after rfl k _
  have hbefore : (delivered currency before s).length ≤ before.length :=
    length_gather_le _ before s
  rw [List.length_append] at h
  omega

/-- One message leaves nobody behind. -/
theorem keepsUp_message (r : Swap.Report) (s : Feed × World) :
    KeepsUp currency [.message r] s := by
  refine keepsUp_of_length_le ?_ s
  rw [List.length_singleton]
  decide

/-- A run that keeps up until all mail is handled can be followed by another. -/
theorem KeepsUp.append {ns : List Move} (h : KeepsUp currency ms (f, w)) (hf : f.IsSettled)
    (hdone : (run currency ms (f, w)).1.IsSettled)
    (h' : KeepsUp currency ns (run currency ms (f, w))) : KeepsUp currency (ms ++ ns) (f, w) := by
  intro before after hsplit k hk
  rcases List.append_eq_append_iff.1 hsplit with ⟨more, rfl, hns⟩ | ⟨more, rfl, _⟩
  · -- where the second run starts, both counts are the same
    obtain ⟨l, hl⟩ := exists_listener_run currency ms w hk
    have hlater := h' more after hns k (List.getElem?_eq_some_iff.1 hl).1
    have hearlier := congrArg List.length (handled_of_isSettled hf h hdone hk)
    unfold delivered handled at *
    rw [gather_append, gather_append, List.length_append, List.length_append]
    rw [List.length_map] at hearlier
    omega
  · exact h before more rfl k hk

/-- Moves lead to `s'` and deliver `es`, and nobody is left behind on the way. -/
structure Happens (currency : Currency) (ms : List Move) (s : Feed × World)
    (es : List Swap.Event) (s' : Feed × World) : Prop where
  run_eq : run currency ms s = s'
  keepsUp : KeepsUp currency ms s
  delivered_eq : delivered currency ms s = es

/-- What happens is followed by what happens next, if all mail is handled in between. -/
theorem Happens.append {ns : List Move} {es es' : List Swap.Event} {s' s'' : Feed × World}
    (h : Happens currency ms (f, w) es s') (hf : f.IsSettled) (hdone : s'.1.IsSettled)
    (h' : Happens currency ns s' es' s'') :
    Happens currency (ms ++ ns) (f, w) (es ++ es') s'' := by
  obtain ⟨rfl, hroom, hdelivered⟩ := h
  refine ⟨(run_append currency ms ns _).trans h'.run_eq, hroom.append hf hdone h'.keepsUp, ?_⟩
  rw [← hdelivered, ← h'.delivered_eq]
  exact gather_append _ ms ns _

/-- A message without a swap changes nothing. -/
theorem happens_of_ofReport?_eq_none {r : Swap.Report} (he : Swap.Event.ofReport? r = none)
    (s : Feed × World) : Happens currency [.message r] s [] s := by
  have hbrings : Move.brings (.message r) s.1 = none := by
    unfold Move.brings
    simp [he]
  refine ⟨?_, keepsUp_message r s, ?_⟩
  · show Move.apply currency (.message r) s.1 s.2 = s
    unfold Move.apply
    simp only [hbrings]
  · show (Move.brings (.message r) s.1).toList ++ [] = []
    rw [hbrings]
    rfl

/-- A message whose event is handled before anything else happens. -/
theorem exists_happens_spread (hstream : f.stream = .streaming)
    {r : Swap.Report} {e : Swap.Event} (he : Swap.Event.ofReport? r = some e)
    (hw : w.platform.refusals = refusals) :
    ∃ ns, (∀ m ∈ ns, Move.IsTurn refusals m)
      ∧ Happens currency (.message r :: ns) (f, w) [e] (f.spread currency [e] w) := by
  -- an open stream brings the event; after it, turns until every mailbox is empty
  have hbrings : Move.brings (.message r) f = some e := by
    show (if f.stream = .streaming then Swap.Event.ofReport? r else none) = some e
    rw [if_pos hstream, he]
  have happly : Move.apply currency (.message r) f w = (f.publish [e], w) := by
    unfold Move.apply
    simp only [hbrings]
  obtain ⟨ns, hns, hrun⟩ := exists_run_settle currency (f.publish [e]) hw
  refine ⟨ns, hns, ?_, ?_, ?_⟩
  · exact (congrArg (run currency ns) happly).trans hrun
  · exact (keepsUp_message r (f, w)).append_turns hns
  · show (Move.brings (.message r) f).toList ++ delivered currency ns _ = [e]
    rw [hbrings, delivered_of_turns hns]
    rfl

/-- A message and the turns that it needs: the feed spreads the event it brings, if any. -/
theorem exists_happens_message (currency : Currency) (hstream : f.stream = .streaming)
    (r : Swap.Report) (hw : w.platform.refusals = refusals) :
    ∃ ns, (∀ m ∈ ns, Move.IsTurn refusals m)
      ∧ Happens currency (.message r :: ns) (f, w) (Swap.Event.ofReport? r).toList
        (f.spreadEach currency (Swap.Event.ofReport? r).toList w) := by
  cases he : Swap.Event.ofReport? r with
  | none => exact ⟨[], by simp, happens_of_ofReport?_eq_none he (f, w)⟩
  | some e => exact exists_happens_spread hstream he hw

/-- `spreadEach` takes events one by one, so that the later ones can wait. -/
theorem spreadEach_append (currency : Currency) (es es' : List Swap.Event) (f : Feed) (w : World) :
    f.spreadEach currency (es ++ es') w
      = (f.spreadEach currency es w).1.spreadEach currency es'
          (f.spreadEach currency es w).2 := by
  induction es generalizing f w with
  | nil => rfl
  | cons e es ih => exact ih _ _

/-- What the platform refuses stays as it is while events are spread, and so does the stream. -/
theorem surroundings_spreadEach (currency : Currency) (es : List Swap.Event) (f : Feed)
    (w : World) : (f.spreadEach currency es w).2.platform.refusals = w.platform.refusals
      ∧ (f.spreadEach currency es w).1.stream = f.stream := by
  induction es generalizing f w with
  | nil => exact ⟨rfl, rfl⟩
  | cons e es ih =>
    obtain ⟨hrefusals, hstream⟩ := ih (f.spread currency [e] w).1 (f.spread currency [e] w).2
    exact ⟨hrefusals.trans (refusals_takeRounds currency _ _ w), hstream⟩

/-- Message by message, `spreadEach` is something that happens. -/
theorem exists_happens_spreadEach (currency : Currency) (hf : f.IsSettled)
    (hstream : f.stream = .streaming) (rs : List Swap.Report)
    (hw : w.platform.refusals = refusals) :
    ∃ ms, Happens currency ms (f, w) (rs.filterMap Swap.Event.ofReport?)
        (f.spreadEach currency (rs.filterMap Swap.Event.ofReport?) w)
      ∧ ∀ m ∈ ms, (∃ r ∈ rs, m = .message r) ∨ Move.IsTurn refusals m := by
  -- message by message, as each one leaves the feed settled and the stream open
  induction rs generalizing f w with
  | nil => exact ⟨[], ⟨rfl, keepsUp_of_length_le (Nat.zero_le _) _, rfl⟩, by simp⟩
  | cons r rs ih =>
    obtain ⟨ns, hns, hfirst⟩ := exists_happens_message currency hstream r hw
    have hsettled := hf.spreadEach currency (Swap.Event.ofReport? r).toList w
    obtain ⟨hrefusals, hstill⟩ :=
      surroundings_spreadEach currency (Swap.Event.ofReport? r).toList f w
    obtain ⟨ms, hrest, hms⟩ := ih hsettled (hstill.trans hstream) (hrefusals.trans hw)
    have hevents : (r :: rs).filterMap Swap.Event.ofReport?
        = (Swap.Event.ofReport? r).toList ++ rs.filterMap Swap.Event.ofReport? := by
      cases h : Swap.Event.ofReport? r <;> simp [h]
    refine ⟨(.message r :: ns) ++ ms, ?_, fun m hm => ?_⟩
    · rw [hevents, spreadEach_append]
      exact hfirst.append hf hsettled hrest
    · rcases List.mem_append.1 hm with hm | hm
      · rcases List.mem_cons.1 hm with rfl | hm
        · exact .inl ⟨r, List.mem_cons_self, rfl⟩
        · exact .inr (hns m hm)
      · exact (hms m hm).imp_left fun ⟨r', hr', h⟩ => ⟨r', List.mem_cons_of_mem _ hr', h⟩

/-- **The messages of a stream are a run** that keeps up: what the feed makes of
them is one of the things that can happen when listeners take their turns. -/
theorem exists_run_receive (hf : f.IsSettled) (hstream : f.stream = .streaming)
    (rs : List Swap.Report) (hw : w.platform.refusals = refusals) :
    ∃ ms, run currency ms (f, w) = (f.receive currency rs w).2
      ∧ KeepsUp currency ms (f, w)
      ∧ delivered currency ms (f, w) = rs.filterMap Swap.Event.ofReport?
      ∧ ∀ m ∈ ms, (∃ r ∈ rs, m = .message r) ∨ Move.IsTurn refusals m := by
  have hreceive : (f.receive currency rs w).2
      = f.spreadEach currency (rs.filterMap Swap.Event.ofReport?) w := by
    unfold receive
    rw [if_pos hstream]
  obtain ⟨ms, ⟨hrun, hroom, hdelivered⟩, hms⟩ :=
    exists_happens_spreadEach currency hf hstream rs hw
  exact ⟨ms, hrun.trans hreceive.symm, hroom, hdelivered, hms⟩

/-! ## §3. Any listeners. -/

/-- **LISTENERS DO NOT INTERFERE.**  A feed has one listener for settlement and
one for the rotation, among any others, and starts with all mail handled.  Then
messages come, the stream ends and is opened again, the daemon changes its
state, and the listeners take turns in any order, during which the platform may
refuse anything.  As long as nobody has more events to handle than a mailbox
has room for, what each listener has taken and what is still in its mailbox are
together the events of the messages, in their order.  The books are as if
settlement alone had handled what it took, one event after the other, and so
are the configuration, the drawn addresses and the calls of the rotation.  And
whatever is refused from then on, the listeners can go on to handle all that is
left, which comes to the same. -/
theorem listeners_do_not_interfere (currency : Currency) (f : Feed) (w : World) (ms : List Move)
    {i j : Nat} (hf : f.IsSettled) (hi : ∀ k, f.kindAt k = some .settlement ↔ k = i)
    (hj : ∀ k, f.kindAt k = some .rotation ↔ k = j) (hroom : KeepsUp currency ms (f, w)) :
    ((∀ (k : Nat) (l : Listener), (run currency ms (f, w)).1.listeners[k]? = some l →
        delivered currency ms (f, w)
          = (handled currency k ms (f, w)).map (·.event) ++ l.mailbox.items)
      ∧ SameBooks (alone .settlement currency (handled currency i ms (f, w)) w)
        (run currency ms (f, w)).2
      ∧ Rotation.SameGrounds (alone .rotation currency (handled currency j ms (f, w)) w)
        (run currency ms (f, w)).2)
    ∧ ∀ refusals, ∃ ns, (∀ m ∈ ns, Move.IsTurn refusals m)
      ∧ (∀ k < f.listeners.length,
        (handled currency k (ms ++ ns) (f, w)).map (·.event) = delivered currency ms (f, w))
      ∧ SameBooks (alone .settlement currency (handled currency i (ms ++ ns) (f, w)) w)
        (run currency (ms ++ ns) (f, w)).2
      ∧ Rotation.SameGrounds (alone .rotation currency (handled currency j (ms ++ ns) (f, w)) w)
        (run currency (ms ++ ns) (f, w)).2 := by
  refine ⟨⟨fun k l hl => mail_run hf hroom hl, owned_run (owns_books currency) hi ms,
    owned_run (owns_grounds currency) hj ms⟩, fun refusals => ?_⟩
  obtain ⟨ns, hns, hdone⟩ := exists_turns_isSettled currency (run currency ms (f, w)) refusals
  rw [← run_append] at hdone
  -- what is owned stays so over the longer run, and all mail is handled at its end
  refine ⟨ns, hns, fun k hk => ?_, owned_run (owns_books currency) hi (ms ++ ns),
    owned_run (owns_grounds currency) hj (ms ++ ns)⟩
  rw [handled_of_isSettled hf (hroom.append_turns hns) hdone hk, delivered_append_turns hns]

/-! ## §4. A shop with a listener that crashes. -/

/-- A listener that crashes at every event, settlement and the rotation. -/
def shopFeed : Feed where
  listeners := [{ kind := .crashing }, { kind := .settlement }, { kind := .rotation }]
  stream := .streaming

/-- The shop with a healthy daemon, whose automatic swaps pay out to an address. -/
def shopWorld : World :=
  let w := Sample.shop (Sample.invoice "inv" "A")
  { w with
    health := .healthy ⟨w.daemon.address, "admin", none⟩
    daemon := { w.daemon with autoswap := some { chain := some { toAddress := "P" } } } }

/-- The invoice is paid. -/
def paidReport : Swap.Report where
  chain := some
    { id := "swap-1", status := Swap.statusMempool, tenantId := 2
      source := some { amount := 10000, lockupAddress := "A", lockupTx := some "tx-1" } }

/-- An automatic swap pays out. -/
def payoutReport : Swap.Report where
  chain := some
    { id := "swap-2", status := Swap.statusCreated, automated := true, tenantId := 2
      target := some { address := some "P" } }

/-- The payment cannot be announced, the stream ends and is opened again, and the
rotation is ahead of the others. -/
def shopMoves : List Move :=
  [.message paidReport, .message {}, .turn 1 [(.notify, "down")], .streamEnd, .turn 0 [],
    .message payoutReport, .turn 2 [], .turn 2 []]

/-- The listeners of the example start with empty mailboxes. -/
theorem isSettled_shopFeed : shopFeed.IsSettled := by
  rintro e ⟨l, hl, he⟩
  simp only [shopFeed, List.mem_cons, List.not_mem_nil, or_false] at hl
  rcases hl with rfl | rfl | rfl <;> exact absurd he List.not_mem_nil

theorem kindAt_shopFeed (k : Nat) :
    shopFeed.kindAt k = match k with
      | 0 => some .crashing
      | 1 => some .settlement
      | 2 => some .rotation
      | _ => none := by
  match k with
  | 0 => rfl
  | 1 => rfl
  | 2 => rfl
  | _ + 3 => rfl

/-- Both events come, once each; settlement has handled the first one, with the
books of settlement alone, and the rotation both, as if it were alone. -/
theorem shop_does_not_interfere :
    shopFeed.IsSettled ∧ KeepsUp .bitcoin shopMoves (shopFeed, shopWorld)
    ∧ (delivered .bitcoin shopMoves (shopFeed, shopWorld)).map (·.id) = ["swap-1", "swap-2"]
    ∧ SameBooks
        (alone .settlement .bitcoin (handled .bitcoin 1 shopMoves (shopFeed, shopWorld)) shopWorld)
        (run .bitcoin shopMoves (shopFeed, shopWorld)).2
    ∧ Rotation.SameGrounds
        (alone .rotation .bitcoin (handled .bitcoin 2 shopMoves (shopFeed, shopWorld)) shopWorld)
        (run .bitcoin shopMoves (shopFeed, shopWorld)).2 := by
  have hi : ∀ k, shopFeed.kindAt k = some .settlement ↔ k = 1 := by
    intro k
    rw [kindAt_shopFeed]
    split <;> simp_all
  have hj : ∀ k, shopFeed.kindAt k = some .rotation ↔ k = 2 := by
    intro k
    rw [kindAt_shopFeed]
    split <;> simp_all
  have hroom : KeepsUp .bitcoin shopMoves (shopFeed, shopWorld) :=
    keepsUp_of_length_le (by decide) _
  obtain ⟨⟨_, hbooks, hgrounds⟩, _⟩ := listeners_do_not_interfere .bitcoin shopFeed shopWorld
    shopMoves isSettled_shopFeed hi hj hroom
  exact ⟨isSettled_shopFeed, hroom, by decide +kernel, hbooks, hgrounds⟩

end SwapBridge.Feed
