/-
  SwapBridge.Proofs.Poll.Published
  ────────────────────────────────
  **THE SEQUENCE THAT A CATCH-UP PUBLISHES.**

  Whether a store is heard is a matter of its own settings and of the fault
  that its call meets, so a store that is not heard costs its own swaps alone.
  A catch-up is made once, whatever comes after it.

    • `Reaches`, `answered` — the stores whose call arrives, and those that are answered,
    • `listings_eq` — what the stores hear, as a function of settings, faults and swaps,
    • `published` — the wanted swaps of the answers, store by store,
    • `polled_after` — the catch-up counts as made from then on,
    • `poll_publishes` — the first catch-up and all later ones.
-/
import SwapBridge.Proofs.Poll
import SwapBridge.Proofs.Sample
import SwapBridge.Proofs.Session

namespace SwapBridge

namespace Poll

variable {w : World} {s s' : Settings} {stores : List (String × Settings)}

/-! ## §1. Answers. -/

/-- The call of a store arrives: the connection can be built, and it leads to the daemon. -/
def Reaches (w : World) (s : Settings) : Prop :=
  Broker.Connects s w.pool ∧ w.daemon.Receives (Broker.own s)

instance (w : World) (s : Settings) : Decidable (Reaches w s) :=
  inferInstanceAs (Decidable (_ ∧ _))

/-- The callers that meet no fault; each of them takes one off the schedule. -/
def spared {α : Type} : List (Option Rpc.Status) → List α → List α
  | _, [] => []
  | faults, caller :: callers =>
    if faults.head?.join = none then caller :: spared faults.tail callers
    else spared faults.tail callers

/-- A fault at the head of the schedule costs the first caller, and the others meet what is
behind. -/
theorem spared_cons {α : Type} (faults : List (Option Rpc.Status)) (caller : α)
    (callers : List α) :
    spared faults (caller :: callers)
      = if faults.head?.join = none then caller :: spared faults.tail callers
        else spared faults.tail callers := rfl

/-- The spared are some of the callers, in their order. -/
theorem spared_sublist {α : Type} (faults : List (Option Rpc.Status)) (callers : List α) :
    (spared faults callers).Sublist callers := by
  induction callers generalizing faults with
  | nil => exact .slnil
  | cons caller callers ih =>
    rw [spared_cons]
    split
    · exact (ih faults.tail).cons_cons caller
    · exact (ih faults.tail).cons caller

/-- The stores whose call arrives, in order. -/
def reached (w : World) (stores : List (String × Settings)) : List (String × Settings) :=
  stores.filter fun (_, s) => Reaches w s

/-- The stores whose call is answered, in order. -/
def answered (w : World) (stores : List (String × Settings)) : List (String × Settings) :=
  spared (w.daemon.schedule .listSwaps) (reached w stores)

theorem answered_sublist (w : World) (stores : List (String × Settings)) :
    (answered w stores).Sublist stores :=
  (spared_sublist _ _).trans List.filter_sublist

/-- The answer to a store: the swaps of its tenant, or of all for the administrator. -/
def answer (w : World) (s : Settings) : Swap.Listing :=
  Daemon.visible (Broker.tenantHeader s.credential) w.daemon.swaps

/-- A store that does not reach the daemon changes the pool at most. -/
theorem ask_of_not_reaches (h : ¬ Reaches w s) :
    ask s w = (none, { w with pool := (Broker.connect s w.pool).2 }) := by
  by_cases hconnects : Broker.Connects s w.pool
  · have hreceives : ¬ w.daemon.Receives (Broker.own s) := fun hr => h ⟨hconnects, hr⟩
    obtain ⟨hafter, hanswer⟩ := Daemon.listSwaps_eq (Broker.own s) w.daemon
    rw [if_neg hreceives] at hafter
    rw [if_neg fun hboth => hreceives hboth.1] at hanswer
    rw [ask_of_connects hconnects, hafter, hanswer]
  · exact ask_of_not_connects hconnects

/-- A store that reaches it gets its list or the fault whose turn it is, and the call is
logged. -/
theorem ask_of_reaches (h : Reaches w s) :
    ask s w
      = (if (w.daemon.schedule .listSwaps).head?.join = none then some (answer w s) else none,
        { w with
          pool := (Broker.connect s w.pool).2
          daemon := w.daemon.logged (Broker.own s) .listSwaps }) := by
  obtain ⟨hconnects, hreceives⟩ := h
  obtain ⟨hafter, hanswer⟩ := Daemon.listSwaps_eq (Broker.own s) w.daemon
  rw [if_pos hreceives] at hafter
  simp only [hreceives, true_and] at hanswer
  rw [ask_of_connects hconnects, hafter, hanswer]
  rfl

/-- A store that was asked opens and closes no way for the others. -/
theorem reaches_ask : Reaches (ask s w).2 s' ↔ Reaches w s' := by
  by_cases h : Reaches w s
  · rw [ask_of_reaches h]
    exact and_congr_left fun _ => Broker.connects_connect
  · rw [ask_of_not_reaches h]
    exact and_congr_left fun _ => Broker.connects_connect

/-- Who reaches the daemon is not changed by another store's question. -/
theorem reached_ask (stores : List (String × Settings)) :
    reached (ask s w).2 stores = reached w stores :=
  List.filter_congr fun _ _ => decide_eq_decide.2 reaches_ask

/-- Nor is what the daemon would answer. -/
theorem answer_ask : answer (ask s w).2 s' = answer w s' := by
  by_cases h : Reaches w s
  · rw [ask_of_reaches h]
    rfl
  · rw [ask_of_not_reaches h]
    rfl

/-- **What the stores hear** is a function of their settings, the faults and
the swaps of the daemon. -/
theorem listings_eq (stores : List (String × Settings)) (w : World) :
    listings stores w = (answered w stores).map fun (id, s) => (id, answer w s) := by
  induction stores generalizing w with
  | nil => rfl
  | cons entry stores ih =>
    obtain ⟨id, s⟩ := entry
    show (ask s w).1.toList.map (id, ·) ++ listings stores (ask s w).2 = _
    rw [ih]
    unfold answered
    -- who else is reached and what they are told is as before; only the schedule may be shorter
    simp only [reached_ask, answer_ask]
    by_cases h : Reaches w s
    · have hreached : reached w ((id, s) :: stores) = (id, s) :: reached w stores :=
        List.filter_cons_of_pos (decide_eq_true h)
      have hschedule : (ask s w).2.daemon.schedule .listSwaps
          = (w.daemon.schedule .listSwaps).tail := by
        rw [ask_of_reaches h]
        exact Daemon.schedule_logged (Broker.own s) .listSwaps w.daemon
      rw [hreached, hschedule, ask_of_reaches h, spared_cons]
      by_cases hfault : (w.daemon.schedule .listSwaps).head?.join = none
      · rw [if_pos hfault, if_pos hfault]
        rfl
      · rw [if_neg hfault, if_neg hfault]
        rfl
    · have hreached : reached w ((id, s) :: stores) = reached w stores :=
        List.filter_cons_of_neg (by simpa using h)
      rw [hreached, ask_of_not_reaches h]
      rfl

/-- A catch-up calls each store that it reaches once, and leaves the rest of
the world as it is. -/
theorem ofStores_frame (destinations : List String) (stores : List (String × Settings))
    (w : World) :
    (∃ pool daemon, (ofStores destinations stores w).2 = { w with pool, daemon })
      ∧ (ofStores destinations stores w).2.daemon.calls
        = w.daemon.calls
          ++ (reached w stores).map fun (_, s) => Daemon.entry (Broker.own s) .listSwaps := by
  induction stores generalizing w with
  | nil => exact ⟨⟨w.pool, w.daemon, rfl⟩, (List.append_nil _).symm⟩
  | cons entry stores ih =>
    obtain ⟨id, s⟩ := entry
    have hstep : (ofStores destinations ((id, s) :: stores) w).2
        = (ofStores destinations stores (ask s w).2).2 := by
      show (ofStores destinations stores (ofStore destinations s w).2).2 = _
      rw [ofStore_eq]
    obtain ⟨⟨pool, daemon, hframe⟩, hcalls⟩ := ih (ask s w).2
    obtain ⟨⟨pool', daemon', hask⟩, _⟩ := ask_frame s w
    rw [hstep]
    refine ⟨⟨pool, daemon, ?_⟩, ?_⟩
    · rw [hframe, hask]
    · rw [hcalls, reached_ask]
      -- a store without a connection asks nothing, so it adds no call
      by_cases h : Reaches w s
      · have hreached : reached w ((id, s) :: stores) = (id, s) :: reached w stores :=
          List.filter_cons_of_pos (decide_eq_true h)
        rw [hreached, ask_of_reaches h]
        exact List.append_assoc _ _ _
      · have hreached : reached w ((id, s) :: stores) = reached w stores :=
          List.filter_cons_of_neg (by simpa using h)
        rw [hreached, ask_of_not_reaches h]

/-! ## §2. What is published. -/

/-- The wanted swaps of the answer to a store: submarine, reverse, then chain
swaps, each in the order of the daemon. -/
def share (withInvoices : Bool) (w : World) (s : Settings) : List Swap.Event :=
  ((answer w s).submarine.map Swap.Event.ofSubmarine
    ++ (answer w s).reverse.map Swap.Event.ofReverse
    ++ (answer w s).chain.map Swap.Event.ofChain).filter (Wanted withInvoices w)

/-- The shares of all stores that are answered, by store. -/
def published (withInvoices : Bool) (w : World) (stores : List (String × Settings)) :
    List Swap.Event :=
  (answered w stores).flatMap fun (_, s) => share withInvoices w s

/-- An address that is published is not empty. -/
theorem lockupAddress_ne_empty {withInvoices : Bool} {e : Swap.Event}
    (he : e ∈ published withInvoices w stores) : e.lockupAddress ≠ some "" := by
  intro hempty
  obtain ⟨⟨id, s⟩, _, he⟩ := List.mem_flatMap.1 he
  have h := (List.mem_filter.1 he).1
  -- the three listings in turn; each takes an address only where one is present
  rcases List.mem_append.1 h with h | h
  · rcases List.mem_append.1 h with h | h
    · obtain ⟨info, _, rfl⟩ := List.mem_map.1 h
      exact (Swap.presentAddress_eq_some.1 hempty).2 rfl
    · obtain ⟨info, _, rfl⟩ := List.mem_map.1 h
      exact (Swap.presentAddress_eq_some.1 hempty).2 rfl
  · obtain ⟨info, _, rfl⟩ := List.mem_map.1 h
    obtain ⟨side, _, hside⟩ := Option.bind_eq_some_iff.1 hempty
    exact (Swap.presentAddress_eq_some.1 hside).2 rfl

/-- **The events of a catch-up.** -/
theorem run_eq (withInvoices : Bool) (h : w.store.allSettings = .ok stores) :
    ∃ pool daemon, run withInvoices w
        = (.ok (published withInvoices w stores), { w with pool, daemon })
      ∧ daemon.calls = w.daemon.calls
        ++ (reached w stores).map fun (_, s) => Daemon.entry (Broker.own s) .listSwaps := by
  rw [run_of_settings withInvoices h, ofStores_eq, listings_eq, List.flatMap_map]
  obtain ⟨⟨pool, daemon, hframe⟩, hcalls⟩ :=
    ofStores_frame (if withInvoices then openDestinations w.platform else []) stores w
  rw [hframe] at hcalls ⊢
  refine ⟨pool, daemon, ?_, hcalls⟩
  -- to look the address up among the open ones is to ask whether a swap is wanted
  have hshare : ∀ s, (Swap.Event.ofListing (answer w s)).filter
      (isWanted (if withInvoices then openDestinations w.platform else []))
      = share withInvoices w s := by
    intro s
    refine List.filter_congr fun e _ => ?_
    rw [Bool.eq_iff_iff, decide_eq_true_iff]
    exact isWanted_iff withInvoices w e
  simp only [hshare]
  rfl

end Poll

/-! ## §3. Once. -/

/-- Whether the feed has caught up is remembered apart from its stream. -/
theorem Feed.polled_subscribe (f : Feed) (w : World) : (f.subscribe w).1.polled = f.polled := by
  obtain ⟨stream, heq⟩ := f.subscribe_frame w
  rw [heq]

/-- It is remembered while events are spread as well. -/
theorem Feed.polled_spreadEach (currency : Currency) (es : List Swap.Event) (f : Feed)
    (w : World) : (f.spreadEach currency es w).1.polled = f.polled := by
  induction es generalizing f w with
  | nil => rfl
  | cons e es ih => exact ih _ _

namespace Deployment

variable {d : Deployment} {stores : List (String × Settings)}

/-- No operation unmakes a catch-up. -/
theorem polled_run (op : Operation) (h : d.feed.polled = true) :
    (op.run d).feed.polled = true := by
  cases op with
  | listen kinds =>
    show (d.feed.listen kinds).polled = true
    unfold Feed.listen
    split <;> exact h
  | poll withInvoices =>
    show (d.feed.poll d.currency withInvoices d.world).2.1.polled = true
    unfold Feed.poll
    rw [if_pos h]
    exact h
  | startStream =>
    obtain ⟨stream, heq⟩ := d.feed.startStream_frame d.world
    show (d.feed.startStream d.world).1.polled = true
    rw [heq]
    exact h
  | receive rs =>
    show (d.feed.receive d.currency rs d.world).2.1.polled = true
    unfold Feed.receive
    split
    · exact (Feed.polled_spreadEach _ _ _ _).trans h
    · exact h
  | endStream =>
    obtain ⟨stream, heq⟩ := d.feed.endStream_frame d.world
    show (d.feed.endStream d.world).1.polled = true
    rw [heq]
    exact h
  | becomeHealthy token =>
    show ((d.becomeHealthy token).toOption.getD d).feed.polled = true
    unfold becomeHealthy
    cases d.world.pool.connect d.world.daemon.address token none with
    | mk connection pool =>
      cases connection with
      | error e => exact h
      | ok c => exact (Feed.polled_subscribe _ _).trans h
  | leaveHealthy state _ => exact (Feed.polled_subscribe _ _).trans h
  | closeState => exact (Feed.polled_subscribe _ _).trans h
  | _ => exact h

/-- **Once the feed has caught up it remembers**, whatever else happens in the session. -/
theorem polled_after (ops : List Operation) (h : d.feed.polled = true) :
    (after ops d).feed.polled = true := by
  induction ops generalizing d with
  | nil => exact h
  | cons op ops ih => exact ih (polled_run op h)

/-- A later catch-up does nothing. -/
theorem poll_of_polled (withInvoices : Bool) (h : d.feed.polled = true) :
    d.poll withInvoices = (.ok 0, d) := by
  unfold poll Feed.poll
  rw [if_pos h]

/-- The first catch-up publishes what it takes up and returns how much that is. -/
theorem poll_of_run {withInvoices : Bool} {es : List Swap.Event} {asked : World}
    (hfirst : d.feed.polled = false) (hrun : Poll.run withInvoices d.world = (.ok es, asked)) :
    d.poll withInvoices
      = (.ok es.length,
        { d with
          feed := (({ d.feed with polled := true } : Feed).spread d.currency es asked).1
          world := (({ d.feed with polled := true } : Feed).spread d.currency es asked).2 }) := by
  unfold poll Feed.poll
  rw [hfirst, if_neg Bool.false_ne_true, hrun]

/-- What the first catch-up does, with the world as it is when all stores were
asked and nobody has heard of their swaps yet. -/
structure CatchesUp (d : Deployment) (withInvoices : Bool) (stores : List (String × Settings))
    (asked : World) : Prop where
  /-- The stores are those with settings, by ascending id. -/
  ascending : stores.Pairwise fun a b => a.1 < b.1
  mem_iff : ∀ id s, (id, s) ∈ stores ↔ d.store.settingsOf id = .ok (some s)
  /-- Each store that is reached is asked once. -/
  calls_eq : asked.daemon.calls = d.world.daemon.calls
    ++ (Poll.reached d.world stores).map fun (_, s) => Daemon.entry (Broker.own s) .listSwaps
  frame : asked.store = d.world.store ∧ asked.platform = d.world.platform
    ∧ asked.health = d.world.health
  /-- Where an event has an address, it is not empty. -/
  present : ∀ e ∈ Poll.published withInvoices d.world stores, e.lockupAddress ≠ some ""
  /-- The wanted swaps of all answers are published at once and counted. -/
  poll_eq : d.poll withInvoices
    = (.ok (Poll.published withInvoices d.world stores).length,
      { d with
        feed := (({ d.feed with polled := true } : Feed).spread d.currency
          (Poll.published withInvoices d.world stores) asked).1
        world := (({ d.feed with polled := true } : Feed).spread d.currency
          (Poll.published withInvoices d.world stores) asked).2 })
  subscription_eq : (d.poll withInvoices).2.feed.subscription
    = d.feed.subscription.map
        (·.add Mailbox.capacity (Poll.published withInvoices d.world stores))

/-- **THE FIRST CATCH-UP AND ALL LATER ONES**: over any settings that can be
read, any swaps and faults of the daemon and any invoices, the first catch-up
publishes the wanted swaps of each store that is answered, by ascending store
id, and returns their number.  After any operations every later one publishes
nothing, calls nobody and returns zero. -/
theorem poll_publishes (d : Deployment) (withInvoices : Bool) (hfirst : d.feed.polled = false)
    (hstores : d.store.allSettings = .ok stores) :
    (∃ asked, CatchesUp d withInvoices stores asked)
    ∧ ∀ ops again, (after ops (d.poll withInvoices).2).poll again
      = (.ok 0, after ops (d.poll withInvoices).2) := by
  obtain ⟨pool, daemon, hrun, hcalls⟩ := Poll.run_eq withInvoices hstores
  have hpoll := poll_of_run hfirst hrun
  refine ⟨⟨{ d.world with pool, daemon }, ?_⟩, fun ops again => ?_⟩
  · exact
      { ascending := Store.ascending_allSettings hstores
        mem_iff := fun id s => (Store.settingsOf_eq_some_iff hstores).symm
        calls_eq := hcalls
        frame := ⟨rfl, rfl, rfl⟩
        present := fun e => Poll.lockupAddress_ne_empty
        poll_eq := hpoll
        subscription_eq := by
          rw [hpoll]
          rfl }
  · have hmade : (d.poll withInvoices).2.feed.polled = true := by
      rw [hpoll]
      rfl
    exact poll_of_polled again (polled_after ops hmade)

/-- A swap of the shop that nobody has paid yet. -/
def unpaid (id : String) (tenant : UInt64) : Swap.ChainInfo :=
  { Sample.claimed with
    id := id
    status := Swap.statusCreated
    state := .pending
    tenantId := tenant }

/-- The shop, and a daemon that has swaps of its own and of others. -/
def shopping : Deployment where
  world :=
    { Sample.shop (Sample.invoice "inv" "A") with
      daemon :=
        { address := "http://localhost:9002"
          swaps := { chain := [unpaid "swap-3" 3, unpaid "swap-2" 2, Sample.claimed] } } }
  feed := { subscription := some {} }
  storePath := "bridge.sqlite3"

/-- Of the swaps of the shop one is pending, and an invoice waits for the other. -/
theorem poll_publishes_shopping :
    (∃ asked, CatchesUp shopping true [("shop", Sample.settings)] asked)
      ∧ (Poll.published true shopping.world [("shop", Sample.settings)]).map (·.id)
        = ["swap-2", "swap-1"]
      ∧ (shopping.poll true).1 = .ok 2
      ∧ ((after [.disable "shop"] (shopping.poll true).2).poll true).1 = .ok 0 := by
  obtain ⟨⟨asked, hcatches⟩, hlater⟩ :=
    poll_publishes shopping true rfl Sample.allSettings_store
  have hids : (Poll.published true shopping.world [("shop", Sample.settings)]).map (·.id)
      = ["swap-2", "swap-1"] := by decide +kernel
  refine ⟨⟨asked, hcatches⟩, hids, ?_, ?_⟩
  · rw [hcatches.poll_eq]
    exact congrArg Except.ok ((List.length_map _).symm.trans (congrArg List.length hids))
  · rw [hlater]

end Deployment

end SwapBridge
