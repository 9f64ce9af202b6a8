/-
  SwapBridge.Proofs.Poll
  ──────────────────────
  **WHAT A CATCH-UP PUBLISHES.**

  The stores are asked one after the other, and what each of them hears does
  not depend on what is wanted of it.  So a catch-up publishes the wanted
  swaps of all listings, store by store.

    • `listings` — what the stores hear, in the order in which they are asked,
    • `ask_of_connects`, `ask_frame` — what it takes to hear something,
    • `ofStores_eq` — the events of a catch-up are the wanted ones of the listings,
    • `Wanted` — which swaps are taken up, by the addresses that open invoices show,
    • `mem_run` — which of the reported events a catch-up takes up.
-/
import SwapBridge.Poll
import SwapBridge.Proofs.Broker.Connection
import SwapBridge.Proofs.Daemon
import SwapBridge.Proofs.Table

namespace SwapBridge

/-- A new invoice with an active swap prompt shows an address. -/
def Platform.Monitors (p : Platform) (address : String) : Prop :=
  ∃ id i, p.invoices.get? id = some i ∧ i.status = .new ∧ i.isActive boltzMethod = true
    ∧ i.destination? boltzMethod = some address

namespace Poll

variable {w : World} {s : Settings} {stores : List (String × Settings)}

/-! ## §1. Listings. -/

/-- What a store hears that lists its swaps. -/
def ask (s : Settings) (w : World) : Option Swap.Listing × World :=
  match Broker.connect s w.pool with
  | (.error _, pool) => (none, { w with pool })
  | (.ok c, pool) =>
    match w.daemon.listSwaps c with
    | (.error _, daemon) => (none, { w with pool, daemon })
    | (.ok list, daemon) => (some list, { w with pool, daemon })

/-- The listings that stores hear one after the other. -/
def listings : List (String × Settings) → World → List (String × Swap.Listing)
  | [], _ => []
  | (id, s) :: rest, w => (ask s w).1.toList.map (id, ·) ++ listings rest (ask s w).2

/-- What a store adds to a catch-up: the wanted events of its list, if it was given one. -/
theorem ofStore_eq (destinations : List String) (s : Settings) (w : World) :
    ofStore destinations s w
      = ((ask s w).1.toList.flatMap fun l =>
          (Swap.Event.ofListing l).filter (isWanted destinations), (ask s w).2) := by
  unfold ofStore ask
  cases Broker.connect s w.pool with
  | mk connection pool =>
    cases connection with
    | error err => rfl
    | ok c =>
      dsimp only
      cases w.daemon.listSwaps c with
      | mk answer daemon => cases answer <;> simp

/-- **The events of a catch-up are the wanted ones of the listings**, in order. -/
theorem ofStores_eq (destinations : List String) (stores : List (String × Settings)) (w : World) :
    (ofStores destinations stores w).1
      = (listings stores w).flatMap fun (_, l) =>
          (Swap.Event.ofListing l).filter (isWanted destinations) := by
  induction stores generalizing w with
  | nil => rfl
  | cons entry rest ih =>
    obtain ⟨id, s⟩ := entry
    show (ofStore destinations s w).1 ++ (ofStores destinations rest (ofStore destinations s w).2).1
      = ((ask s w).1.toList.map (id, ·) ++ listings rest (ask s w).2).flatMap _
    rw [ofStore_eq, ih, List.flatMap_append, List.flatMap_map]

/-- A store that can be connected hears what the daemon says to it. -/
theorem ask_of_connects (h : Broker.Connects s w.pool) :
    ask s w
      = ((w.daemon.listSwaps (Broker.own s)).1.toOption,
        { w with
          pool := (Broker.connect s w.pool).2
          daemon := (w.daemon.listSwaps (Broker.own s)).2 }) := by
  have hc := Broker.connect_of_connects h
  unfold ask
  cases hpool : Broker.connect s w.pool with
  | mk connection pool =>
    rw [hpool] at hc
    obtain rfl : connection = .ok (Broker.own s) := hc
    dsimp only
    cases w.daemon.listSwaps (Broker.own s) with
    | mk answer daemon => cases answer <;> rfl

/-- A store that cannot be connected is passed over: no call is made for it. -/
theorem ask_of_not_connects (h : ¬ Broker.Connects s w.pool) :
    ask s w = (none, { w with pool := (Broker.connect s w.pool).2 }) := by
  obtain ⟨err, herr⟩ := Broker.connect_of_not_connects h
  unfold ask
  cases hpool : Broker.connect s w.pool with
  | mk connection pool =>
    rw [hpool] at herr
    obtain rfl : connection = .error err := herr
    rfl

/-- A store that is asked makes one call at most, over its own connection, and
the rest of the world stays as it is. -/
theorem ask_frame (s : Settings) (w : World) :
    (∃ pool daemon, (ask s w).2 = { w with pool, daemon })
      ∧ Daemon.Logs (· = Daemon.entry (Broker.own s) .listSwaps) w.daemon (ask s w).2.daemon := by
  by_cases h : Broker.Connects s w.pool
  · rw [ask_of_connects h]
    refine ⟨⟨_, _, rfl⟩, ?_⟩
    exact Daemon.logs_read (Broker.own s) .listSwaps
      (fun d => .ok (Daemon.visible (Broker.own s).tenant d.swaps)) w.daemon
  · rw [ask_of_not_connects h]
    exact ⟨⟨_, w.daemon, rfl⟩, .of_eq rfl⟩

/-- To `ask` a daemon changes no settings. -/
theorem ask_store (s : Settings) (w : World) : (ask s w).2.store = w.store := by
  obtain ⟨⟨pool, daemon, h⟩, _⟩ := ask_frame s w
  rw [h]

/-- A catch-up reads the store and writes nothing to it. -/
theorem ofStores_store (destinations : List String) (stores : List (String × Settings))
    (w : World) : (ofStores destinations stores w).2.store = w.store := by
  induction stores generalizing w with
  | nil => rfl
  | cons entry rest ih =>
    obtain ⟨id, s⟩ := entry
    show (ofStores destinations rest (ofStore destinations s w).2).2.store = _
    rw [ih, ofStore_eq]
    exact ask_store s w

/-- A catch-up over settings that can be read. -/
theorem run_of_settings (withInvoices : Bool) (h : w.store.allSettings = .ok stores) :
    run withInvoices w
      = (.ok (ofStores (if withInvoices then openDestinations w.platform else []) stores w).1,
        (ofStores (if withInvoices then openDestinations w.platform else []) stores w).2) := by
  unfold run
  rw [h]

/-- Nor does a whole catch-up. -/
theorem run_store (withInvoices : Bool) (w : World) : (run withInvoices w).2.store = w.store := by
  cases h : w.store.allSettings with
  | error fault =>
    unfold run
    rw [h]
  | ok stores =>
    rw [run_of_settings withInvoices h]
    exact ofStores_store _ stores w

/-! ## §2. What is wanted. -/

/-- The listing of some store reports an event. -/
def Reports (w : World) (e : Swap.Event) : Prop :=
  ∃ stores id l, w.store.allSettings = .ok stores ∧ (id, l) ∈ listings stores w
    ∧ e ∈ Swap.Event.ofListing l

/-- The open destinations are the addresses that the platform `Monitors`. -/
theorem mem_openDestinations {p : Platform} (hp : p.permit .monitoredInvoices = .ok ())
    {address : String} : address ∈ openDestinations p ↔ p.Monitors address := by
  have hread : p.monitoredInvoices boltzMethod
      = .ok (p.invoices.values.filter fun i => i.status == .new && i.isActive boltzMethod) := by
    unfold Platform.monitoredInvoices
    rw [hp]
    rfl
  unfold openDestinations Platform.Monitors
  rw [hread]
  simp only [List.mem_filterMap, List.mem_filter, Table.mem_values_iff, Bool.and_eq_true,
    beq_iff_eq]
  constructor
  · rintro ⟨i, ⟨⟨id, hid⟩, hnew, hactive⟩, hshown⟩
    exact ⟨id, i, hid, hnew, hactive, hshown⟩
  · rintro ⟨id, i, hid, hnew, hactive, hshown⟩
    exact ⟨i, ⟨⟨id, hid⟩, hnew, hactive⟩, hshown⟩

/-- A swap is taken up that is pending, or whose lockup address a monitored
invoice shows, as far as the platform is asked and says so. -/
def Wanted (withInvoices : Bool) (w : World) (e : Swap.Event) : Prop :=
  e.state = .pending ∨ ∃ address, e.lockupAddress = some address ∧ withInvoices = true
    ∧ w.platform.permit .monitoredInvoices = .ok () ∧ w.platform.Monitors address

/-- The test on lists of addresses is the condition that `Wanted` states. -/
theorem isWanted_iff (withInvoices : Bool) (w : World) (e : Swap.Event) :
    isWanted (if withInvoices then openDestinations w.platform else []) e = true
      ↔ Wanted withInvoices w e := by
  -- where the platform refuses the invoices, no address is open
  have hopen : ∀ address, address ∈ openDestinations w.platform ↔
      w.platform.permit .monitoredInvoices = .ok () ∧ w.platform.Monitors address := by
    intro address
    cases hp : w.platform.permit .monitoredInvoices with
    | ok u => simp [mem_openDestinations hp]
    | error fault =>
      have hnone : openDestinations w.platform = [] := by
        unfold openDestinations Platform.monitoredInvoices
        rw [hp]
        rfl
      simp [hnone]
  unfold isWanted Wanted
  cases withInvoices with
  | false => cases e.lockupAddress <;> simp
  | true => cases e.lockupAddress <;> simp [hopen]

instance (withInvoices : Bool) (w : World) (e : Swap.Event) :
    Decidable (Wanted withInvoices w e) :=
  decidable_of_iff _ (isWanted_iff withInvoices w e)

/-- **What a catch-up takes up**: of the reported events those that are pending
or whose lockup address a monitored invoice shows. -/
theorem mem_run {w' : World} {events : List Swap.Event}
    (hp : w.platform.permit .monitoredInvoices = .ok ()) (h : run true w = (.ok events, w'))
    (e : Swap.Event) :
    e ∈ events ↔ Reports w e
      ∧ (e.state = .pending ∨ ∃ address, e.lockupAddress = some address
        ∧ w.platform.Monitors address) := by
  have hwanted : isWanted (openDestinations w.platform) e = true
      ↔ e.state = .pending ∨ ∃ address, e.lockupAddress = some address
        ∧ w.platform.Monitors address := by
    simpa [Wanted, hp] using isWanted_iff true w e
  -- a poll that answers has read the settings, and they are the ones `Reports` speaks of
  cases hs : w.store.allSettings with
  | error fault =>
    unfold run at h
    rw [hs] at h
    cases h
  | ok stores =>
    rw [run_of_settings true hs] at h
    have hevents : events = (ofStores (openDestinations w.platform) stores w).1 := by
      injection h with h _
      exact (Except.ok.inj h).symm
    rw [hevents, ofStores_eq, List.mem_flatMap, ← hwanted]
    constructor
    · rintro ⟨⟨id, l⟩, hl, he⟩
      obtain ⟨he, hw⟩ := List.mem_filter.1 he
      exact ⟨⟨stores, id, l, hs, hl, he⟩, hw⟩
    · rintro ⟨⟨stores', id, l, hs', hl, he⟩, hw⟩
      have : stores' = stores := Except.ok.inj (hs'.symm.trans hs)
      subst this
      exact ⟨(id, l), hl, List.mem_filter.2 ⟨he, hw⟩⟩

end Poll

end SwapBridge
