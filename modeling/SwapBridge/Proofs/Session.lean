/-
  SwapBridge.Proofs.Session
  ─────────────────────────
  **SESSIONS.**

  A session is any number of operations on a deployment, with whatever else
  happens around it in between.  Seen from the daemon an operation falls into
  tasks, each of them done for somebody, and steps that do not call the daemon.

    • `Operation` — what the bridge is asked to do, and what happens elsewhere,
    • `Operation.Employs` — on whose behalf an operation may call the daemon,
    • `Task` — what the bridge does for somebody, by the definitions that do it,
    • `Works`, `covers_operation` — the tasks of an operation and the calls of each,
    • `Session`, `session_exists` — the tasks of any operations.
-/
import SwapBridge.Deployment
import SwapBridge.Proofs.Broker
import SwapBridge.Proofs.Feed
import SwapBridge.Proofs.PartialPayment
import SwapBridge.Proofs.Poll
import SwapBridge.Proofs.Reconciler.Step
import SwapBridge.Proofs.Rotation

namespace SwapBridge

/-- The administrator's connection is for no tenant. -/
def Supervisor.State.NamesNoTenant (s : Supervisor.State) : Prop :=
  ∀ c, s.admin? = some c → c.tenant = none

namespace Deployment

/-! ## §1. Operations. -/

/-- What may happen to a deployment. -/
inductive Operation where
  | ensureTenant (store : String)
  | enable (store : String) (mode : Mode) (wallet : Option WalletRef)
  | disable (store : String)
  | swapEvent (e : Swap.Event)
  | invoiceEvent (e : Invoice.Event)
  | invoiceEvents (capacity : Nat) (es : List Invoice.Event)
  | rotate (e : Swap.Event)
  | listen (kinds : List Listener.Kind)
  | publish (es : List Swap.Event)
  | poll (withInvoices : Bool)
  | startStream
  | receive (rs : List Swap.Report)
  | endStream
  | stop
  | becomeHealthy (token : String)
  | leaveHealthy (state : Supervisor.State) (h : state.admin? = none)
  | closeState
  /-- What others do: settings, channels, the platform, the subscription and all
  of the daemon but its log are from now on as they happen to be. -/
  | elsewhere (around : Deployment)

def Operation.run : Operation → Deployment → Deployment
  | .ensureTenant store, d => (d.ensureTenant store).2
  | .enable store mode wallet, d => (d.enable store mode wallet).2
  | .disable store, d => d.disable store
  | .swapEvent e, d => (d.swapEvent e).2
  | .invoiceEvent e, d => (d.invoiceEvent e).2
  | .invoiceEvents capacity es, d => d.invoiceEvents capacity es
  | .rotate e, d => (d.rotate e).2
  | .listen kinds, d => { d with feed := d.feed.listen kinds }
  | .publish es, d => (d.publish es).2
  | .poll withInvoices, d => (d.poll withInvoices).2
  | .startStream, d => d.startStream
  | .receive rs, d => (d.receive rs).2
  | .endStream, d => d.endStream
  | .stop, d => d.stop.2
  | .becomeHealthy token, d => (d.becomeHealthy token).toOption.getD d
  | .leaveHealthy state _, d => d.leaveHealthy state
  | .closeState, d => d.closeState
  | .elsewhere around, d =>
    { around with
      world := { around.world with
        health := d.world.health
        daemon := { around.world.daemon with calls := d.world.daemon.calls } }
      feed := { d.feed with subscription := around.feed.subscription } }

/-- The deployment after operations, one after the other. -/
def after (ops : List Operation) (d : Deployment) : Deployment :=
  ops.foldl (fun d op => op.run d) d

end Deployment

/-! ## §2. Actors. -/

/-- On whose behalf the daemon is called. -/
inductive Actor where
  /-- The broker, for a store that is onboarded. -/
  | onboarding (store : String)
  /-- The bridge, for the stream of updates. -/
  | stream
  /-- The catch-up, for one of the stores. -/
  | catchUp (store : String)
  /-- The provisioner, for an invoice that was paid in part. -/
  | provisioner (i : Invoice)
  /-- The rotator, for an event. -/
  | rotator (e : Swap.Event)

/-- The rotator, for one of some events. -/
def Actor.IsRotatorOf (es : List Swap.Event) (a : Actor) : Prop := ∃ e ∈ es, a = .rotator e

/-- The provisioner, for the invoice of one of some events.  The invoice is
with the store that the platform has it with. -/
def Actor.IsProvisionerOf (p : Platform) (es : List Invoice.Event) (a : Actor) : Prop :=
  ∃ e ∈ es, ∃ i, a = .provisioner i ∧ p.storeOf e.invoice = some i.store

open Actor in
/-- On whose behalf an operation may call the daemon. -/
def Deployment.Operation.Employs (d : Deployment) : Operation → Actor → Prop
  | .ensureTenant store, a => a = .onboarding store
  | .enable store _ _, a => a = .onboarding store
  | .invoiceEvent e, a => IsProvisionerOf d.world.platform [e] a
  | .invoiceEvents _ es, a => IsProvisionerOf d.world.platform es a
  | .rotate e, a => IsRotatorOf [e] a
  | .publish es, a => IsRotatorOf es a
  | .receive rs, a => IsRotatorOf (rs.filterMap Swap.Event.ofReport?) a
  -- the listeners are given what the catch-up finds
  | .poll withInvoices, a => (∃ store, a = .catchUp store)
      ∨ ∃ es, (Poll.run withInvoices d.world).1 = .ok es ∧ IsRotatorOf es a
  | .startStream, a => a = .stream
  | .endStream, a => a = .stream
  | .becomeHealthy _, a => a = .stream
  | .leaveHealthy _ _, a => a = .stream
  | .closeState, a => a = .stream
  | _, _ => False

/-! ## §3. Tasks. -/

/-- What the bridge does for somebody, from one world to the next. -/
inductive Task (w : World) : Actor → World → Prop where
  | onboard (store : String) :
      Task w (.onboarding store)
        { w with daemon := (Broker.ensureTenant w.health store w.daemon).2 }
  | openStream {c : Rpc.Connection} (n : Nat) (hc : w.health.admin? = some c) :
      Task w .stream { w with daemon := Feed.openStream c n w.daemon }
  | list {all : List (String × Settings)} {id : String} {settings : Settings}
      (destinations : List String) (hall : w.store.allSettings = .ok all)
      (hmem : (id, settings) ∈ all) :
      Task w (.catchUp id) (Poll.ofStore destinations settings w).2
  /-- The order may have been prepared earlier, but over the same store. -/
  | place {i : Invoice} {o : PartialPayment.Order} {before : World}
      (hstore : before.store = w.store) (ho : (PartialPayment.prepare i before).1 = .ok o) :
      Task w (.provisioner i) (PartialPayment.place o w).2
  | rotate (e : Swap.Event) : Task w (.rotator e) (Rotation.handle e w).2

/-- What a call of each actor is, over which connection it goes and what it asks for. -/
def Actor.Makes (w : World) : Actor → Daemon.Call → Prop
  | .onboarding store, call => ∃ c, w.health.admin? = some c ∧ Broker.Onboarding c store call
  | .stream, call =>
    ∃ c, w.health.admin? = some c ∧ call = Daemon.entry c (.getSwapInfoStream "")
  | .catchUp id, call =>
    ∃ s, w.store.settingsOf id = .ok (some s) ∧ call = Daemon.entry (Broker.own s) .listSwaps
  | .provisioner i, call =>
    ∃ s r, w.store.settingsOf i.store = .ok (some s)
      ∧ call = Daemon.entry (Broker.own s) (.createChainSwap r)
  | .rotator e, call => Rotation.Makes e w call

/-- However often the stream is asked for, each call is the same: `getSwapInfoStream` for
all swaps. -/
theorem Feed.logs_openStream (c : Rpc.Connection) (n : Nat) (d : Daemon) :
    Daemon.Logs (· = Daemon.entry c (.getSwapInfoStream "")) d (Feed.openStream c n d) := by
  induction n generalizing d with
  | zero => exact .of_eq rfl
  | succ n ih =>
    have hasked : Daemon.Logs (· = Daemon.entry c (.getSwapInfoStream "")) d
        (d.getSwapInfoStream c).2 := Daemon.logs_serve (fun _ => rfl) c _ d
    unfold Feed.openStream
    cases h : d.getSwapInfoStream c with
    | mk answer after =>
      rw [h] at hasked
      cases answer with
      | ok u => exact hasked
      | error s => exact hasked.trans (ih after)

namespace Task

variable {w w' : World} {actor : Actor}

/-- **A task makes calls of its actor and no others.** -/
theorem logs (h : Task w actor w') : Daemon.Logs (actor.Makes w) w.daemon w'.daemon := by
  -- one task, one kind of call: what it asks is what its actor may ask
  cases h with
  | onboard store => exact Broker.logs_ensureTenant w.health store w.daemon
  | openStream n hc =>
    exact (Feed.logs_openStream _ n w.daemon).mono fun call hcall => ⟨_, hc, hcall⟩
  | list destinations hall hmem =>
    rw [Poll.ofStore_eq]
    refine (Poll.ask_frame _ w).2.mono fun call hcall => ⟨_, ?_, hcall⟩
    exact (Store.settingsOf_eq_some_iff hall).2 hmem
  | @place i o before hstore ho =>
    rcases PartialPayment.prepare_cases i before with
      ⟨f, pool, hp, _⟩ | ⟨s, wallet, c, hs, _, hc, hp⟩
    · rw [hp] at ho
      cases ho
    · rw [hp] at ho
      cases ho
      obtain rfl := Broker.connect_eq_ok hc
      rcases (PartialPayment.place_cases ⟨Broker.own s, PartialPayment.swapRequest i.due wallet⟩
        w).2.1 with ⟨hcalls, _⟩ | hcalls
      · exact .of_eq hcalls
      · exact ⟨_, hcalls, fun call hcall =>
          ⟨s, _, hstore ▸ hs, List.mem_singleton.1 hcall⟩⟩
  | rotate e => exact Rotation.logs_handle e w

/-- A task changes neither the settings nor the state of the supervisor. -/
theorem frame (h : Task w actor w') : w'.store = w.store ∧ w'.health = w.health := by
  cases h with
  | onboard store => exact ⟨rfl, rfl⟩
  | openStream n hc => exact ⟨rfl, rfl⟩
  | list destinations hall hmem =>
    rw [Poll.ofStore_eq]
    obtain ⟨⟨pool, daemon, h⟩, _⟩ := Poll.ask_frame _ w
    rw [h]
    exact ⟨rfl, rfl⟩
  | place hstore ho =>
    obtain ⟨⟨daemon, h⟩, _⟩ := PartialPayment.place_cases _ w
    rw [h]
    exact ⟨rfl, rfl⟩
  | rotate e => exact Rotation.handle_frame e w

end Task

/-! ## §4. Works. -/

/-- A step that calls nobody and leaves the settings and the state of the
supervisor as they are. -/
structure Aside (w w' : World) : Prop where
  calls_eq : w'.daemon.calls = w.daemon.calls
  settings_eq : w'.store.settings = w.store.settings
  health_eq : w'.health = w.health

/-- A call, the actor that made it, and the world when its task began. -/
structure Record where
  world : World
  actor : Actor
  call : Daemon.Call

/-- Tasks of those who are employed, with their calls, and other steps between
them. -/
inductive Works (employed : Actor → Prop) : World → List Record → World → Prop where
  | rest (w : World) : Works employed w [] w
  | aside {w w' w'' : World} {rs : List Record} (h : Works employed w rs w')
      (haside : Aside w' w'') : Works employed w rs w''
  | task {w w' w'' : World} {rs : List Record} {actor : Actor} {calls : List Daemon.Call}
      (h : Works employed w rs w') (hactor : employed actor) (htask : Task w' actor w'')
      (hcalls : w''.daemon.calls = w'.daemon.calls ++ calls) :
      Works employed w (rs ++ calls.map (Record.mk w' actor)) w''

variable {employed more : Actor → Prop}

namespace Works

variable {w w' w'' : World} {rs rs' : List Record}

/-- Works are continued by works that begin where they end. -/
theorem trans (h : Works employed w rs w') (h' : Works employed w' rs' w'') :
    Works employed w (rs ++ rs') w'' := by
  -- the later works are laid upon the earlier ones, step by step
  induction h' with
  | rest => rwa [List.append_nil]
  | aside _ haside ih => exact .aside ih haside
  | task _ hactor htask hcalls ih =>
    rw [← List.append_assoc]
    exact .task ih hactor htask hcalls

theorem mono (h : Works employed w rs w') (hmore : ∀ a, employed a → more a) :
    Works more w rs w' := by
  induction h with
  | rest => exact .rest _
  | aside _ haside ih => exact .aside ih haside
  | task _ hactor htask hcalls ih => exact .task ih (hmore _ hactor) htask hcalls

/-- **The log grows by the calls of the tasks.** -/
theorem calls_eq (h : Works employed w rs w') :
    w'.daemon.calls = w.daemon.calls ++ rs.map (·.call) := by
  induction h with
  | rest => exact (List.append_nil _).symm
  | aside _ haside ih => exact haside.calls_eq.trans ih
  | task _ _ _ hcalls ih =>
    have hown : ∀ (w' : World) (actor : Actor) (calls : List Daemon.Call),
        (calls.map (Record.mk w' actor)).map (·.call) = calls := by
      intro w' actor calls
      rw [List.map_map]
      exact List.map_id' calls
    rw [hcalls, ih, List.map_append, hown, List.append_assoc]

/-- Works leave the state of the supervisor as it is, which is why it can be that of any
moment. -/
theorem health_eq (h : Works employed w rs w') : w'.health = w.health := by
  induction h with
  | rest => rfl
  | aside _ haside ih => exact haside.health_eq.trans ih
  | task _ _ htask _ ih => exact htask.frame.2.trans ih

/-- Nor do they change any settings. -/
theorem settings_eq (h : Works employed w rs w') : w'.store.settings = w.store.settings := by
  induction h with
  | rest => rfl
  | aside _ haside ih => exact haside.settings_eq.trans ih
  | task _ _ htask _ ih => exact (congrArg Store.settings htask.frame.1).trans ih

/-- **Every call is one of its actor**, who is employed, in a world with the
settings and the state of the supervisor that the works began with. -/
theorem makes (h : Works employed w rs w') :
    ∀ r ∈ rs, r.actor.Makes r.world r.call ∧ employed r.actor
      ∧ r.world.store.settings = w.store.settings ∧ r.world.health = w.health := by
  induction h with
  | rest => exact fun r hr => absurd hr List.not_mem_nil
  | aside _ _ ih => exact ih
  | task hbefore hactor htask hcalls ih =>
    intro r hr
    rcases List.mem_append.1 hr with hr | hr
    · exact ih r hr
    · obtain ⟨call, hcall, rfl⟩ := List.mem_map.1 hr
      -- a task's calls are what the log has grown by, so there is no doubt which they are
      obtain ⟨calls, heq, hmakes⟩ := htask.logs
      have hsame := List.append_cancel_left (heq.symm.trans hcalls)
      exact ⟨hmakes call (hsame ▸ hcall), hactor, hbefore.settings_eq, hbefore.health_eq⟩

end Works

/-- Works lead from one world to another. -/
def Leads (employed : Actor → Prop) (w w' : World) : Prop := ∃ rs, Works employed w rs w'

namespace Leads

variable {w w' w'' : World} {actor : Actor}

theorem refl (w : World) : Leads employed w w := ⟨[], .rest w⟩

theorem trans (h : Leads employed w w') (h' : Leads employed w' w'') : Leads employed w w'' := by
  obtain ⟨rs, hworks⟩ := h
  obtain ⟨rs', hworks'⟩ := h'
  exact ⟨rs ++ rs', hworks.trans hworks'⟩

theorem mono (h : Leads employed w w') (hmore : ∀ a, employed a → more a) : Leads more w w' :=
  h.imp fun _ hworks => hworks.mono hmore

theorem of_aside (h : Aside w w') : Leads employed w w' := ⟨[], .aside (.rest w) h⟩

/-- One task leads to where it ends: `Task.logs` says which calls it makes. -/
theorem of_task (hactor : employed actor) (h : Task w actor w') : Leads employed w w' := by
  obtain ⟨calls, hcalls, _⟩ := h.logs
  exact ⟨_, .task (.rest w) hactor h hcalls⟩

end Leads

/-! ## §5. The works of an operation. -/

section Feed

open Listener

variable {currency : Currency} {f : Feed} {w : World}

/-- Of the listeners only the rotation calls the daemon, for the event that it handles. -/
theorem leads_act (k : Listener.Kind) (currency : Currency) (e : Swap.Event) (w : World) :
    Leads (· = .rotator e) w (k.act currency e w) := by
  cases k with
  | settlement =>
    obtain ⟨ledger, notifications, h⟩ := Reconciler.frames_handle currency e w
    have haside : Aside w (Reconciler.handle currency e w).2 := by
      rw [h]
      exact ⟨rfl, rfl, rfl⟩
    exact .of_aside haside
  | rotation => exact .of_task rfl (.rotate e)
  | recorder => exact .refl w
  | failing => exact .refl w
  | crashing => exact .refl w
  | log => exact .refl w

/-- A turn is for the first event of the mailbox, which is one of its events. -/
theorem leads_takeTurn (currency : Currency) (l : Listener) (w : World) :
    Leads (Actor.IsRotatorOf l.mailbox.items) w (l.takeTurn currency w).2 := by
  unfold takeTurn
  split
  · exact .refl w
  · rename_i e rest h
    refine (leads_act l.kind currency e w).mono fun a ha => ⟨e, ?_, ha⟩
    rw [h]
    exact List.mem_cons_self

/-- Listeners at work employ the rotator for events that they have mail of. -/
theorem leads_takeTurns (currency : Currency) (ls : List Listener) (w : World) :
    Leads (fun a => ∃ e, HasMail ls e ∧ a = .rotator e) w (takeTurns currency ls w).2 := by
  induction ls generalizing w with
  | nil => exact .refl w
  | cons l ls ih =>
    -- the first listener has mail of its own, the others keep theirs meanwhile
    refine ((leads_takeTurn currency l w).mono ?_).trans ((ih _).mono ?_)
    · rintro a ⟨e, he, ha⟩
      exact ⟨e, ⟨l, List.mem_cons_self, he⟩, ha⟩
    · rintro a ⟨e, ⟨l', hl', he⟩, ha⟩
      exact ⟨e, ⟨l', List.mem_cons_of_mem _ hl', he⟩, ha⟩

/-- Rounds bring no new mail, so that events are the same as before the first. -/
theorem leads_takeRounds (currency : Currency) (n : Nat) (ls : List Listener) (w : World) :
    Leads (fun a => ∃ e, HasMail ls e ∧ a = .rotator e) w (takeRounds currency n ls w).2 := by
  induction n generalizing ls w with
  | zero => exact .refl w
  | succ n ih =>
    refine (leads_takeTurns currency ls w).trans ((ih _ _).mono ?_)
    rintro a ⟨e, he, ha⟩
    -- mail that is there in a later round was there before the first
    exact ⟨e, he.of_takeTurns, ha⟩

/-- **What is published keeps the listeners at work** until all mail is
handled; no other events are rotated for. -/
theorem leads_spread (h : f.IsSettled) (currency : Currency) (es : List Swap.Event) (w : World) :
    Leads (Actor.IsRotatorOf es) w (f.spread currency es w).2 := by
  refine (leads_takeRounds currency (f.publish es).backlog (f.publish es).listeners w).mono ?_
  rintro a ⟨e, he, ha⟩
  exact ⟨e, h.of_hasMail he, ha⟩

/-- The same of events that are spread one by one, by `isSettled_spread` in between. -/
theorem leads_spreadEach (h : f.IsSettled) (currency : Currency) (es : List Swap.Event)
    (w : World) : Leads (Actor.IsRotatorOf es) w (f.spreadEach currency es w).2 := by
  induction es generalizing f w with
  | nil => exact .refl w
  | cons e es ih =>
    -- the feed is settled again before the next event is published
    have hrest := ih (Feed.isSettled_spread currency [e] f w) (f.spread currency [e] w).2
    refine ((leads_spread h currency [e] w).mono ?_).trans (hrest.mono ?_)
    · rintro a ⟨e', he', ha⟩
      exact ⟨e', List.mem_cons.2 (.inl (List.mem_singleton.1 he')), ha⟩
    · rintro a ⟨e', he', ha⟩
      exact ⟨e', List.mem_cons_of_mem _ he', ha⟩

/-- The stream is opened with the connection of the administrator. -/
theorem leads_subscribe (f : Feed) (w : World) : Leads (· = .stream) w (f.subscribe w).2 := by
  unfold Feed.subscribe
  split
  · cases hc : w.health.admin? with
    | none =>
      dsimp only
      split <;> exact .refl w
    | some c => exact .of_task rfl (.openStream _ hc)
  · exact .refl w

/-- A start opens the stream at most; where the feed was stopped or the stream is in
use it does nothing. -/
theorem leads_startStream (f : Feed) (w : World) : Leads (· = .stream) w (f.startStream w).2 := by
  unfold Feed.startStream
  split
  · split
    · exact .refl w
    · exact leads_subscribe _ w
  · exact .refl w

/-- A stream that ends is asked for again. -/
theorem leads_endStream (f : Feed) (w : World) : Leads (· = .stream) w (f.endStream w).2 := by
  have hclosed : Leads (· = .stream) w { w with daemon := { w.daemon with subscribers := 0 } } :=
    .of_aside ⟨rfl, rfl, rfl⟩
  unfold Feed.endStream
  split
  · exact hclosed.trans (leads_subscribe _ _)
  · exact hclosed

/-- Reports of the stream come one by one to the listeners, as the events that they tell of. -/
theorem leads_receive (h : f.IsSettled) (currency : Currency) (rs : List Swap.Report) (w : World) :
    Leads (Actor.IsRotatorOf (rs.filterMap Swap.Event.ofReport?)) w
      (f.receive currency rs w).2.2 := by
  unfold Feed.receive
  split
  · exact leads_spreadEach h currency _ w
  · exact .refl w

/-- A catch-up asks one store after the other. -/
theorem leads_ofStores {all stores : List (String × Settings)} (destinations : List String)
    (hall : w.store.allSettings = .ok all) (hsub : ∀ entry ∈ stores, entry ∈ all) :
    Leads (∃ store, · = .catchUp store) w (Poll.ofStores destinations stores w).2 := by
  induction stores generalizing w with
  | nil => exact .refl w
  | cons entry stores ih =>
    obtain ⟨id, settings⟩ := entry
    have htask : Task w (.catchUp id) (Poll.ofStore destinations settings w).2 :=
      .list destinations hall (hsub _ List.mem_cons_self)
    refine (Leads.of_task ⟨id, rfl⟩ htask).trans
      (ih ?_ fun entry h => hsub entry (List.mem_cons_of_mem _ h))
    rw [htask.frame.1]
    exact hall

/-- A catch-up asks for stores, and the listeners are given what it found. -/
theorem leads_poll (h : f.IsSettled) (currency : Currency) (withInvoices : Bool) (w : World) :
    Leads (fun a => (∃ store, a = .catchUp store)
        ∨ ∃ es, (Poll.run withInvoices w).1 = .ok es ∧ Actor.IsRotatorOf es a)
      w (f.poll currency withInvoices w).2.2 := by
  unfold Feed.poll
  split
  · exact .refl w
  · cases hall : w.store.allSettings with
    | error fault =>
      unfold Poll.run
      rw [hall]
      exact .refl w
    | ok all =>
      rw [Poll.run_of_settings withInvoices hall]
      -- first the listings, each under its own store's settings, then whatever hears of the
      -- swaps
      have hlists := leads_ofStores (if withInvoices then Poll.openDestinations w.platform else [])
        hall fun _ h => h
      have hpolled : ({ f with polled := true } : Feed).IsSettled := h
      exact (hlists.mono fun a ha => .inl ha).trans
        ((leads_spread hpolled currency _ _).mono fun a ha => .inr ⟨_, rfl, ha⟩)

end Feed

section Invoices

open PartialPayment

variable {w v : World} {es : List Invoice.Event}

/-- Of two worlds the later one has the same store, and its invoices are with
the same stores. -/
structure SameStores (w v : World) : Prop where
  store_eq : v.store = w.store
  storeOf_eq : v.platform.storeOf = w.platform.storeOf

/-- What waits for the daemon was prepared over the store as it is, for the
invoice of one of the events. -/
def IsPrepared (es : List Invoice.Event) (w : World) (progress : Progress) : Prop :=
  ∀ i o, progress = .waiting i o → Actor.IsProvisionerOf w.platform es (.provisioner i)
    ∧ ∃ before : World, before.store = w.store ∧ (prepare i before).1 = .ok o

/-- To `start` an event calls nobody; what it leaves waiting `IsPrepared`. -/
theorem aside_start (p : Provisioner) {e : Invoice.Event} (he : e ∈ es) (hv : SameStores w v) :
    Aside v (start p e v).2 ∧ SameStores w (start p e v).2
      ∧ IsPrepared es w (start p e v).1 := by
  obtain ⟨⟨pool, platform, h, hstores⟩, hprepared⟩ := start_cases p e v
  refine ⟨?_, ?_, fun i o ho => ?_⟩
  · rw [h]
    exact ⟨rfl, rfl, rfl⟩
  · rw [h]
    exact ⟨hv.store_eq, hstores.trans hv.storeOf_eq⟩
  · obtain ⟨ho, hi⟩ := hprepared i o ho
    exact ⟨⟨e, he, i, rfl, hv.storeOf_eq ▸ hi⟩, v, hv.store_eq, ho⟩

/-- To `finish` what was prepared is one task of the provisioner, whatever happened in
between. -/
theorem leads_finish {progress : Progress} (h : IsPrepared es w progress)
    (hv : v.store = w.store) :
    Leads (Actor.IsProvisionerOf w.platform es) v (finish progress v).2
      ∧ (finish progress v).2.store = w.store := by
  cases progress with
  | finished o => exact ⟨.refl v, hv⟩
  | waiting i o =>
    obtain ⟨hactor, before, hstore, ho⟩ := h i o rfl
    have htask : Task v (.provisioner i) (place o v).2 := .place (hstore.trans hv.symm) ho
    obtain ⟨platform, hfinish⟩ := finish_waiting i o v
    rw [hfinish]
    exact ⟨(Leads.of_task hactor htask).trans (.of_aside ⟨rfl, rfl, rfl⟩),
      htask.frame.1.trans hv⟩

/-- One event after the other: started and finished at once. -/
theorem leads_handle (p : Provisioner) (e : Invoice.Event) (w : World) :
    Leads (Actor.IsProvisionerOf w.platform [e]) w (PartialPayment.handle p e w).2 := by
  obtain ⟨hstart, hsame, hprepared⟩ := aside_start p (List.mem_singleton_self e) ⟨rfl, rfl⟩
  exact (Leads.of_aside hstart).trans (leads_finish hprepared hsame.store_eq).1

/-- Side by side, all events are started before the first is finished. -/
theorem leads_startAll (p : Provisioner) {rest : List Invoice.Event} (hrest : ∀ e ∈ rest, e ∈ es)
    {done : List Progress} (hdone : ∀ progress ∈ done, IsPrepared es w progress)
    (hv : SameStores w v) :
    ∃ done' v', rest.foldl
        (fun (done, w) e => let (progress, w) := start p e w; (done ++ [progress], w)) (done, v)
          = (done', v')
      ∧ Leads employed v v' ∧ SameStores w v' ∧ ∀ progress ∈ done', IsPrepared es w progress := by
  induction rest generalizing done v with
  | nil => exact ⟨done, v, rfl, .refl v, hv, hdone⟩
  | cons e rest ih =>
    obtain ⟨hstart, hsame, hprepared⟩ := aside_start p (hrest e List.mem_cons_self) hv
    -- what was prepared earlier stays prepared: it is measured by the first world
    have hdone' : ∀ progress ∈ done ++ [(start p e v).1], IsPrepared es w progress := by
      intro progress hmem
      rcases List.mem_append.1 hmem with hmem | hmem
      · exact hdone progress hmem
      · rw [List.mem_singleton.1 hmem]
        exact hprepared
    obtain ⟨done', v', heq, hleads, hrest⟩ :=
      ih (fun e he => hrest e (List.mem_cons_of_mem _ he)) hdone' hsame
    exact ⟨done', v', heq, (Leads.of_aside hstart).trans hleads, hrest⟩

/-- While they are finished the store stays the same. -/
theorem leads_finishAll {done : List Progress}
    (hdone : ∀ progress ∈ done, IsPrepared es w progress) (hv : v.store = w.store) :
    Leads (Actor.IsProvisionerOf w.platform es) v
      (done.foldl (fun w progress => (finish progress w).2) v) := by
  induction done generalizing v with
  | nil => exact .refl v
  | cons progress done ih =>
    obtain ⟨hfinish, hstore⟩ := leads_finish (hdone progress List.mem_cons_self) hv
    exact hfinish.trans (ih (fun q hq => hdone q (List.mem_cons_of_mem _ hq)) hstore)

/-- **Events side by side** employ the provisioner for the invoices of these events and no
others. -/
theorem leads_handleAll (p : Provisioner) (es : List Invoice.Event) (w : World) :
    Leads (Actor.IsProvisionerOf w.platform es) w (handleAll p es w) := by
  have hnone : ∀ progress ∈ ([] : List Progress), IsPrepared es w progress :=
    fun _ h => absurd h List.not_mem_nil
  obtain ⟨done, v, heq, hleads, hsame, hdone⟩ :=
    leads_startAll p (fun _ he => he) hnone ⟨rfl, rfl⟩
  unfold handleAll
  rw [heq]
  exact hleads.trans (leads_finishAll hdone hsame.store_eq)

end Invoices

namespace Deployment

/-! ## §6. Sessions. -/

/-- What holds of a deployment between two operations. -/
structure IsAtRest (d : Deployment) : Prop where
  namesNoTenant : d.world.health.NamesNoTenant
  settled : d.feed.IsSettled

/-- A deployment starts at rest. -/
theorem isAtRest_start (daemon : Daemon) (token storePath : String) (files : FileTree) :
    (start daemon token storePath files).IsAtRest where
  namesNoTenant := fun admin hadmin => by
    cases hadmin
    rfl
  settled := fun _ h => by
    obtain ⟨l, hl, _⟩ := h
    exact absurd hl List.not_mem_nil

/-- An operation that leads from one deployment to the next, under the state of
the supervisor that it leaves. -/
structure Covers (op : Operation) (d : Deployment) (w : World) : Prop where
  leads : Leads (op.Employs d) { d.world with health := (op.run d).world.health } w
  calls_eq : (op.run d).world.daemon.calls = w.daemon.calls
  rests : (op.run d).IsAtRest

variable {op : Operation} {d : Deployment}

/-- An operation whose own world is led to, under a state of the supervisor that it keeps.
-/
theorem Covers.of_leads (hrest : d.IsAtRest) (h : Leads (op.Employs d) d.world (op.run d).world)
    (hsettled : (op.run d).feed.IsSettled) : Covers op d (op.run d).world := by
  obtain ⟨rs, hworks⟩ := h
  have hhealth := hworks.health_eq
  refine ⟨?_, rfl, hhealth.symm ▸ hrest.namesNoTenant, hsettled⟩
  rw [hhealth]
  exact ⟨rs, hworks⟩

/-- An operation that calls nobody, and leaves the listeners and the state of
the supervisor as they are. -/
theorem Covers.of_still (hrest : d.IsAtRest)
    (hcalls : (op.run d).world.daemon.calls = d.world.daemon.calls)
    (hhealth : (op.run d).world.health = d.world.health)
    (hsettled : (op.run d).feed.IsSettled) : Covers op d d.world := by
  refine ⟨?_, hcalls, hhealth.symm ▸ hrest.namesNoTenant, hsettled⟩
  rw [hhealth]
  exact .refl d.world

/-- The state of the supervisor is published, then the stream is asked for if
it is waited for. -/
theorem Covers.of_subscribe (hrest : d.IsAtRest) {v : World}
    (haside : Aside d.world { v with health := d.world.health })
    (hstream : ∀ a, a = .stream → op.Employs d a)
    (hworld : (op.run d).world = (d.feed.subscribe v).2)
    (hfeed : (op.run d).feed = (d.feed.subscribe v).1)
    (hnames : v.health.NamesNoTenant) : Covers op d (op.run d).world := by
  obtain ⟨rs, hworks⟩ := leads_subscribe d.feed v
  have hhealth : (op.run d).world.health = v.health := by
    rw [hworld]
    exact hworks.health_eq
  refine ⟨?_, rfl, hhealth.symm ▸ hnames, hfeed.symm ▸ hrest.settled.subscribe v⟩
  rw [hhealth, hworld]
  have hopening : Aside { d.world with health := v.health } v :=
    ⟨haside.calls_eq, haside.settings_eq, rfl⟩
  exact (Leads.of_aside hopening).trans ⟨rs, hworks.mono hstream⟩

/-- The connection to a daemon that becomes healthy is made by `Pool.connect` for no tenant;
where that fails nothing has happened. -/
theorem covers_becomeHealthy (token : String) (hrest : d.IsAtRest) :
    ∃ w, Covers (.becomeHealthy token) d w := by
  have hrun : (Operation.becomeHealthy token).run d = (d.becomeHealthy token).toOption.getD d := rfl
  unfold becomeHealthy at hrun
  -- only a connection that works is subscribed to, and it is the administrator's
  cases hconnect : d.world.pool.connect d.world.daemon.address token none with
  | mk connection pool =>
    rw [hconnect] at hrun
    cases connection with
    | error e =>
      have hsame : (Operation.becomeHealthy token).run d = d := hrun
      refine ⟨_, .of_leads hrest ?_ ?_⟩
      · rw [hsame]
        exact .refl d.world
      · rw [hsame]
        exact hrest.settled
    | ok c =>
      have htenant : c.tenant = none := Rpc.Pool.tenant_connect (by rw [hconnect])
      refine ⟨_, .of_subscribe hrest (v := { d.world with pool, health := .healthy c })
        ⟨rfl, rfl, rfl⟩ (fun _ ha => ha) (congrArg Deployment.world hrun)
        (congrArg Deployment.feed hrun) fun admin hadmin => ?_⟩
      cases hadmin
      exact htenant

/-- With the administrator's own credential a store is enabled without a call;
otherwise the `Broker` onboards it. -/
theorem covers_enable (store : String) (mode : Mode) (wallet : Option WalletRef)
    (hrest : d.IsAtRest) : ∃ w, Covers (.enable store mode wallet) d w := by
  rcases Broker.daemon_enable d.world.health store mode wallet d.store d.world.daemon with h | h
  · exact ⟨_, .of_still hrest (congrArg Daemon.calls h) rfl hrest.settled⟩
  · exact ⟨_, .of_task rfl (.onboard store), congrArg Daemon.calls h, hrest.namesNoTenant,
      hrest.settled⟩

/-- The `Reconciler` books what an event tells it and asks nobody. -/
theorem covers_swapEvent (e : Swap.Event) (hrest : d.IsAtRest) :
    ∃ w, Covers (.swapEvent e) d w := by
  obtain ⟨ledger, notifications, h⟩ := Reconciler.frames_handle d.currency e d.world
  have hworld : ((Operation.swapEvent e).run d).world
      = { d.world with
        store := { d.world.store with ledger }
        platform := { d.world.platform with notifications } } := h
  exact ⟨_, .of_still hrest (by rw [hworld]) (by rw [hworld]) hrest.settled⟩

/-- The mailbox keeps some of the events, and only for those the provisioner is at work. -/
theorem covers_invoiceEvents (capacity : Nat) (es : List Invoice.Event) (hrest : d.IsAtRest) :
    ∃ w, Covers (.invoiceEvents capacity es) d w := by
  have hkept : ∀ e ∈ (({} : Mailbox Invoice.Event).add (Mailbox.roundUp capacity) es).items,
      e ∈ es := fun e he => (Mailbox.mem_add he).resolve_left List.not_mem_nil
  refine ⟨_, .of_leads hrest ((leads_handleAll d.provisioner _ d.world).mono ?_) hrest.settled⟩
  rintro a ⟨e, he, ha⟩
  exact ⟨e, hkept e he, ha⟩

/-- The rotator handles one event and nothing else. -/
theorem covers_rotate (e : Swap.Event) (hrest : d.IsAtRest) : ∃ w, Covers (.rotate e) d w := by
  have htask : Task d.world (.rotator e) ((Operation.rotate e).run d).world := .rotate e
  exact ⟨_, .of_leads hrest (.of_task ⟨e, List.mem_singleton_self e, rfl⟩ htask) hrest.settled⟩

/-- The listeners get what is published, and leave no mail behind. -/
theorem covers_publish (es : List Swap.Event) (hrest : d.IsAtRest) :
    ∃ w, Covers (.publish es) d w :=
  ⟨_, .of_leads hrest (leads_spread hrest.settled d.currency es d.world)
    (Feed.isSettled_spread d.currency es d.feed d.world)⟩

/-- A catch-up asks the stores and gives the listeners what it found; a second one does
neither. -/
theorem covers_poll (withInvoices : Bool) (hrest : d.IsAtRest) :
    ∃ w, Covers (.poll withInvoices) d w :=
  ⟨_, .of_leads hrest (leads_poll hrest.settled d.currency withInvoices d.world)
    (hrest.settled.poll d.currency withInvoices d.world)⟩

/-- The reports of a stream are handled like events that are published one by one. -/
theorem covers_receive (rs : List Swap.Report) (hrest : d.IsAtRest) :
    ∃ w, Covers (.receive rs) d w :=
  ⟨_, .of_leads hrest (leads_receive hrest.settled d.currency rs d.world)
    (hrest.settled.receive d.currency rs d.world)⟩

/-- A bridge that has stopped has no listeners that could have mail. -/
theorem covers_stop (hrest : d.IsAtRest) : ∃ w, Covers .stop d w :=
  ⟨_, .of_still hrest rfl rfl fun _ ⟨_, hl, _⟩ => absurd hl List.not_mem_nil⟩

/-- A state without an administrator names no tenant. -/
theorem covers_leaveHealthy (state : Supervisor.State) (h : state.admin? = none)
    (hrest : d.IsAtRest) : ∃ w, Covers (.leaveHealthy state h) d w := by
  refine ⟨_, .of_subscribe hrest (v := { d.world with health := state }) ⟨rfl, rfl, rfl⟩
    (fun _ ha => ha) rfl rfl fun c hc => ?_⟩
  cases h.symm.trans hc

/-- Without news to come a stream that waits is opened at once, or it ends. -/
theorem covers_closeState (hrest : d.IsAtRest) : ∃ w, Covers .closeState d w := by
  have hclosed : ({ d.feed with published := false } : Feed).IsSettled := hrest.settled
  exact ⟨_, .of_leads hrest (leads_subscribe { d.feed with published := false } d.world)
    (hclosed.subscribe d.world)⟩

/-- **Every operation is covered by tasks of those it employs**, and leaves the
deployment at rest. -/
theorem covers_operation (op : Operation) (hrest : d.IsAtRest) : ∃ w, Covers op d w := by
  -- an operation that asks the daemon has its own lemma; the others lead nowhere
  cases op with
  | ensureTenant store => exact ⟨_, .of_leads hrest (.of_task rfl (.onboard store)) hrest.settled⟩
  | enable store mode wallet => exact covers_enable store mode wallet hrest
  | disable store => exact ⟨_, .of_still hrest rfl rfl hrest.settled⟩
  | swapEvent e => exact covers_swapEvent e hrest
  | invoiceEvent e =>
    exact ⟨_, .of_leads hrest (leads_handle d.provisioner e d.world) hrest.settled⟩
  | invoiceEvents capacity es => exact covers_invoiceEvents capacity es hrest
  | rotate e => exact covers_rotate e hrest
  | listen kinds => exact ⟨_, .of_still hrest rfl rfl (hrest.settled.listen kinds)⟩
  | publish es => exact covers_publish es hrest
  | poll withInvoices => exact covers_poll withInvoices hrest
  | startStream =>
    exact ⟨_, .of_leads hrest (leads_startStream d.feed d.world)
      (hrest.settled.startStream d.world)⟩
  | receive rs => exact covers_receive rs hrest
  | endStream =>
    exact ⟨_, .of_leads hrest (leads_endStream d.feed d.world) (hrest.settled.endStream d.world)⟩
  | stop => exact covers_stop hrest
  | becomeHealthy token => exact covers_becomeHealthy token hrest
  | leaveHealthy state h => exact covers_leaveHealthy state h hrest
  | closeState => exact covers_closeState hrest
  | elsewhere around => exact ⟨_, .of_still hrest rfl rfl hrest.settled⟩

/-- The calls of a session, operation by operation: the works of each begin in
the world that the operation finds, under the state of the supervisor that it
leaves, and are done for those whom it employs. -/
inductive Session : Deployment → List Operation → List Record → Prop where
  | nil (d : Deployment) : Session d [] []
  | cons {d : Deployment} {op : Operation} {ops : List Operation} {rs rs' : List Record}
      {w : World}
      (hworks : Works (op.Employs d) { d.world with health := (op.run d).world.health } rs w)
      (hcalls : (op.run d).world.daemon.calls = w.daemon.calls)
      (h : Session (op.run d) ops rs') : Session d (op :: ops) (rs ++ rs')

namespace Session

variable {ops : List Operation} {rs : List Record}

/-- **The log of a session is the calls of its tasks.** -/
theorem calls_eq (h : Session d ops rs) :
    (after ops d).world.daemon.calls = d.world.daemon.calls ++ rs.map (·.call) := by
  induction h with
  | nil d => exact (List.append_nil _).symm
  | cons hworks hcalls _ ih =>
    rw [List.map_append, ← List.append_assoc]
    have hown := hcalls.trans hworks.calls_eq
    exact ih.trans (congrArg (· ++ _) hown)

/-- **Every call of a session is one of its actor**, and the administrator's
connection is for no tenant all along. -/
theorem makes (h : Session d ops rs) (hrest : d.IsAtRest) :
    ∀ r ∈ rs, r.actor.Makes r.world r.call ∧ r.world.health.NamesNoTenant := by
  induction h with
  | nil d => exact fun r hr => absurd hr List.not_mem_nil
  | @cons d op _ _ _ _ hworks _ _ ih =>
    -- the works of the operation may be others than these, but what it leaves is the same
    obtain ⟨_, hcovers⟩ := covers_operation op hrest
    intro r hr
    rcases List.mem_append.1 hr with hr | hr
    · obtain ⟨hmakes, _, _, hhealth⟩ := hworks.makes r hr
      exact ⟨hmakes, hhealth.symm ▸ hcovers.rests.namesNoTenant⟩
    · exact ih hcovers.rests r hr

end Session

/-- **Any operations make a session.** -/
theorem session_exists (ops : List Operation) (hrest : d.IsAtRest) : ∃ rs, Session d ops rs := by
  induction ops generalizing d with
  | nil => exact ⟨[], .nil d⟩
  | cons op ops ih =>
    obtain ⟨w, ⟨rs, hworks⟩, hcalls, hrests⟩ := covers_operation op hrest
    obtain ⟨rs', hsession⟩ := ih hrests
    exact ⟨rs ++ rs', .cons hworks hcalls hsession⟩

end Deployment

end SwapBridge
