/-
  SwapBridge.Proofs.Daemon
  ────────────────────────
  **WHAT A CALL LEAVES BEHIND AT THE DAEMON.**

  Every method goes through `accept`: a call is turned away before the daemon
  sees it, or it is logged once and then served or answered by its fault.

    • `serve_cases` — turned away, faulted, or served,
    • `calls_serve` — a call is logged once at most, and once if it is answered,
    • `Logs` — the calls that were logged since some moment are of one kind,
    • `getTenant_cases`, `createTenant_cases`, `bakeMacaroon_cases` — what the
      calls about tenants answer, and what they make of the tenants,
    • `listSwaps_eq` — what is heard of swaps, by the faults that are scheduled,
    • `getConfig_cases`, `updateChainConfig_cases` — what is heard of automatic
      swaps, and what an update makes of them.
-/
import SwapBridge.Daemon.Basic

namespace SwapBridge.Daemon

/-! ## §1. Calls. -/

/-- How a call stands in the log. -/
def entry (c : Rpc.Connection) (r : Request) : Call := ⟨c.token, Rpc.tenantHeader c.tenant, r⟩

/-- A daemon that has logged a call. -/
def logged (c : Rpc.Connection) (r : Request) (d : Daemon) : Daemon :=
  { d with faults := (takeFault r.method d.faults).2, calls := d.calls ++ [entry c r] }

@[simp] theorem tenants_logged (c : Rpc.Connection) (r : Request) (d : Daemon) :
    (d.logged c r).tenants = d.tenants := rfl

/-- A call comes through and is logged, or it does not: `accept` says so by its answer. -/
theorem accept_cases (c : Rpc.Connection) (r : Request) (d : Daemon) :
    (∃ s, d.accept c r = (.error s, d)) ∨ ∃ answer, d.accept c r = (answer, d.logged c r) := by
  unfold accept
  split
  · exact .inl ⟨_, rfl⟩
  · split
    · exact .inl ⟨_, rfl⟩
    · right
      unfold logged
      cases takeFault r.method d.faults with
      | mk fault rest => cases fault <;> exact ⟨_, rfl⟩

/-- **A call is turned away with nothing changed, or it is logged and meets its
fault, or it is logged and served.** -/
theorem serve_cases {α : Type} (c : Rpc.Connection) (r : Request)
    (f : Daemon → Except Rpc.Status α × Daemon) (d : Daemon) :
    (∃ s, serve c r f d = (.error s, d))
    ∨ (∃ s, serve c r f d = (.error s, d.logged c r))
    ∨ serve c r f d = ((f (d.logged c r)).1.mapError asHeard, (f (d.logged c r)).2) := by
  unfold serve
  rcases accept_cases c r d with ⟨s, h⟩ | ⟨answer, h⟩
  · rw [h]
    exact .inl ⟨s, rfl⟩
  · rw [h]
    cases answer with
    | error s => exact .inr (.inl ⟨s, rfl⟩)
    | ok u => exact .inr (.inr rfl)

/-- A call is logged once at most, and it is logged if it is answered. -/
theorem calls_serve {α : Type} {f : Daemon → Except Rpc.Status α × Daemon}
    (hf : ∀ d, (f d).2.calls = d.calls) (c : Rpc.Connection) (r : Request) (d : Daemon) :
    ((serve c r f d).2.calls = d.calls ∧ ∃ s, (serve c r f d).1 = .error s)
    ∨ (serve c r f d).2.calls = d.calls ++ [entry c r] := by
  rcases serve_cases c r f d with ⟨s, h⟩ | ⟨s, h⟩ | h
  · rw [h]
    exact .inl ⟨rfl, s, rfl⟩
  · rw [h]
    exact .inr rfl
  · rw [h]
    exact .inr (hf (d.logged c r))

/-- A chain swap is asked for in one call, if the daemon is reached. -/
theorem calls_createChainSwap (c : Rpc.Connection) (r : ChainSwapRequest) (d : Daemon) :
    ((d.createChainSwap c r).2.calls = d.calls ∧ ∃ s, (d.createChainSwap c r).1 = .error s)
    ∨ (d.createChainSwap c r).2.calls = d.calls ++ [entry c (.createChainSwap r)] := by
  refine calls_serve (fun d => ?_) c (.createChainSwap r) d
  dsimp only
  split <;> rfl

/-! ## §2. The log. -/

section Logs

variable {P Q : Call → Prop} {d d' d'' : Daemon} {c : Rpc.Connection} {r : Request}

/-- Since an earlier moment a daemon has logged calls of one kind and no others. -/
def Logs (P : Call → Prop) (d d' : Daemon) : Prop :=
  ∃ calls, d'.calls = d.calls ++ calls ∧ ∀ call ∈ calls, P call

theorem Logs.of_eq (h : d'.calls = d.calls) : Logs P d d' :=
  ⟨[], by rw [h, List.append_nil], fun _ hcall => absurd hcall List.not_mem_nil⟩

/-- Logs grow by one piece after the other. -/
theorem Logs.trans (h : Logs P d d') (h' : Logs P d' d'') : Logs P d d'' := by
  obtain ⟨calls, heq, hcalls⟩ := h
  obtain ⟨calls', heq', hcalls'⟩ := h'
  refine ⟨calls ++ calls', by rw [heq', heq, List.append_assoc], fun call hcall => ?_⟩
  rcases List.mem_append.1 hcall with hcall | hcall
  · exact hcalls call hcall
  · exact hcalls' call hcall

theorem Logs.mono (h : Logs P d d') (hPQ : ∀ call, P call → Q call) : Logs Q d d' := by
  obtain ⟨calls, heq, hcalls⟩ := h
  exact ⟨calls, heq, fun call hcall => hPQ call (hcalls call hcall)⟩

/-- To log a call adds that call. -/
theorem logs_logged (c : Rpc.Connection) (r : Request) (d : Daemon) :
    Logs (· = entry c r) d (d.logged c r) :=
  ⟨[entry c r], rfl, fun _ hcall => List.mem_singleton.1 hcall⟩

/-- A call logs itself and nothing else. -/
theorem logs_serve {α : Type} {f : Daemon → Except Rpc.Status α × Daemon}
    (hf : ∀ d, (f d).2.calls = d.calls) (c : Rpc.Connection) (r : Request) (d : Daemon) :
    Logs (· = entry c r) d (serve c r f d).2 := by
  rcases calls_serve hf c r d with ⟨h, _⟩ | h
  · exact .of_eq h
  · exact ⟨[entry c r], h, fun _ hcall => List.mem_singleton.1 hcall⟩

/-- To read from the daemon adds the call for it, whatever the answer. -/
theorem logs_read {α : Type} (c : Rpc.Connection) (r : Request) (f : Daemon → Except Rpc.Status α)
    (d : Daemon) : Logs (· = entry c r) d (read c r f d).2 :=
  logs_serve (fun _ => rfl) c r d

/-- A daemon that did not serve a call is as before, or it has logged the call. -/
def Unserved (c : Rpc.Connection) (r : Request) (d d' : Daemon) : Prop :=
  d' = d ∨ d' = d.logged c r

/-- A call that is not served may be logged or not. -/
theorem Unserved.logs (h : Unserved c r d d') : Logs (· = entry c r) d d' := by
  rcases h with rfl | rfl
  · exact .of_eq rfl
  · exact logs_logged c r d

theorem Unserved.autoswap (h : Unserved c r d d') : d'.autoswap = d.autoswap := by
  rcases h with rfl | rfl <;> rfl

end Logs

/-! ## §3. Tenants and macaroons. -/

/-- A look-up changes no tenant, and what it finds is a tenant. -/
theorem getTenant_cases (c : Rpc.Connection) (name : String) (d : Daemon) :
    (d.getTenant c name).2.tenants = d.tenants
      ∧ ∀ t, (d.getTenant c name).1 = .ok t → d.tenants.get? name = some t.id := by
  unfold getTenant read
  rcases serve_cases c (.getTenant name) _ d with ⟨s, h⟩ | ⟨s, h⟩ | h
  · rw [h]
    exact ⟨rfl, fun t ht => by cases ht⟩
  · rw [h]
    exact ⟨rfl, fun t ht => by cases ht⟩
  · rw [h]
    refine ⟨rfl, fun t ht => ?_⟩
    dsimp only at ht
    rw [tenants_logged] at ht
    cases hid : d.tenants.get? name with
    | none =>
      rw [hid] at ht
      cases ht
    | some id =>
      rw [hid] at ht
      cases ht
      rfl

/-- A tenant is made under a name that is free, or nothing is changed. -/
theorem createTenant_cases (c : Rpc.Connection) (name : String) (d : Daemon) :
    (∃ s d', d.createTenant c name = (.error s, d') ∧ d'.tenants = d.tenants)
    ∨ ∃ t d', d.createTenant c name = (.ok t, d') ∧ d.tenants.get? name = none
      ∧ d'.tenants = d.tenants.insert name t.id := by
  unfold createTenant
  rcases serve_cases c (.createTenant name) _ d with ⟨s, h⟩ | ⟨s, h⟩ | h
  · exact .inl ⟨s, _, h, rfl⟩
  · exact .inl ⟨s, _, h, rfl⟩
  · rw [h, tenants_logged]
    by_cases hname : d.tenants.contains name = true
    · rw [if_pos hname]
      exact .inl ⟨_, _, rfl, rfl⟩
    · rw [if_neg hname]
      refine .inr ⟨_, _, rfl, ?_, rfl⟩
      unfold Table.contains at hname
      simpa using hname

/-- A macaroon is baked as asked and for the tenant that is named, or no answer
is given; the tenants stay as they are. -/
theorem bakeMacaroon_cases (c : Rpc.Connection) (tenant : UInt64) (actions : List Action)
    (d : Daemon) :
    (∃ s d', d.bakeMacaroon c tenant actions = (.error s, d') ∧ d'.tenants = d.tenants)
    ∨ d.bakeMacaroon c tenant actions
      = (.ok (Hex.ofString (macaroonText tenant (d.macaroons + 1))),
          { d.logged c (.bakeMacaroon tenant actions) with macaroons := d.macaroons + 1 }) := by
  unfold bakeMacaroon
  rcases serve_cases c (.bakeMacaroon tenant actions) _ d with ⟨s, h⟩ | ⟨s, h⟩ | h
  · exact .inl ⟨s, _, h, rfl⟩
  · exact .inl ⟨s, _, h, rfl⟩
  · rw [h]
    exact .inr rfl

/-! ## §4. Swaps. -/

/-- The swaps that calls for a tenant see; without a tenant they see all. -/
def visible (tenant : Option UInt64) (l : Swap.Listing) : Swap.Listing :=
  match tenant with
  | none => l
  | some tenant => l.ofTenant tenant

/-- Whether a call arrives: the daemon is at the address, and it looks at the headers. -/
def Receives (d : Daemon) (c : Rpc.Connection) : Prop :=
  d.answersAt c.address = true ∧ c.isOversized = false

instance (d : Daemon) (c : Rpc.Connection) : Decidable (d.Receives c) :=
  inferInstanceAs (Decidable (_ ∧ _))

/-- The faults that the calls of a method will meet, one after the other. -/
def schedule (m : Method) (d : Daemon) : List (Option Rpc.Status) := (d.faults.lookup m).getD []

/-- `takeFault` gives the head of the first queue of its method and leaves the rest of that
queue. -/
theorem takeFault_eq (m : Method) (fs : List (Method × List (Option Rpc.Status))) :
    (takeFault m fs).1 = ((fs.lookup m).getD []).head?.join
      ∧ ((takeFault m fs).2.lookup m).getD [] = ((fs.lookup m).getD []).tail := by
  induction fs with
  | nil => exact ⟨rfl, rfl⟩
  | cons entry fs ih =>
    obtain ⟨k, queue⟩ := entry
    unfold takeFault
    by_cases hk : k = m
    · subst hk
      simp
    · have hne : (m == k) = false := beq_eq_false_iff_ne.2 (Ne.symm hk)
      simp only [hk, if_false, List.lookup_cons, hne]
      exact ih

/-- A call takes its fault off the schedule. -/
theorem schedule_logged (c : Rpc.Connection) (r : Request) (d : Daemon) :
    (d.logged c r).schedule r.method = (d.schedule r.method).tail :=
  (takeFault_eq r.method d.faults).2

/-- The faults of other methods stay as they are. -/
theorem lookup_takeFault_of_ne {m m' : Method} (h : m' ≠ m)
    (fs : List (Method × List (Option Rpc.Status))) :
    (takeFault m fs).2.lookup m' = fs.lookup m' := by
  induction fs with
  | nil => rfl
  | cons entry fs ih =>
    obtain ⟨k, queue⟩ := entry
    unfold takeFault
    by_cases hk : k = m
    · subst hk
      have hne : (m' == k) = false := beq_eq_false_iff_ne.2 h
      simp only [if_pos, List.lookup_cons, hne]
    · simp only [hk, if_false, List.lookup_cons]
      rw [ih]

/-- The schedules of other methods stay as they are. -/
theorem schedule_logged_of_ne {m : Method} {r : Request} (h : m ≠ r.method) (c : Rpc.Connection)
    (d : Daemon) : (d.logged c r).schedule m = d.schedule m := by
  unfold schedule logged
  rw [lookup_takeFault_of_ne h]

/-- What a call hears that does not arrive: nobody is at the address, or its
headers are too large. -/
def turnedAway (c : Rpc.Connection) (d : Daemon) : Rpc.Status :=
  if d.answersAt c.address then oversized else unreachable c.address

/-- A call that does not arrive changes nothing. -/
theorem serve_of_not_receives {α : Type} {c : Rpc.Connection} {d : Daemon} (h : ¬ d.Receives c)
    (r : Request) (f : Daemon → Except Rpc.Status α × Daemon) :
    serve c r f d = (.error (d.turnedAway c), d) := by
  have haccept : d.accept c r = (.error (d.turnedAway c), d) := by
    unfold accept turnedAway
    cases hthere : d.answersAt c.address with
    | false => rfl
    | true =>
      cases hsize : c.isOversized with
      | false => exact absurd ⟨hthere, hsize⟩ h
      | true => rfl
  unfold serve
  rw [haccept]

/-- A call that arrives is logged, and it is served unless its fault is due. -/
theorem serve_of_receives {α : Type} {c : Rpc.Connection} {d : Daemon} (h : d.Receives c)
    (r : Request) (f : Daemon → Except Rpc.Status α × Daemon) :
    serve c r f d = match (d.schedule r.method).head?.join with
      | some s => (.error (asHeard s), d.logged c r)
      | none => ((f (d.logged c r)).1.mapError asHeard, (f (d.logged c r)).2) := by
  unfold serve accept
  rw [h.1, h.2, show (d.schedule r.method).head?.join = (takeFault r.method d.faults).1 from
    (takeFault_eq r.method d.faults).1.symm]
  unfold logged
  cases takeFault r.method d.faults with
  | mk fault rest => cases fault <;> rfl

/-- What a store hears that lists its swaps: those it can see, unless the call
does not arrive or meets a fault. -/
theorem listSwaps_eq (c : Rpc.Connection) (d : Daemon) :
    (d.listSwaps c).2 = (if d.Receives c then d.logged c .listSwaps else d)
      ∧ (d.listSwaps c).1.toOption
        = if d.Receives c ∧ (d.schedule .listSwaps).head?.join = none
          then some (visible c.tenant d.swaps) else none := by
  have hserve : d.listSwaps c
      = serve c .listSwaps (fun d => (.ok (visible c.tenant d.swaps), d)) d := rfl
  rw [hserve]
  by_cases h : d.Receives c
  · rw [serve_of_receives h, if_pos h, show Request.listSwaps.method = .listSwaps from rfl]
    cases hfault : (d.schedule .listSwaps).head?.join with
    | some s => exact ⟨rfl, (if_neg fun hboth => by cases hboth.2).symm⟩
    | none => exact ⟨rfl, (if_pos ⟨h, rfl⟩).symm⟩
  · rw [serve_of_not_receives h, if_neg h, if_neg fun hboth => h hboth.1]
    exact ⟨rfl, rfl⟩

/-! ## §5. Automatic swaps. -/

/-- The configuration is read as it is, or no answer is given. -/
theorem getConfig_cases (c : Rpc.Connection) (d : Daemon) :
    (∃ s d', d.getConfig c = (.error s, d') ∧ Unserved c .getConfig d d')
    ∨ ∃ config, d.autoswap = some config
      ∧ d.getConfig c = (.ok config, d.logged c .getConfig) := by
  unfold getConfig read
  rcases serve_cases c .getConfig _ d with ⟨s, h⟩ | ⟨s, h⟩ | h
  · exact .inl ⟨s, d, h, .inl rfl⟩
  · exact .inl ⟨s, _, h, .inr rfl⟩
  · rw [h]
    dsimp only
    rw [show (d.logged c .getConfig).autoswap = d.autoswap from rfl]
    cases d.autoswap with
    | none => exact .inl ⟨_, _, rfl, .inr rfl⟩
    | some config => exact .inr ⟨config, rfl, rfl⟩

/-- A call that is answered with the configuration has arrived, and it is logged. -/
theorem getConfig_eq_ok {c : Rpc.Connection} {d : Daemon} {config : AutoswapConfig}
    (h : (d.getConfig c).1 = .ok config) :
    d.Receives c ∧ d.autoswap = some config ∧ (d.getConfig c).2 = d.logged c .getConfig := by
  rcases getConfig_cases c d with ⟨s, d', heq, _⟩ | ⟨config', hconfig, heq⟩
  · rw [heq] at h
    cases h
  · rw [heq] at h ⊢
    cases h
    refine ⟨Decidable.byContradiction fun hnot => ?_, hconfig, rfl⟩
    have hturned : d.getConfig c = (.error (d.turnedAway c), d) := by
      unfold getConfig read
      exact serve_of_not_receives hnot _ _
    rw [heq] at hturned
    cases hturned

/-- An update is made as asked, or the configuration stays as it is. -/
theorem updateChainConfig_cases (c : Rpc.Connection) (config : ChainConfig) (paths : List String)
    (d : Daemon) :
    (∃ s d', d.updateChainConfig c config paths = (.error s, d')
      ∧ Unserved c (.updateChainConfig config paths) d d')
    ∨ d.updateChainConfig c config paths
      = (.ok ((d.autoswap.getD {}).patchChain config paths),
          { d.logged c (.updateChainConfig config paths) with
            autoswap := some ((d.autoswap.getD {}).patchChain config paths) }) := by
  unfold updateChainConfig
  rcases serve_cases c (.updateChainConfig config paths) _ d with ⟨s, h⟩ | ⟨s, h⟩ | h
  · exact .inl ⟨s, d, h, .inl rfl⟩
  · exact .inl ⟨s, _, h, .inr rfl⟩
  · rw [h]
    exact .inr rfl

/-- An update of the lightning section is served or not, like one of the chain section;
where it is served `patchLightning` decides what it comes to. -/
theorem updateLightningConfig_cases (c : Rpc.Connection) (config : LightningConfig)
    (paths : List String) (d : Daemon) :
    (∃ s d', d.updateLightningConfig c config paths = (.error s, d')
      ∧ Unserved c (.updateLightningConfig config paths) d d')
    ∨ d.updateLightningConfig c config paths
      = (.ok ((d.autoswap.getD {}).patchLightning config paths),
          { d.logged c (.updateLightningConfig config paths) with
            autoswap := some ((d.autoswap.getD {}).patchLightning config paths) }) := by
  unfold updateLightningConfig
  rcases serve_cases c (.updateLightningConfig config paths) _ d with ⟨s, h⟩ | ⟨s, h⟩ | h
  · exact .inl ⟨s, d, h, .inl rfl⟩
  · exact .inl ⟨s, _, h, .inr rfl⟩
  · rw [h]
    exact .inr rfl

end SwapBridge.Daemon
