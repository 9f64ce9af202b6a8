/-
  SwapBridge.Proofs.Session.Credentials
  ─────────────────────────────────────
  **NO STORE SPEAKS FOR ANOTHER.**

  Broker, catch-up, provisioner and rotator share the channels to the daemon.
  Over any of them the administrator calls for no tenant, and only for what is
  the administrator's to do; every other call presents the credential that is
  kept at that moment for the store that it is made for.

    • `Presents`, `IsAdministrators` — what a call shows of its caller,
    • `Actor.Owns` — the calls that an actor may make, and as whom,
    • `calls_present_own_credentials` — all calls of any session.
-/
import SwapBridge.Proofs.Session

namespace SwapBridge

variable {w : World} {s : Settings} {call : Daemon.Call} {r : Daemon.Request}

/-- A call shows the credential of settings: their token, and their tenant
unless that is the administrator's. -/
structure Presents (s : Settings) (call : Daemon.Call) : Prop where
  token_eq : call.token = s.credential.token
  tenant_eq : call.tenant
    = if s.credential.tenantId = adminTenant then none
      else some (Decimal.write s.credential.tenantId.toNat)

/-- A call shows the administrator's token and no tenant. -/
structure IsAdministrators (w : World) (call : Daemon.Call) : Prop where
  token_eq : ∃ admin, w.health.admin? = some admin ∧ call.token = admin.token
  tenant_eq : call.tenant = none

/-- The connection of a store presents the credential of its settings with every request. -/
theorem presents_own (s : Settings) (r : Daemon.Request) :
    Presents s (Daemon.entry (Broker.own s) r) where
  token_eq := rfl
  tenant_eq := by
    show Rpc.tenantHeader (Broker.tenantHeader s.credential) = _
    unfold Broker.tenantHeader Credential.isAdmin
    by_cases h : s.credential.tenantId = adminTenant
    · rw [if_pos h, if_pos (beq_iff_eq.2 h)]
      rfl
    · rw [if_neg h, if_neg fun heq => h (beq_iff_eq.1 heq)]
      rfl

/-- A call over the administrator's connection presents its token and no tenant. -/
theorem isAdministrators_entry {admin : Rpc.Connection} (hnames : w.health.NamesNoTenant)
    (h : w.health.admin? = some admin) (r : Daemon.Request) :
    IsAdministrators w (Daemon.entry admin r) where
  token_eq := ⟨admin, h, rfl⟩
  tenant_eq := congrArg Rpc.tenantHeader (hnames admin h)

/-- A request about automatic swaps. -/
def IsAboutAutoswap (r : Daemon.Request) : Prop :=
  r = .getConfig ∨ (∃ config paths, r = .updateChainConfig config paths)
    ∨ ∃ config paths, r = .updateLightningConfig config paths

/-- The calls that an actor may make, and as whom. -/
def Actor.Owns (w : World) (call : Daemon.Call) : Actor → Prop
  | .onboarding store => IsAdministrators w call
    ∧ (call.request = .getTenant (tenantName store)
      ∨ call.request = .createTenant (tenantName store)
      ∨ ∃ tenant, call.request = .bakeMacaroon tenant [.read, .write])
  | .stream => IsAdministrators w call ∧ call.request = .getSwapInfoStream ""
  -- the store that is listed
  | .catchUp store => ∃ s, w.store.settingsOf store = .ok (some s) ∧ Presents s call
    ∧ call.request = .listSwaps
  -- the store of the invoice
  | .provisioner i => ∃ s, w.store.settingsOf i.store = .ok (some s) ∧ Presents s call
    ∧ ∃ swap, call.request = .createChainSwap swap
  -- the first store whose credential is for the tenant of the event
  | .rotator e => ∃ store s, w.store.settingsOf store = .ok (some s) ∧ Presents s call
    ∧ IsAboutAutoswap call.request ∧ s.credential.tenantId = e.tenantId
    ∧ ∀ other kept, w.store.settingsOf other = .ok (some kept) →
        kept.credential.tenantId = e.tenantId → ¬ other < store

/-- What an actor makes it may make. -/
theorem Actor.Makes.owns {actor : Actor} (hnames : w.health.NamesNoTenant)
    (h : actor.Makes w call) : actor.Owns w call := by
  cases actor with
  | onboarding store =>
    obtain ⟨admin, hadmin, hcall⟩ := h
    rcases hcall with rfl | rfl | ⟨tenant, rfl⟩
    · exact ⟨isAdministrators_entry hnames hadmin _, .inl rfl⟩
    · exact ⟨isAdministrators_entry hnames hadmin _, .inr (.inl rfl)⟩
    · exact ⟨isAdministrators_entry hnames hadmin _, .inr (.inr ⟨tenant, rfl⟩)⟩
  | stream =>
    obtain ⟨admin, hadmin, rfl⟩ := h
    exact ⟨isAdministrators_entry hnames hadmin _, rfl⟩
  | catchUp store =>
    obtain ⟨s, hs, rfl⟩ := h
    exact ⟨s, hs, presents_own s _, rfl⟩
  | provisioner i =>
    obtain ⟨s, swap, hs, rfl⟩ := h
    exact ⟨s, hs, presents_own s _, swap, rfl⟩
  | rotator e =>
    obtain ⟨t, _, store, s, hfinds, hcall⟩ := h
    obtain ⟨hs, htenant, hfirst⟩ := Store.ofTenant_eq_some hfinds.store_eq
    rcases hcall with rfl | ⟨new, rfl⟩
    · exact ⟨store, s, hs, presents_own s _, .inl rfl, htenant, hfirst⟩
    · -- which update it is depends on the field that the event has used
      refine ⟨store, s, hs, presents_own s _, .inr ?_, htenant, hfirst⟩
      cases t with
      | chainToAddress => exact .inl ⟨_, _, rfl⟩
      | lightningStaticAddress => exact .inr ⟨_, _, rfl⟩

/-- **NO STORE SPEAKS FOR ANOTHER**: whatever is done in a session and whatever
happens around it, the log of the daemon grows by calls that are each made by
an actor that the operation employs, in the world of that moment, with the
token and the tenant of the store that the actor works for, or as the
administrator for no tenant. -/
theorem calls_present_own_credentials (daemon : Daemon) (token storePath : String)
    (files : FileTree) (ops : List Deployment.Operation) :
    ∃ rs, Deployment.Session (.start daemon token storePath files) ops rs
      ∧ (Deployment.after ops (.start daemon token storePath files)).world.daemon.calls
        = daemon.calls ++ rs.map (·.call)
      ∧ ∀ r ∈ rs, r.actor.Owns r.world r.call := by
  have hrest := Deployment.isAtRest_start daemon token storePath files
  obtain ⟨rs, hsession⟩ := Deployment.session_exists ops hrest
  refine ⟨rs, hsession, hsession.calls_eq, fun r hr => ?_⟩
  obtain ⟨hmakes, hnames⟩ := hsession.makes hrest r hr
  exact hmakes.owns hnames

end SwapBridge
