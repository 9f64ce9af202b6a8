/-
  SwapBridge.Proofs.Rotation.Decision
  ───────────────────────────────────
  **WHEN AN ADDRESS IS DRAWN, AND WHAT COMES OF IT.**

  An address is drawn for an event exactly if the event, the settings, the
  connection and the configuration of the daemon all say so.  Then one update
  is sent, for the one field, and its fault decides how the handling ends.  In
  all other cases nothing is updated, and the first thing that does not fit
  decides what is answered.

    • `Asks` — what an event has to say, `used_eq_some_iff`,
    • `IsDue` — all that has to hold, down to the text of the field,
    • `replace_of_receives` — an update, by the faults that are scheduled,
    • `Renews`, `handle_of_isDue` — what an address that is due comes to,
    • `Hindrance`, `isDue_or_hindrance` — the first thing that does not fit otherwise,
    • `drawn_iff_due` — the whole decision.
-/
import SwapBridge.Proofs.Platform
import SwapBridge.Proofs.Rotation
import SwapBridge.Proofs.Rotation.SingleUse

namespace SwapBridge.Rotation

variable {e : Swap.Event} {w : World} {t : Target} {old store : String} {settings : Settings}
  {c : Rpc.Connection} {config : Daemon.AutoswapConfig}

/-! ## §1. What has to hold. -/

/-- An automated swap was just made, and it pays out to the address. -/
structure Asks (e : Swap.Event) (t : Target) (old : String) : Prop where
  automated : e.automated = true
  status_eq : e.status = Swap.statusCreated
  pays : match t with
    | .chainToAddress => e.kind = .chain ∧ e.toAddress = some old
    | .lightningStaticAddress => e.kind = .reverse ∧ e.claimAddress = some old

/-- **What an event uses up** is what it asks for. -/
theorem used_eq_some_iff : used e = some (t, old) ↔ Asks e t old := by
  unfold used
  by_cases hsays : e.automated = true ∧ e.status = Swap.statusCreated
  · obtain ⟨hautomated, hstatus⟩ := hsays
    rw [if_pos (by simp [hautomated, hstatus])]
    have hasks : Asks e t old ↔ match t with
        | .chainToAddress => e.kind = .chain ∧ e.toAddress = some old
        | .lightningStaticAddress => e.kind = .reverse ∧ e.claimAddress = some old :=
      ⟨Asks.pays, fun hpays => ⟨hautomated, hstatus, hpays⟩⟩
    rw [hasks]
    -- which address is asked for depends on the kind of the swap
    unfold Swap.Event.destination
    cases e.kind with
    | submarine => cases t <;> simp [Target.ofKind?]
    | reverse => cases t <;> cases e.claimAddress <;> simp [Target.ofKind?]
    | chain => cases t <;> cases e.toAddress <;> simp [Target.ofKind?]
  · rw [if_neg fun hboth => hsays (by simpa using hboth)]
    exact ⟨fun h => (by cases h), fun h => absurd ⟨h.automated, h.status_eq⟩ hsays⟩

/-- The text of a field, if its section is there. -/
def Target.text (t : Target) (a : Daemon.AutoswapConfig) : Option String :=
  match t with
  | .chainToAddress => a.chain.map (·.toAddress)
  | .lightningStaticAddress => a.lightning.map (·.staticAddress)

/-- A field shows its text unless that is empty. -/
theorem Target.configured_eq (t : Target) (a : Daemon.AutoswapConfig) :
    t.configured a = (t.text a).bind Swap.presentAddress := by
  cases t with
  | chainToAddress =>
    show a.chain.bind _ = (a.chain.map _).bind _
    cases a.chain <;> rfl
  | lightningStaticAddress =>
    show a.lightning.bind _ = (a.lightning.map _).bind _
    cases a.lightning <;> rfl

/-- **An address is due**: the event asks for one, the store that holds the tenant
is connected, and the daemon's configuration still shows the address that is used up. -/
structure IsDue (e : Swap.Event) (w : World) (t : Target) (old store : String)
    (settings : Settings) (c : Rpc.Connection) (config : Daemon.AutoswapConfig) : Prop where
  asks : Asks e t old
  holder : w.store.IsHolder e.tenantId store settings
  connected : (Broker.connect settings w.pool).1 = .ok c
  answered : (w.daemon.getConfig c).1 = .ok config
  shown : t.text config = some old
  present : old ≠ ""

/-- A field that shows an address which is due is a configured one. -/
theorem IsDue.configured (h : IsDue e w t old store settings c config) :
    t.configured config = some old := by
  rw [t.configured_eq, h.shown]
  exact Swap.presentAddress_eq_some.2 ⟨rfl, h.present⟩

/-! ## §2. Up to the configuration. -/

/-- An event that asks for no field is dropped before anything else is looked at. -/
theorem handle_of_not_asks (h : ∀ t old, ¬ Asks e t old) :
    handle e w = (.ok .notApplicable, w) := by
  have hused : used e = none := by
    cases hused : used e with
    | none => rfl
    | some found => exact absurd (used_eq_some_iff.1 hused) (h found.1 found.2)
  unfold handle
  rw [hused]

/-- Settings that cannot be read are a failure, since nobody can say who holds the tenant.
-/
theorem handle_of_unreadable {fault : Store.Fault} (hasks : Asks e t old)
    (hall : w.store.allSettings = .error fault) : handle e w = (.error (.findStore fault), w) := by
  unfold handle Store.ofTenant
  rw [used_eq_some_iff.2 hasks, hall]
  rfl

/-- A tenant that no store holds is somebody else's: the event is not applicable. -/
theorem handle_of_unheld (hasks : Asks e t old) {all : List (String × Settings)}
    (hall : w.store.allSettings = .ok all)
    (hnone : ∀ p ∈ all, p.2.credential.tenantId ≠ e.tenantId) :
    handle e w = (.ok .notApplicable, w) := by
  have hfind : w.store.ofTenant e.tenantId = .ok none := by
    unfold Store.ofTenant
    rw [hall]
    exact congrArg Except.ok (List.find?_eq_none.2 fun p hp => by simpa using hnone p hp)
  unfold handle
  rw [used_eq_some_iff.2 hasks]
  dsimp only
  rw [hfind]

/-- The holder's connection fails before the daemon is asked; what the `Pool` keeps is kept.
-/
theorem handle_of_unconnected (hasks : Asks e t old)
    (hholder : w.store.IsHolder e.tenantId store settings) {err : Broker.Error}
    (herr : (Broker.connect settings w.pool).1 = .error err) :
    handle e w
      = (.error (.connection err), { w with pool := (Broker.connect settings w.pool).2 }) := by
  unfold handle
  rw [used_eq_some_iff.2 hasks]
  dsimp only
  rw [Store.ofTenant_eq_some_iff.2 hholder]
  dsimp only
  cases hpool : Broker.connect settings w.pool with
  | mk connection pool =>
    rw [hpool] at herr
    obtain rfl : connection = .error err := herr
    rfl

/-- What is configured is asked for over the connection of the store. -/
theorem handle_of_connected (hasks : Asks e t old)
    (hholder : w.store.IsHolder e.tenantId store settings)
    (hc : (Broker.connect settings w.pool).1 = .ok c) :
    handle e w = compare t old store e.kind c
      { w with pool := (Broker.connect settings w.pool).2 } := by
  unfold handle
  rw [used_eq_some_iff.2 hasks]
  dsimp only
  rw [Store.ofTenant_eq_some_iff.2 hholder]
  dsimp only
  cases hpool : Broker.connect settings w.pool with
  | mk connection pool =>
    rw [hpool] at hc
    obtain rfl : connection = .ok c := hc
    rfl

/-! ## §3. The configuration. -/

/-- The world after the daemon was asked for its configuration. -/
def asked (settings : Settings) (c : Rpc.Connection) (w : World) : World :=
  { w with
    pool := (Broker.connect settings w.pool).2
    daemon := (w.daemon.getConfig c).2 }

/-- An error of `getConfig` ends the handling, as a failure unless callers expect it
(`Rpc.Error.isBenign_ofStatus_iff`). -/
theorem handle_of_unanswered (hasks : Asks e t old)
    (hholder : w.store.IsHolder e.tenantId store settings)
    (hc : (Broker.connect settings w.pool).1 = .ok c) {s : Rpc.Status}
    (hs : (w.daemon.getConfig c).1 = .error s) :
    handle e w = (if (Rpc.Error.ofStatus s).isBenign then .ok .notApplicable
      else .error (.getConfig (.ofStatus s)), asked settings c w) := by
  rw [handle_of_connected hasks hholder hc]
  unfold compare asked
  dsimp only
  cases hconfig : w.daemon.getConfig c with
  | mk answer daemon =>
    rw [hconfig] at hs
    obtain rfl : answer = .error s := hs
    dsimp only
    split <;> rfl

/-- What the daemon answers is compared with the address that is used up. -/
theorem handle_of_answered (hasks : Asks e t old)
    (hholder : w.store.IsHolder e.tenantId store settings)
    (hc : (Broker.connect settings w.pool).1 = .ok c)
    (hconfig : (w.daemon.getConfig c).1 = .ok config) :
    handle e w = match t.configured config with
      | none => (.ok .notApplicable, asked settings c w)
      | some address =>
        if address = old then renew t old store e.kind c (asked settings c w)
        else (.ok .alreadyRotated, asked settings c w) := by
  rw [handle_of_connected hasks hholder hc]
  unfold compare asked
  dsimp only
  cases hanswer : w.daemon.getConfig c with
  | mk answer daemon =>
    rw [hanswer] at hconfig
    obtain rfl : answer = .ok config := hconfig
    rfl

/-- A field that is missing or empty has no address to replace. -/
theorem handle_of_unset (hasks : Asks e t old)
    (hholder : w.store.IsHolder e.tenantId store settings)
    (hc : (Broker.connect settings w.pool).1 = .ok c)
    (hconfig : (w.daemon.getConfig c).1 = .ok config)
    (htext : t.text config = none ∨ t.text config = some "") :
    handle e w = (.ok .notApplicable, asked settings c w) := by
  have hnone : t.configured config = none := by
    rw [t.configured_eq]
    rcases htext with htext | htext <;> rw [htext] <;> rfl
  rw [handle_of_answered hasks hholder hc hconfig, hnone]

/-- A field with another address was rotated already. -/
theorem handle_of_other (hasks : Asks e t old)
    (hholder : w.store.IsHolder e.tenantId store settings)
    (hc : (Broker.connect settings w.pool).1 = .ok c)
    (hconfig : (w.daemon.getConfig c).1 = .ok config) {address : String}
    (htext : t.text config = some address) (hpresent : address ≠ "") (hother : address ≠ old) :
    handle e w = (.ok .alreadyRotated, asked settings c w) := by
  have hshown : t.configured config = some address := by
    rw [t.configured_eq, htext]
    exact Swap.presentAddress_eq_some.2 ⟨rfl, hpresent⟩
  rw [handle_of_answered hasks hholder hc hconfig, hshown]
  dsimp only
  rw [if_neg hother]

/-! ## §4. The update. -/

/-- What the handling says of an update that was refused. -/
def Target.refusal : Target → Rpc.Error → Failure
  | .chainToAddress => .updateChain
  | .lightningStaticAddress => .updateLightning

/-- The fault that an update of a field will meet. -/
def Target.fault (t : Target) (d : Daemon) : Option Rpc.Status :=
  (d.schedule (t.request "").method).head?.join

/-- **An update that arrives** is logged, and it is made unless its fault is due. -/
theorem Target.replace_of_receives {d : Daemon} (h : d.Receives c) (t : Target)
    (address : String) :
    t.replace c address d = match t.fault d with
      | some s =>
        (.error (t.refusal (.ofStatus (Daemon.asHeard s))), d.logged c (t.request address))
      | none => (.ok (), { d.logged c (t.request address) with
          autoswap := some (t.put address (d.autoswap.getD {})) }) := by
  -- both fields are written the same way, each by its own method
  cases t with
  | chainToAddress =>
    unfold replace Daemon.updateChainConfig fault
    rw [Daemon.serve_of_receives h, show (Target.chainToAddress.request "").method
      = (Daemon.Request.updateChainConfig { toAddress := address } [Daemon.toAddressPath]).method
      from rfl]
    cases (d.schedule _).head?.join <;> rfl
  | lightningStaticAddress =>
    unfold replace Daemon.updateLightningConfig fault
    rw [Daemon.serve_of_receives h, show (Target.lightningStaticAddress.request "").method
      = (Daemon.Request.updateLightningConfig { staticAddress := address }
          [Daemon.staticAddressPath]).method from rfl]
    cases (d.schedule _).head?.join <;> rfl

/-- The fault of an update is still due after the daemon was asked for its configuration. -/
theorem Target.fault_logged_getConfig (t : Target) (c : Rpc.Connection) (d : Daemon) :
    t.fault (d.logged c .getConfig) = t.fault d := by
  have hne : (t.request "").method ≠ Daemon.Request.getConfig.method := by cases t <;> decide
  unfold fault
  rw [Daemon.schedule_logged_of_ne hne]

/-- **What comes of an address that is due**: it is drawn, one update is sent, and
the update puts the address into its field or its fault is what is answered. -/
structure Renews (e : Swap.Event) (w : World) (t : Target) (old store : String)
    (c : Rpc.Connection) (config : Daemon.AutoswapConfig) (new : String)
    (r : Except Failure Outcome × World) : Prop where
  drawn : w.platform.freshAddress store e.kind = .ok (new, r.2.platform)
  calls_eq : r.2.daemon.calls
    = w.daemon.calls ++ [Daemon.entry c .getConfig, Daemon.entry c (t.request new)]
  before : w.daemon.autoswap = some config
  served : t.fault w.daemon = none →
    r.1 = .ok (.rotated old new) ∧ r.2.daemon.autoswap = some (t.put new config)
  refused : ∀ s, t.fault w.daemon = some s →
    r.1 = .error (t.refusal (.ofStatus (Daemon.asHeard s)))
      ∧ r.2.daemon.autoswap = some config

/-- An address that is due is renewed: `Renews` says of each end what comes of it. -/
theorem handle_of_isDue (h : IsDue e w t old store settings c config)
    {new : String} {platform : Platform}
    (hdrawn : w.platform.freshAddress store e.kind = .ok (new, platform)) :
    Renews e w t old store c config new (handle e w) := by
  obtain ⟨hreceives, hbefore, hasked⟩ := Daemon.getConfig_eq_ok h.answered
  have hrenew : handle e w = renew t old store e.kind c (asked settings c w) := by
    rw [handle_of_answered h.asks h.holder h.connected h.answered, h.configured]
    exact if_pos rfl
  have hdaemon : (asked settings c w).daemon = w.daemon.logged c .getConfig := hasked
  have hplatform : (asked settings c w).platform = w.platform := rfl
  rw [hrenew]
  unfold renew
  rw [hplatform, hdrawn, hdaemon]
  dsimp only
  -- the update arrives where the question arrived
  rw [Target.replace_of_receives (d := w.daemon.logged c .getConfig) hreceives,
    t.fault_logged_getConfig]
  have hnow : (w.daemon.logged c .getConfig).autoswap.getD {} = config := by
    rw [show (w.daemon.logged c .getConfig).autoswap = w.daemon.autoswap from rfl, hbefore]
    rfl
  rw [hnow]
  have hcalls : w.daemon.calls ++ [Daemon.entry c .getConfig] ++ [Daemon.entry c (t.request new)]
      = w.daemon.calls ++ [Daemon.entry c .getConfig, Daemon.entry c (t.request new)] :=
    List.append_assoc _ _ _
  cases hfault : t.fault w.daemon with
  | none =>
    refine ⟨hdrawn, hcalls, hbefore, fun _ => ⟨rfl, rfl⟩, fun s hs => ?_⟩
    rw [hfault] at hs
    cases hs
  | some s =>
    refine ⟨hdrawn, hcalls, hbefore, fun hnone => ?_, fun s' hs => ?_⟩
    · rw [hfault] at hnone
      cases hnone
    · rw [hfault] at hs
      cases hs
      exact ⟨rfl, hbefore⟩

/-! ## §5. The decision. -/

/-- What keeps an address from being drawn, and what is answered then: the first
thing that does not fit. -/
inductive Hindrance (e : Swap.Event) (w : World) : Except Failure Outcome → Prop where
  | unasked (h : ∀ t old, ¬ Asks e t old) : Hindrance e w (.ok .notApplicable)
  | unreadable {t : Target} {old : String} {fault : Store.Fault} (hasks : Asks e t old)
      (hall : w.store.allSettings = .error fault) : Hindrance e w (.error (.findStore fault))
  /-- No store holds the tenant. -/
  | unheld {t : Target} {old : String} {all : List (String × Settings)} (hasks : Asks e t old)
      (hall : w.store.allSettings = .ok all)
      (hnone : ∀ p ∈ all, p.2.credential.tenantId ≠ e.tenantId) :
      Hindrance e w (.ok .notApplicable)
  | unconnected {t : Target} {old store : String} {settings : Settings} {err : Broker.Error}
      (hasks : Asks e t old) (hholder : w.store.IsHolder e.tenantId store settings)
      (herr : (Broker.connect settings w.pool).1 = .error err) :
      Hindrance e w (.error (.connection err))
  /-- The daemon says that it was never configured to swap, which is no failure. -/
  | unconfigured {t : Target} {old store : String} {settings : Settings} {c : Rpc.Connection}
      {s : Rpc.Status} (hasks : Asks e t old)
      (hholder : w.store.IsHolder e.tenantId store settings)
      (hc : (Broker.connect settings w.pool).1 = .ok c)
      (hs : (w.daemon.getConfig c).1 = .error s) (hunset : s.SaysNotConfigured) :
      Hindrance e w (.ok .notApplicable)
  /-- The daemon does not answer, and its status says anything else. -/
  | unanswered {t : Target} {old store : String} {settings : Settings} {c : Rpc.Connection}
      {s : Rpc.Status} (hasks : Asks e t old)
      (hholder : w.store.IsHolder e.tenantId store settings)
      (hc : (Broker.connect settings w.pool).1 = .ok c)
      (hs : (w.daemon.getConfig c).1 = .error s) (hother : ¬ s.SaysNotConfigured) :
      Hindrance e w (.error (.getConfig
        (if s.code = .unavailable then .unavailable s.message else .remote s)))
  /-- The field is not there, or it is empty. -/
  | unset {t : Target} {old store : String} {settings : Settings} {c : Rpc.Connection}
      {config : Daemon.AutoswapConfig} (hasks : Asks e t old)
      (hholder : w.store.IsHolder e.tenantId store settings)
      (hc : (Broker.connect settings w.pool).1 = .ok c)
      (hconfig : (w.daemon.getConfig c).1 = .ok config)
      (htext : t.text config = none ∨ t.text config = some "") :
      Hindrance e w (.ok .notApplicable)
  | other {t : Target} {old store address : String} {settings : Settings} {c : Rpc.Connection}
      {config : Daemon.AutoswapConfig} (hasks : Asks e t old)
      (hholder : w.store.IsHolder e.tenantId store settings)
      (hc : (Broker.connect settings w.pool).1 = .ok c)
      (hconfig : (w.daemon.getConfig c).1 = .ok config)
      (htext : t.text config = some address) (hpresent : address ≠ "") (hother : address ≠ old) :
      Hindrance e w (.ok .alreadyRotated)

/-- For an event that asks for a field there is a holder of its tenant, or the search for one
stands against the address. -/
theorem exists_holder_or_hindrance (hasks : Asks e t old) :
    (∃ store settings, w.store.IsHolder e.tenantId store settings)
    ∨ ∃ answer, Hindrance e w answer := by
  cases hall : w.store.allSettings with
  | error fault => exact .inr ⟨_, .unreadable hasks hall⟩
  | ok all =>
    cases hsearch : w.store.ofTenant e.tenantId with
    | error fault =>
      -- the search fails only where the settings cannot be read
      unfold Store.ofTenant at hsearch
      rw [hall] at hsearch
      cases hsearch
    | ok found =>
      cases found with
      | none =>
        refine .inr ⟨_, .unheld hasks hall fun p hp => ?_⟩
        unfold Store.ofTenant at hsearch
        rw [hall] at hsearch
        simpa using List.find?_eq_none.1 (Except.ok.inj hsearch) p hp
      | some found => exact .inl ⟨found.1, found.2, Store.ofTenant_eq_some_iff.1 hsearch⟩

/-- With the configuration at hand, the address is due unless the field is empty or shows
another one. -/
theorem isDue_or_hindrance_of_answered (hasks : Asks e t old)
    (hholder : w.store.IsHolder e.tenantId store settings)
    (hc : (Broker.connect settings w.pool).1 = .ok c)
    (hconfig : (w.daemon.getConfig c).1 = .ok config) :
    IsDue e w t old store settings c config ∨ ∃ answer, Hindrance e w answer := by
  cases htext : t.text config with
  | none => exact .inr ⟨_, .unset hasks hholder hc hconfig (.inl htext)⟩
  | some address =>
    by_cases hempty : address = ""
    · exact .inr ⟨_, .unset hasks hholder hc hconfig (.inr (hempty ▸ htext))⟩
    · by_cases hold : address = old
      · subst hold
        exact .inl ⟨hasks, hholder, hc, hconfig, htext, hempty⟩
      · exact .inr ⟨_, .other hasks hholder hc hconfig htext hempty hold⟩

/-- **An address is due, or something stands against it.** -/
theorem isDue_or_hindrance (e : Swap.Event) (w : World) :
    (∃ t old store settings c config, IsDue e w t old store settings c config)
    ∨ ∃ answer, Hindrance e w answer := by
  by_cases hany : ∃ t old, Asks e t old
  · obtain ⟨t, old, hasks⟩ := hany
    obtain ⟨store, settings, hholder⟩ | hhindered := exists_holder_or_hindrance (w := w) hasks
    · -- the holder is connected, and its daemon answers: each step can be the last
      cases hc : (Broker.connect settings w.pool).1 with
      | error err => exact .inr ⟨_, .unconnected hasks hholder hc⟩
      | ok c =>
        cases hconfig : (w.daemon.getConfig c).1 with
        | error s =>
          by_cases hunset : s.SaysNotConfigured
          · exact .inr ⟨_, .unconfigured hasks hholder hc hconfig hunset⟩
          · exact .inr ⟨_, .unanswered hasks hholder hc hconfig hunset⟩
        | ok config =>
          exact (isDue_or_hindrance_of_answered hasks hholder hc hconfig).imp_left
            fun hdue => ⟨t, old, store, settings, c, config, hdue⟩
    · exact .inr hhindered
  · exact .inr ⟨_, .unasked fun t old hasks => hany ⟨t, old, hasks⟩⟩

/-- Nothing is drawn, and the daemon is asked for its configuration at most. -/
structure Spares (w w' : World) : Prop where
  platform_eq : w'.platform = w.platform
  autoswap_eq : w'.daemon.autoswap = w.daemon.autoswap
  logs : Daemon.Logs (·.request = .getConfig) w.daemon w'.daemon

theorem Spares.of_pool (w : World) (pool : Rpc.Pool) : Spares w { w with pool } :=
  ⟨rfl, rfl, .of_eq rfl⟩

/-- A question for the configuration spares it. -/
theorem spares_asked (settings : Settings) (c : Rpc.Connection) (w : World) :
    Spares w (asked settings c w) := by
  have hleft : Daemon.Unserved c .getConfig w.daemon (w.daemon.getConfig c).2 := by
    rcases Daemon.getConfig_cases c w.daemon with ⟨s, d, heq, hleft⟩ | ⟨config, _, heq⟩
    · rw [heq]
      exact hleft
    · rw [heq]
      exact .inr rfl
  exact ⟨rfl, hleft.autoswap, hleft.logs.mono fun call hcall => by rw [hcall]; rfl⟩

/-- **Whatever stands against an address decides the answer**, and nothing is updated. -/
theorem Hindrance.decides {answer : Except Failure Outcome} (h : Hindrance e w answer) :
    (handle e w).1 = answer ∧ Spares w (handle e w).2 := by
  cases h with
  | unasked h =>
    rw [handle_of_not_asks h]
    exact ⟨rfl, .of_pool w w.pool⟩
  | unreadable hasks hall =>
    rw [handle_of_unreadable hasks hall]
    exact ⟨rfl, .of_pool w w.pool⟩
  | unheld hasks hall hnone =>
    rw [handle_of_unheld hasks hall hnone]
    exact ⟨rfl, .of_pool w w.pool⟩
  | unconnected hasks hholder herr =>
    rw [handle_of_unconnected hasks hholder herr]
    exact ⟨rfl, .of_pool w _⟩
  | unconfigured hasks hholder hc hs hunset =>
    rw [handle_of_unanswered hasks hholder hc hs,
      if_pos ((Rpc.Error.isBenign_ofStatus_iff _).2 hunset)]
    exact ⟨rfl, spares_asked _ _ w⟩
  | unanswered hasks hholder hc hs hother =>
    rw [handle_of_unanswered hasks hholder hc hs,
      if_neg fun hbenign => hother ((Rpc.Error.isBenign_ofStatus_iff _).1 hbenign),
      (Rpc.Error.ofStatus_eq _).2 hother]
    exact ⟨rfl, spares_asked _ _ w⟩
  | unset hasks hholder hc hconfig htext =>
    rw [handle_of_unset hasks hholder hc hconfig htext]
    exact ⟨rfl, spares_asked _ _ w⟩
  | other hasks hholder hc hconfig htext hpresent hother =>
    rw [handle_of_other hasks hholder hc hconfig htext hpresent hother]
    exact ⟨rfl, spares_asked _ _ w⟩

/-- **AN ADDRESS IS DRAWN EXACTLY IF IT IS DUE**, whatever the settings, the
configuration and the faults of the daemon, as long as the wallet has one to give.
Then there is one update, of the one field, and its fault decides how the handling
ends.  In every other case something stands against it: that decides the answer,
nothing is drawn, and no update is sent. -/
theorem drawn_iff_due
    (hwallet : ∀ store kind, ∃ drawn, w.platform.freshAddress store kind = .ok drawn) :
    ((handle e w).2.platform ≠ w.platform
      ↔ ∃ t old store settings c config, IsDue e w t old store settings c config)
    ∧ (∀ t old store settings c config, IsDue e w t old store settings c config →
        ∃ new, Renews e w t old store c config new (handle e w))
    ∧ ((¬ ∃ t old store settings c config, IsDue e w t old store settings c config) →
        ∃ answer, Hindrance e w answer)
    ∧ ∀ answer, Hindrance e w answer → (handle e w).1 = answer ∧ Spares w (handle e w).2 := by
  have hrenews : ∀ t old store settings c config, IsDue e w t old store settings c config →
      ∃ new, Renews e w t old store c config new (handle e w) := by
    intro t old store settings c config hdue
    obtain ⟨⟨new, platform⟩, hdrawn⟩ := hwallet store e.kind
    exact ⟨new, handle_of_isDue hdue hdrawn⟩
  -- what stands against an address leaves the platform, and a drawn one does not
  refine ⟨⟨fun hne => ?_, ?_⟩, hrenews, (isDue_or_hindrance e w).resolve_left,
    fun answer h => h.decides⟩
  · rcases isDue_or_hindrance e w with hdue | ⟨answer, h⟩
    · exact hdue
    · exact absurd h.decides.2.platform_eq hne
  · rintro ⟨t, old, store, settings, c, config, hdue⟩
    obtain ⟨new, hrenewed⟩ := hrenews t old store settings c config hdue
    exact Platform.freshAddress_ne hrenewed.drawn

/-- The shop with one address to give; the daemon refuses the next update of the field. -/
def refusingShop : World :=
  { Sample.world with
    store := Sample.store
    platform := { prepared := ["B"] }
    daemon := { Sample.world.daemon with
      autoswap := some (payoutsTo "A")
      faults := [(.updateChainConfig, [some ⟨.internal, "disk full"⟩])] } }

/-- The address "A" is due in the example, since the shop holds the tenant and the field
shows it. -/
theorem isDue_refusingShop : IsDue (payout "A") refusingShop .chainToAddress "A" "shop"
    Sample.settings (Broker.own Sample.settings) (payoutsTo "A") where
  asks := ⟨rfl, rfl, rfl, rfl⟩
  holder := Store.ofTenant_eq_some_iff.1 Sample.ofTenant_store
  connected := Broker.connect_of_connects (by decide +kernel)
  answered := by decide +kernel
  shown := rfl
  present := by decide

/-- The address is drawn, the update is sent and refused, and the field shows the old address. -/
theorem drawn_iff_due_refusingShop :
    (∀ store kind, ∃ drawn, refusingShop.platform.freshAddress store kind = .ok drawn)
      ∧ (handle (payout "A") refusingShop).2.platform ≠ refusingShop.platform
      ∧ (handle (payout "A") refusingShop).1
        = .error (.updateChain (.ofStatus (Daemon.asHeard ⟨.internal, "disk full"⟩)))
      ∧ (handle (payout "A") refusingShop).2.daemon.autoswap = some (payoutsTo "A") := by
  have hwallet : ∀ store kind, ∃ drawn,
      refusingShop.platform.freshAddress store kind = .ok drawn := fun _ _ => ⟨_, rfl⟩
  obtain ⟨hdrawn, hdue, _⟩ := drawn_iff_due (e := payout "A") hwallet
  obtain ⟨new, hrenews⟩ := hdue _ _ _ _ _ _ isDue_refusingShop
  obtain ⟨hanswer, hconfig⟩ := hrenews.refused ⟨.internal, "disk full"⟩ (by decide)
  exact ⟨hwallet, hdrawn.2 ⟨_, _, _, _, _, _, isDue_refusingShop⟩, hanswer, hconfig⟩

end SwapBridge.Rotation
