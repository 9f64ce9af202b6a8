/-
  SwapBridge.Proofs.Rotation
  ──────────────────────────
  **WHAT ONE EVENT DOES TO THE CONFIGURATION.**

  The handling of an event stops before the daemon is asked, or after it has
  said what is configured, or it draws an address.  The address takes the
  place of the one that was used up, or the configuration stays as it is.

    • `Target.put`, `configured_put` — an address in a field, and what the fields say then,
    • `Finds` — the store, the connection and the field that an event leads to,
    • `Course`, `course_handle` — how far an event gets, and all that it changes on its way,
    • `autoswap_of_not_isRotated` — without a rotation the configuration stays as it is,
    • `handle_of_unmatched` — an address that is not configured is left alone,
    • `logs_handle` — the calls of an event, over the connection of its store.
-/
import SwapBridge.Proofs.Broker.Connection
import SwapBridge.Proofs.Daemon
import SwapBridge.Rotation

namespace SwapBridge.Rotation

variable {e : Swap.Event} {w : World} {t t' : Target} {old new store : String}
  {kind : Swap.Kind} {c : Rpc.Connection}

/-! ## §1. Fields. -/

namespace Target

/-- The configuration with an address in a field, and all else as it was. -/
def put (t : Target) (address : String) (a : Daemon.AutoswapConfig) : Daemon.AutoswapConfig :=
  match t with
  | .chainToAddress => { a with chain := some { a.chain.getD {} with toAddress := address } }
  | .lightningStaticAddress =>
    { a with lightning := some { a.lightning.getD {} with staticAddress := address } }

/-- The update that puts an address into a field: it names this field alone. -/
def request (t : Target) (address : String) : Daemon.Request :=
  match t with
  | .chainToAddress => .updateChainConfig { toAddress := address } [Daemon.toAddressPath]
  | .lightningStaticAddress =>
    .updateLightningConfig { staticAddress := address } [Daemon.staticAddressPath]

/-- A field shows the address that was put into it, if there is one. -/
theorem configured_put (t : Target) (address : String) (a : Daemon.AutoswapConfig) :
    t.configured (t.put address a) = Swap.presentAddress address := by
  cases t <;> rfl

/-- The other field stays as it is. -/
theorem configured_put_of_ne (h : t' ≠ t) (address : String) (a : Daemon.AutoswapConfig) :
    t'.configured (t.put address a) = t'.configured a := by
  cases t <;> cases t' <;> first | rfl | exact absurd rfl h

/-- A replacement puts the address into the field, or leaves the configuration
as it is and fails. -/
theorem replace_cases (t : Target) (c : Rpc.Connection) (address : String) (d : Daemon) :
    (∃ f d', t.replace c address d = (.error f, d') ∧ Daemon.Unserved c (t.request address) d d')
    ∨ t.replace c address d
      = (.ok (), { d.logged c (t.request address) with
          autoswap := some (t.put address (d.autoswap.getD {})) }) := by
  cases t with
  | chainToAddress =>
    unfold replace
    rcases Daemon.updateChainConfig_cases c { toAddress := address } [Daemon.toAddressPath] d with
      ⟨s, d', h, hleft⟩ | h
    · rw [h]
      exact .inl ⟨_, d', rfl, hleft⟩
    · rw [h]
      exact .inr rfl
  | lightningStaticAddress =>
    unfold replace
    rcases Daemon.updateLightningConfig_cases c { staticAddress := address }
      [Daemon.staticAddressPath] d with ⟨s, d', h, hleft⟩ | h
    · rw [h]
      exact .inl ⟨_, d', rfl, hleft⟩
    · rw [h]
      exact .inr rfl

end Target

/-! ## §2. How far the handling of an event goes. -/

/-- An address was rotated. -/
def IsRotated (r : Except Failure Outcome) : Prop := ∃ old new, r = .ok (.rotated old new)

/-- An event is about a swap that used an address up, its tenant is that of a
store, and the store is connected. -/
structure Finds (e : Swap.Event) (w : World) (t : Target) (old store : String)
    (settings : Settings) : Prop where
  used_eq : used e = some (t, old)
  store_eq : w.store.ofTenant e.tenantId = .ok (some (store, settings))
  connects : Broker.Connects settings w.pool

/-- What is found is compared with the configuration, over the connection of the store. -/
theorem handle_of_finds {settings : Settings} (h : Finds e w t old store settings) :
    handle e w = compare t old store e.kind (Broker.own settings)
      { w with pool := (Broker.connect settings w.pool).2 } := by
  have hc := Broker.connect_of_connects h.connects
  unfold handle
  rw [h.used_eq]
  dsimp only
  rw [h.store_eq]
  dsimp only
  cases hpool : Broker.connect settings w.pool with
  | mk connection pool =>
    rw [hpool] at hc
    obtain rfl : connection = .ok (Broker.own settings) := hc
    rfl

/-- The handling ends before the daemon is asked, or the event leads to a
store that is connected. -/
theorem handle_cases (e : Swap.Event) (w : World) :
    (∃ r pool, handle e w = (r, { w with pool }) ∧ ¬ IsRotated r)
    ∨ ∃ t old store settings, Finds e w t old store settings := by
  unfold handle
  -- whatever is missing on the way to the connection, the daemon has not been asked
  cases hused : used e with
  | none => exact .inl ⟨_, w.pool, rfl, fun ⟨_, _, h⟩ => by cases h⟩
  | some found =>
    obtain ⟨t, old⟩ := found
    dsimp only
    cases hstore : w.store.ofTenant e.tenantId with
    | error fault => exact .inl ⟨_, w.pool, rfl, fun ⟨_, _, h⟩ => by cases h⟩
    | ok found =>
      cases found with
      | none => exact .inl ⟨_, w.pool, rfl, fun ⟨_, _, h⟩ => by cases h⟩
      | some found =>
        obtain ⟨store, settings⟩ := found
        by_cases hconnects : Broker.Connects settings w.pool
        · exact .inr ⟨t, old, store, settings, hused, hstore, hconnects⟩
        · obtain ⟨err, herr⟩ := Broker.connect_of_not_connects hconnects
          dsimp only
          cases hpool : Broker.connect settings w.pool with
          | mk connection pool =>
            rw [hpool] at herr
            obtain rfl : connection = .error err := herr
            exact .inl ⟨_, pool, rfl, fun ⟨_, _, h⟩ => by cases h⟩

/-- The daemon is asked for its configuration.  The handling goes on only if
the field shows the address that was used. -/
theorem compare_cases (t : Target) (old store : String) (kind : Swap.Kind) (c : Rpc.Connection)
    (w : World) :
    (∃ r daemon, compare t old store kind c w = (r, { w with daemon }) ∧ ¬ IsRotated r
      ∧ Daemon.Unserved c .getConfig w.daemon daemon)
    ∨ ∃ config, w.daemon.autoswap = some config ∧ t.configured config = some old
      ∧ compare t old store kind c w
        = renew t old store kind c { w with daemon := w.daemon.logged c .getConfig } := by
  unfold compare
  -- only the address that was paid to leads on to a new one
  rcases Daemon.getConfig_cases c w.daemon with ⟨s, daemon, h, hleft⟩ | ⟨config, hconfig, h⟩
  · rw [h]
    refine .inl ?_
    dsimp only
    split
    · exact ⟨_, daemon, rfl, fun ⟨_, _, h⟩ => (by cases h), hleft⟩
    · exact ⟨_, daemon, rfl, fun ⟨_, _, h⟩ => (by cases h), hleft⟩
  · rw [h]
    dsimp only
    cases hfield : t.configured config with
    | none => exact .inl ⟨_, _, rfl, fun ⟨_, _, h⟩ => (by cases h), .inr rfl⟩
    | some address =>
      by_cases haddress : address = old
      · subst haddress
        refine .inr ⟨config, hconfig, hfield, ?_⟩
        dsimp only
        rw [if_pos rfl]
      · refine .inl ⟨.ok .alreadyRotated, _, ?_, fun ⟨_, _, h⟩ => (by cases h), .inr rfl⟩
        dsimp only
        rw [if_neg haddress]

/-- An address is drawn and put into the field; if that fails it stays drawn. -/
theorem renew_cases (t : Target) (old store : String) (kind : Swap.Kind) (c : Rpc.Connection)
    (w : World) :
    (∃ r, renew t old store kind c w = (r, w) ∧ ¬ IsRotated r
      ∧ ∃ fault, w.platform.freshAddress store kind = .error fault)
    ∨ ∃ new platform, w.platform.freshAddress store kind = .ok (new, platform)
      ∧ ((∃ r daemon, renew t old store kind c w = (r, { w with platform, daemon })
          ∧ ¬ IsRotated r ∧ Daemon.Unserved c (t.request new) w.daemon daemon)
        ∨ renew t old store kind c w
          = (.ok (.rotated old new), { w with
              platform
              daemon := { w.daemon.logged c (t.request new) with
                autoswap := some (t.put new (w.daemon.autoswap.getD {})) } })) := by
  unfold renew
  cases hfresh : w.platform.freshAddress store kind with
  | error fault => exact .inl ⟨_, rfl, fun ⟨_, _, h⟩ => (by cases h), fault, rfl⟩
  | ok drawn =>
    obtain ⟨new, platform⟩ := drawn
    refine .inr ⟨new, platform, rfl, ?_⟩
    dsimp only
    -- the address is drawn by now, whether or not the daemon takes it
    rcases t.replace_cases c new w.daemon with ⟨f, daemon, h, hleft⟩ | h
    · rw [h]
      exact .inl ⟨_, daemon, rfl, fun ⟨_, _, h⟩ => (by cases h), hleft⟩
    · rw [h]
      exact .inr rfl

/-! ## §3. The handling of an event. -/

/-- The daemon after it said what is configured. -/
def askedBy (settings : Settings) (d : Daemon) : Daemon := d.logged (Broker.own settings) .getConfig

/-- How far an event gets: each stage is what the stages before it lead to. -/
inductive Course (e : Swap.Event) (w : World) : Except Failure Outcome × World → Prop where
  /-- It ends before the daemon is asked. -/
  | unasked {r : Except Failure Outcome} {pool : Rpc.Pool} (hr : ¬ IsRotated r) :
      Course e w (r, { w with pool })
  /-- The daemon does not answer, or the field does not show the used address. -/
  | unmatched {t : Target} {old store : String} {settings : Settings}
      {r : Except Failure Outcome} {pool : Rpc.Pool} {daemon : Daemon}
      (hfinds : Finds e w t old store settings) (hr : ¬ IsRotated r)
      (hleft : Daemon.Unserved (Broker.own settings) .getConfig w.daemon daemon) :
      Course e w (r, { w with pool, daemon })
  /-- The wallet has no address to give. -/
  | undrawn {t : Target} {old store : String} {settings : Settings}
      {config : Daemon.AutoswapConfig} {fault : Platform.Fault}
      {r : Except Failure Outcome} {pool : Rpc.Pool}
      (hfinds : Finds e w t old store settings) (hr : ¬ IsRotated r)
      (hconfig : w.daemon.autoswap = some config) (hfield : t.configured config = some old)
      (hfault : w.platform.freshAddress store e.kind = .error fault) :
      Course e w (r, { w with pool, daemon := askedBy settings w.daemon })
  /-- The address is drawn, and the update fails. -/
  | unreplaced {t : Target} {old new store : String} {settings : Settings}
      {config : Daemon.AutoswapConfig} {r : Except Failure Outcome} {pool : Rpc.Pool}
      {platform : Platform} {daemon : Daemon}
      (hfinds : Finds e w t old store settings) (hr : ¬ IsRotated r)
      (hconfig : w.daemon.autoswap = some config) (hfield : t.configured config = some old)
      (hdrawn : w.platform.freshAddress store e.kind = .ok (new, platform))
      (hleft : Daemon.Unserved (Broker.own settings) (t.request new)
        (askedBy settings w.daemon) daemon) :
      Course e w (r, { w with pool, platform, daemon })
  /-- The address is drawn and configured. -/
  | rotated {t : Target} {old new store : String} {settings : Settings}
      {config : Daemon.AutoswapConfig} {pool : Rpc.Pool} {platform : Platform}
      (hfinds : Finds e w t old store settings)
      (hconfig : w.daemon.autoswap = some config) (hfield : t.configured config = some old)
      (hdrawn : w.platform.freshAddress store e.kind = .ok (new, platform)) :
      Course e w (.ok (.rotated old new),
        { w with
          pool, platform
          daemon := { (askedBy settings w.daemon).logged (Broker.own settings) (t.request new) with
            autoswap := some (t.put new config) } })

/-- **Every event takes one of these courses.** -/
theorem course_handle (e : Swap.Event) (w : World) : Course e w (handle e w) := by
  rcases handle_cases e w with ⟨r, pool, h, hr⟩ | ⟨t, old, store, settings, hfinds⟩
  · rw [h]
    exact .unasked hr
  · rw [handle_of_finds hfinds]
    rcases compare_cases t old store e.kind (Broker.own settings)
      { w with pool := (Broker.connect settings w.pool).2 } with
      ⟨r, daemon, h, hr, hleft⟩ | ⟨config, hconfig, hfield, h⟩
    · rw [h]
      exact .unmatched hfinds hr hleft
    · rw [h]
      rcases renew_cases t old store e.kind (Broker.own settings)
        { w with
          pool := (Broker.connect settings w.pool).2
          daemon := askedBy settings w.daemon } with
        ⟨r, h, hr, fault, hfault⟩ | ⟨new, platform, hdrawn, ⟨r, daemon, h, hr, hleft⟩ | h⟩
      · exact h.symm ▸ .undrawn hfinds hr hconfig hfield hfault
      · exact h.symm ▸ .unreplaced hfinds hr hconfig hfield hdrawn hleft
      · -- the update is made to what was just read
        have hnow : (askedBy settings w.daemon).autoswap = some config := hconfig
        simp only [hnow, Option.getD_some] at h
        exact h.symm ▸ .rotated hfinds hconfig hfield hdrawn

/-! ## §4. What follows. -/

theorem used_eq_some (h : used e = some (t, old)) :
    Target.ofKind? e.kind = some t ∧ e.destination = some old := by
  unfold used at h
  split at h
  · split at h
    · rename_i ht hold
      injection h with h
      injection h with h₁ h₂
      exact ⟨h₁ ▸ ht, h₂ ▸ hold⟩
    · cases h
  · cases h

/-- **Without a rotation the configuration stays as it is.** -/
theorem autoswap_of_not_isRotated (h : ¬ IsRotated (handle e w).1) :
    (handle e w).2.daemon.autoswap = w.daemon.autoswap := by
  cases heq : handle e w with
  | mk r w' =>
    have hcourse := course_handle e w
    rw [heq] at h hcourse
    cases hcourse with
    | unasked => rfl
    | unmatched _ _ hleft => exact hleft.autoswap
    | undrawn => rfl
    | unreplaced _ _ _ _ _ hleft => exact hleft.autoswap
    | rotated => exact absurd ⟨_, _, rfl⟩ h

/-- **An address that is not configured is left alone**: nothing is drawn, no
update is sent, and nothing is rotated. -/
theorem handle_of_unmatched
    (h : ∀ t old config, used e = some (t, old) → w.daemon.autoswap = some config →
      t.configured config ≠ some old) :
    ¬ IsRotated (handle e w).1 ∧ (handle e w).2.platform = w.platform
      ∧ Daemon.Logs (·.request = .getConfig) w.daemon (handle e w).2.daemon := by
  have hconfig : ∀ {c : Rpc.Connection} {d : Daemon}, Daemon.Unserved c .getConfig w.daemon d →
      Daemon.Logs (·.request = .getConfig) w.daemon d := fun hleft =>
    hleft.logs.mono fun call hcall => by rw [hcall]; rfl
  cases heq : handle e w with
  | mk r w' =>
    have hcourse := course_handle e w
    rw [heq] at hcourse
    cases hcourse with
    | unasked hr => exact ⟨hr, rfl, .of_eq rfl⟩
    | unmatched _ hr hleft => exact ⟨hr, rfl, hconfig hleft⟩
    -- further on the field is known to show the address
    | undrawn hfinds _ hconfig hfield => exact absurd hfield (h _ _ _ hfinds.used_eq hconfig)
    | unreplaced hfinds _ hconfig hfield => exact absurd hfield (h _ _ _ hfinds.used_eq hconfig)
    | rotated hfinds hconfig hfield => exact absurd hfield (h _ _ _ hfinds.used_eq hconfig)

/-- A call that the handling of an event makes: over the connection of the
store, for the configuration or for an update of the field. -/
def Makes (e : Swap.Event) (w : World) (call : Daemon.Call) : Prop :=
  ∃ t old store settings, Finds e w t old store settings
    ∧ (call = Daemon.entry (Broker.own settings) .getConfig
      ∨ ∃ new, call = Daemon.entry (Broker.own settings) (t.request new))

/-- **The calls of an event.** -/
theorem logs_handle (e : Swap.Event) (w : World) :
    Daemon.Logs (Makes e w) w.daemon (handle e w).2.daemon := by
  -- at most two requests: the configuration is read, and then it is replaced
  have hasked : ∀ {t old store settings}, Finds e w t old store settings →
      ∀ {d}, Daemon.Unserved (Broker.own settings) .getConfig w.daemon d →
        Daemon.Logs (Makes e w) w.daemon d := fun hfinds _ hleft =>
    hleft.logs.mono fun call hcall => ⟨_, _, _, _, hfinds, .inl hcall⟩
  have hupdated : ∀ {t old store settings}, Finds e w t old store settings →
      ∀ {new d d'}, Daemon.Unserved (Broker.own settings) (t.request new) d d' →
        Daemon.Logs (Makes e w) d d' := fun hfinds _ _ _ hleft =>
    hleft.logs.mono fun call hcall => ⟨_, _, _, _, hfinds, .inr ⟨_, hcall⟩⟩
  cases heq : handle e w with
  | mk r w' =>
    have hcourse := course_handle e w
    rw [heq] at hcourse
    cases hcourse with
    | unasked => exact .of_eq rfl
    | unmatched hfinds _ hleft => exact hasked hfinds hleft
    | undrawn hfinds => exact hasked hfinds (.inr rfl)
    | unreplaced hfinds _ _ _ _ hleft =>
      exact (hasked hfinds (.inr rfl)).trans (hupdated hfinds hleft)
    | rotated hfinds =>
      exact ((hasked hfinds (.inr rfl)).trans (hupdated hfinds (.inr rfl))).trans (.of_eq rfl)

/-- An event is about the daemon and the wallet: the store file and the state
of the supervisor stay as they are. -/
theorem handle_frame (e : Swap.Event) (w : World) :
    (handle e w).2.store = w.store ∧ (handle e w).2.health = w.health := by
  cases heq : handle e w with
  | mk r w' =>
    have hcourse := course_handle e w
    rw [heq] at hcourse
    cases hcourse <;> exact ⟨rfl, rfl⟩

end SwapBridge.Rotation
