/-
  SwapBridge.Proofs.Rotation.SingleUse
  ────────────────────────────────────
  **NO ADDRESS IS USED TWICE.**

  A field shows what it showed at first or what a wallet gave since.  While no
  wallet gives an address again, an address that was replaced does not come
  back, and the event that it was replaced for finds another one in its field
  whenever it is handled again.

    • `Call` — an event to handle, with everything around it as it happens to be,
    • `IsFresh` — what is asked of the wallets,
    • `shows_configAfter` — where the address in a field comes from,
    • `addresses_used_once` — what a rotated address and its event come to.
-/
import SwapBridge.Proofs.Platform
import SwapBridge.Proofs.Rotation
import SwapBridge.Proofs.Sample

namespace SwapBridge.Rotation

/-! ## §1. Runs. -/

/-- An event to handle.  Between two calls anything may happen to the settings,
the channels, the platform and the faults of the daemon; its configuration of
automatic swaps is what the call before has left. -/
structure Call where
  event : Swap.Event
  around : World

/-- A field shows an address. -/
def Shows (t : Target) (address : String) (a : Option Daemon.AutoswapConfig) : Prop :=
  a.bind t.configured = some address

instance (t : Target) (address : String) (a : Option Daemon.AutoswapConfig) :
    Decidable (Shows t address a) := inferInstanceAs (Decidable (_ = _))

namespace Call

/-- The world of a call. -/
def world (c : Call) (a : Option Daemon.AutoswapConfig) : World :=
  { c.around with daemon := { c.around.daemon with autoswap := a } }

def run (c : Call) (a : Option Daemon.AutoswapConfig) : Except Failure Outcome × World :=
  handle c.event (c.world a)

/-- The configuration that a call leaves. -/
def config (c : Call) (a : Option Daemon.AutoswapConfig) : Option Daemon.AutoswapConfig :=
  (c.run a).2.daemon.autoswap

/-- The address that a call draws from the wallet of the store, if it draws one. -/
def drawn (c : Call) (a : Option Daemon.AutoswapConfig) : Option String :=
  if (c.run a).2.platform = c.around.platform then none
  else match c.around.store.ofTenant c.event.tenantId with
    | .ok (some (store, _)) =>
      (c.around.platform.freshAddress store c.event.kind).toOption.map (·.1)
    | _ => none

/-- A call that draws no address, sends no update and rotates nothing. -/
structure IsIdle (c : Call) (a : Option Daemon.AutoswapConfig) : Prop where
  not_rotated : ¬ IsRotated (c.run a).1
  platform_eq : (c.run a).2.platform = c.around.platform
  logs : Daemon.Logs (·.request = .getConfig) c.around.daemon (c.run a).2.daemon
  config_eq : c.config a = a

end Call

/-- The configuration after a run. -/
def configAfter (cs : List Call) (a : Option Daemon.AutoswapConfig) :
    Option Daemon.AutoswapConfig :=
  cs.foldl (fun a c => c.config a) a

/-- All addresses that were drawn during a run, also those that no update followed. -/
def drawn : List Call → Option Daemon.AutoswapConfig → List String
  | [], _ => []
  | c :: cs, a => (c.drawn a).toList ++ drawn cs (c.config a)

/-- The wallets give an address once, and none that was configured at first. -/
structure IsFresh (cs : List Call) (a : Option Daemon.AutoswapConfig) : Prop where
  present : ∀ address ∈ drawn cs a, address ≠ ""
  nodup : (drawn cs a).Nodup
  unknown : ∀ address ∈ drawn cs a, ∀ t, ¬ Shows t address a

variable {a : Option Daemon.AutoswapConfig} {c : Call} {cs before after : List Call}
  {t : Target} {old new address : String}

/-- Calls are handled one after the other. -/
theorem configAfter_append (cs cs' : List Call) (a : Option Daemon.AutoswapConfig) :
    configAfter (cs ++ cs') a = configAfter cs' (configAfter cs a) :=
  List.foldl_append

/-- The addresses that later calls draw come behind those of the earlier ones. -/
theorem drawn_append (cs cs' : List Call) (a : Option Daemon.AutoswapConfig) :
    drawn (cs ++ cs') a = drawn cs a ++ drawn cs' (configAfter cs a) := by
  induction cs generalizing a with
  | nil => rfl
  | cons c cs ih =>
    show (c.drawn a).toList ++ drawn (cs ++ cs') (c.config a)
      = (c.drawn a).toList ++ drawn cs (c.config a) ++ drawn cs' (configAfter cs (c.config a))
    rw [ih, List.append_assoc]

/-! ## §2. One call. -/

/-- A rotation puts the address that was drawn where the used address was. -/
theorem Call.of_rotated (h : (c.run a).1 = .ok (.rotated old new)) :
    ∃ t config, used c.event = some (t, old) ∧ a = some config ∧ t.configured config = some old
      ∧ c.drawn a = some new ∧ c.config a = some (t.put new config) := by
  have hcourse : Course c.event (c.world a) (c.run a) := course_handle _ _
  have hrotated : IsRotated (c.run a).1 := ⟨old, new, h⟩
  unfold config drawn
  cases hrun : c.run a with
  | mk r w' =>
    rw [hrun] at h hrotated hcourse
    -- of the courses of a call, one rotates
    cases hcourse with
    | unasked hr => exact absurd hrotated hr
    | unmatched _ hr => exact absurd hrotated hr
    | undrawn _ hr => exact absurd hrotated hr
    | unreplaced _ hr => exact absurd hrotated hr
    | rotated hfinds hconfig hfield hdrawn =>
      cases h
      refine ⟨_, _, hfinds.used_eq, hconfig, hfield, ?_, rfl⟩
      have hstore : c.around.store.ofTenant c.event.tenantId = .ok (some (_, _)) :=
        hfinds.store_eq
      have hfresh : c.around.platform.freshAddress _ c.event.kind = .ok (_, _) := hdrawn
      dsimp only
      rw [if_neg (Platform.freshAddress_ne hfresh), hstore]
      dsimp only
      rw [hfresh]
      rfl

/-- **An address in a field was there before or was drawn.** -/
theorem Call.shows_config (h : Shows t address (c.config a)) :
    Shows t address a ∨ c.drawn a = some address := by
  -- only a rotation writes, and it writes one field
  by_cases hrotated : IsRotated (c.run a).1
  · obtain ⟨old, new, hrun⟩ := hrotated
    obtain ⟨t', config, _, rfl, _, hdrawn, hconfig⟩ := Call.of_rotated hrun
    rw [hconfig] at h
    have hput : t.configured (t'.put new config) = some address := h
    by_cases ht : t = t'
    · subst ht
      rw [Target.configured_put] at hput
      exact .inr ((Swap.presentAddress_eq_some.1 hput).1 ▸ hdrawn)
    · rw [Target.configured_put_of_ne ht] at hput
      exact .inl hput
  · left
    rw [show c.config a = a from autoswap_of_not_isRotated hrotated] at h
    exact h

/-- An event whose field shows another address draws nothing and changes nothing. -/
theorem Call.isIdle_of_not_shows (hused : used c.event = some (t, old)) (h : ¬ Shows t old a) :
    c.IsIdle a := by
  obtain ⟨hr, hplatform, hlogs⟩ := handle_of_unmatched (e := c.event) (w := c.world a) <| by
    intro t' old' config hused' hconfig hfield
    cases hused.symm.trans hused'
    have ha : a = some config := hconfig
    exact h (by rw [ha]; exact hfield)
  exact ⟨hr, hplatform, hlogs, autoswap_of_not_isRotated hr⟩

theorem Call.IsIdle.drawn_eq (h : c.IsIdle a) : c.drawn a = none := if_pos h.platform_eq

/-! ## §3. Whole runs. -/

/-- **An address in a field was there at first or was drawn since.** -/
theorem shows_configAfter (cs : List Call) (h : Shows t address (configAfter cs a)) :
    Shows t address a ∨ address ∈ drawn cs a := by
  induction cs generalizing a with
  | nil => exact .inl h
  | cons c cs ih =>
    rcases ih h with hshows | hmem
    · rcases Call.shows_config hshows with hshows | hdrawn
      · exact .inl hshows
      · exact .inr (List.mem_append_left _ (by rw [hdrawn]; exact List.mem_singleton.2 rfl))
    · exact .inr (List.mem_append_right _ hmem)

/-- What a field shows is not drawn any more. -/
theorem IsFresh.not_mem_drawn (h : IsFresh (before ++ after) a)
    (hshows : Shows t address (configAfter before a)) :
    address ∉ drawn after (configAfter before a) := by
  obtain ⟨_, hnodup, hunknown⟩ := h
  rw [drawn_append] at hnodup hunknown
  intro hmem
  -- it was there at first or was drawn, and neither may be drawn again
  rcases shows_configAfter before hshows with hfirst | hearlier
  · exact hunknown address (List.mem_append_right _ hmem) t hfirst
  · exact (List.nodup_append.1 hnodup).2.2 address hearlier address hmem rfl

/-- **An address that was replaced does not come back.** -/
theorem IsFresh.not_shows_old (h : IsFresh (before ++ c :: after) a)
    (hold : Shows t old (configAfter before a))
    (hgone : ¬ Shows t old (c.config (configAfter before a))) {later : List Call}
    (hlater : later <+: after) : ¬ Shows t old (configAfter (before ++ c :: later) a) := by
  obtain ⟨rest, rfl⟩ := hlater
  have hspent := h.not_mem_drawn hold
  intro hshows
  rw [configAfter_append] at hshows
  have hafter : Shows t old (configAfter later (c.config (configAfter before a))) := hshows
  rcases shows_configAfter later hafter with hnow | hmem
  · exact hgone hnow
  · refine hspent (List.mem_append_right _ ?_)
    rw [drawn_append]
    exact List.mem_append_left _ hmem

/-- **No address is used twice**, whatever the events, the settings and the
faults of a run: a call rotates nothing and leaves the configuration as it is,
or it replaces the used address in the field of the event by another one.  The
field does not show the replaced address again, and handling the same event
again, at any later time, draws no address and sends no update. -/
theorem addresses_used_once (hfresh : IsFresh cs a) (hcs : cs = before ++ c :: after) :
    (¬ IsRotated (c.run (configAfter before a)).1 →
      c.config (configAfter before a) = configAfter before a)
    ∧ ∀ old new, (c.run (configAfter before a)).1 = .ok (.rotated old new) →
      ∃ t, Target.ofKind? c.event.kind = some t
        ∧ Shows t old (configAfter before a)
        ∧ Shows t new (c.config (configAfter before a))
        ∧ ∀ later, later <+: after →
          ¬ Shows t old (configAfter (before ++ c :: later) a)
          ∧ ∀ again : Call, again.event = c.event →
            again.IsIdle (configAfter (before ++ c :: later) a) := by
  subst hcs
  refine ⟨autoswap_of_not_isRotated, fun old new hrotated => ?_⟩
  obtain ⟨t, config, hused, hconfig, hfield, hdrawn, hput⟩ := Call.of_rotated hrotated
  have hold : Shows t old (configAfter before a) := by
    rw [hconfig]
    exact hfield
  -- the new address is among those still to be drawn, and the old one cannot be
  have hmem : new ∈ drawn (c :: after) (configAfter before a) :=
    List.mem_append_left _ (by rw [hdrawn]; exact List.mem_singleton.2 rfl)
  have hpresent : new ≠ "" :=
    hfresh.present new (by rw [drawn_append]; exact List.mem_append_right _ hmem)
  have hnew : Shows t new (c.config (configAfter before a)) := by
    rw [hput]
    exact (t.configured_put new config).trans (Swap.presentAddress_eq_some.2 ⟨rfl, hpresent⟩)
  have hgone : ¬ Shows t old (c.config (configAfter before a)) := by
    intro hshows
    obtain rfl : new = old := Option.some.inj (hnew.symm.trans hshows)
    exact hfresh.not_mem_drawn hold hmem
  refine ⟨t, (used_eq_some hused).1, hold, hnew, fun later hlater => ?_⟩
  have hnever := hfresh.not_shows_old hold hgone hlater
  refine ⟨hnever, fun again hagain => ?_⟩
  exact Call.isIdle_of_not_shows (hagain ▸ hused) hnever

/-- An automated swap of the shop, made to pay out to an address. -/
def payout (address : String) : Swap.Event :=
  { Sample.lockup "swap-1" "L" "tx-1" with
    status := Swap.statusCreated
    automated := true
    toAddress := some address }

/-- A call for the shop, whose wallet has addresses to give. -/
def shopCall (address : String) (prepared : List String) : Call :=
  ⟨payout address, { Sample.world with store := Sample.store, platform := { prepared } }⟩

/-- The automatic swaps of the shop pay out to one address. -/
def payoutsTo (address : String) : Daemon.AutoswapConfig :=
  { chain := some { toAddress := address } }

/-- The example's calls come down to `compare`, since their event asks for the chain
address. -/
theorem run_shopCall (address : String) (prepared : List String)
    (a : Option Daemon.AutoswapConfig) :
    (shopCall address prepared).run a
      = compare .chainToAddress address "shop" .chain (Broker.own Sample.settings)
          { (shopCall address prepared).world a with
            pool := (Broker.connect Sample.settings {}).2 } := by
  have hconnects : Broker.Connects Sample.settings {} := by decide +kernel
  exact handle_of_finds ⟨rfl, Sample.ofTenant_store, hconnects⟩

/-- Two payouts of the shop; the first is heard of twice. -/
def payouts : List Call := [shopCall "A" ["B", "C"], shopCall "A" ["C"], shopCall "B" ["C"]]

theorem rotated_first : ((shopCall "A" ["B", "C"]).run (some (payoutsTo "A"))).1
    = .ok (.rotated "A" "B") := by
  rw [run_shopCall]
  decide +kernel

theorem rotated_second : ((shopCall "B" ["C"]).run (some (payoutsTo "B"))).1
    = .ok (.rotated "B" "C") := by
  rw [run_shopCall]
  decide +kernel

/-- The wallet of the example has no address twice, nor the one that is configured. -/
theorem isFresh_payouts : IsFresh payouts (some (payoutsTo "A")) := by
  obtain ⟨t, config, ht, hconfig, _, hfirst, hput⟩ := Call.of_rotated rotated_first
  cases hconfig
  obtain rfl : Target.chainToAddress = t := congrArg Prod.fst (Option.some.inj ht)
  have hafter : (shopCall "A" ["B", "C"]).config (some (payoutsTo "A")) = some (payoutsTo "B") :=
    hput
  have hpays : used (shopCall "A" ["C"]).event = some (.chainToAddress, "A") := rfl
  have hagain : (shopCall "A" ["C"]).IsIdle (some (payoutsTo "B")) :=
    Call.isIdle_of_not_shows hpays (by decide)
  obtain ⟨_, _, _, _, _, hsecond, _⟩ := Call.of_rotated rotated_second
  -- the second call is idle, as its address is not configured any more
  have hdrawn : drawn payouts (some (payoutsTo "A")) = ["B", "C"] := by
    simp only [payouts, drawn, hfirst, hafter, hagain.drawn_eq, hagain.config_eq, hsecond,
      Option.toList_some, Option.toList_none, List.append_nil, List.cons_append, List.nil_append]
  constructor
  · rw [hdrawn]
    decide
  · rw [hdrawn]
    decide
  · rw [hdrawn]
    intro address haddress t
    cases t <;> revert address <;> decide

/-- The address of the first payout does not come back. -/
theorem addresses_used_once_payouts :
    IsFresh payouts (some (payoutsTo "A"))
      ∧ ((shopCall "A" ["B", "C"]).run (some (payoutsTo "A"))).1 = .ok (.rotated "A" "B")
      ∧ ¬ Shows .chainToAddress "A" (configAfter payouts (some (payoutsTo "A"))) := by
  have hrun : payouts = [] ++ shopCall "A" ["B", "C"] :: [shopCall "A" ["C"], shopCall "B" ["C"]] :=
    rfl
  obtain ⟨t, ht, _, _, hnever⟩ := (addresses_used_once isFresh_payouts hrun).2 "A" "B" rotated_first
  obtain rfl : Target.chainToAddress = t := Option.some.inj ht
  exact ⟨isFresh_payouts, rotated_first, (hnever _ List.prefix_rfl).1⟩

end SwapBridge.Rotation
