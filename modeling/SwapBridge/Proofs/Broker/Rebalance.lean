/-
  SwapBridge.Proofs.Broker.Rebalance
  ──────────────────────────────────
  **ONE STORE AT MOST HAS THE ADMINISTRATOR'S CREDENTIAL.**

  Stores are enabled in one mode or the other, enabled again, and disabled, in
  any order and with any failures in between.  A store that balances channels
  gets the administrator's credential; before it gets it the settings of all
  stores are looked through for another one.

    • `Change` — a store that is enabled or disabled,
    • `enable_cases` — what enabling can do to the store file,
    • `Exclusive` — what is kept in the settings, whatever was changed,
    • `Exclusive.run` — one change keeps to it,
    • `exclusive_after_changes` — any number of them, with what each one does.
-/
import SwapBridge.Proofs.Broker
import SwapBridge.Proofs.Store

namespace SwapBridge.Broker

variable {s : Store} {d : Daemon} {id other : String} {settings : Settings}

/-! ## §1. What enabling can do. -/

/-- Enabling fails and leaves the store file as it is, or it keeps settings of
the mode with the credential that was issued for it. -/
theorem enable_cases (health : Supervisor.State) (id : String) (mode : Mode)
    (wallet : Option WalletRef) (s : Store) (d : Daemon) :
    (∃ e after, enable health id mode wallet s d = (.error e, s, after))
    ∨ ∃ c cred after, health.admin? = some c
      ∧ credentialFor health id mode s d = (.ok cred, after)
      ∧ enable health id mode wallet s d
        = (.ok ⟨mode, c.address, cred, wallet⟩,
            s.putSettings id ⟨mode, c.address, cred, wallet⟩, after) := by
  unfold enable admin
  cases hc : health.admin? with
  | none => exact .inl ⟨_, _, rfl⟩
  | some c =>
    dsimp only
    cases hcred : credentialFor health id mode s d with
    | mk answer after =>
      cases answer with
      | error e => exact .inl ⟨e, after, rfl⟩
      | ok cred => exact .inr ⟨c, cred, after, rfl, rfl, rfl⟩

/-- The administrator's credential is given out where no other store has it. -/
theorem credentialFor_rebalance (hs : s.Readable)
    (hone : ∀ id id', s.Rebalances id → s.Rebalances id' → id = id')
    (health : Supervisor.State) (id : String) (d : Daemon) :
    (∃ h, h ≠ id ∧ s.Rebalances h
      ∧ credentialFor health id .rebalance s d = (.error (.rebalanceInUse h), d))
    ∨ (∀ h, s.Rebalances h → h = id)
      ∧ credentialFor health id .rebalance s d = (adminCredential health, d) := by
  obtain ⟨holder, hread, hholds, hnone⟩ := Store.rebalanceStore_of_readable hs
  unfold credentialFor
  dsimp only
  rw [hread]
  -- the table has at most one holder, so the one that was read decides
  cases holder with
  | none => exact .inr ⟨fun h hh => absurd hh (hnone rfl h), rfl⟩
  | some h =>
    have hh := hholds h rfl
    by_cases heq : h = id
    · subst heq
      exact .inr ⟨fun h' hh' => hone h' h hh' hh, by simp⟩
    · exact .inl ⟨h, heq, hh, by simp [heq]⟩

/-! ## §2. What the settings keep to. -/

/-- All settings can be read, the administrator's credential is with the stores
that balance channels, and there is one of these at most. -/
structure Exclusive (s : Store) : Prop where
  readable : s.Readable
  isAdmin_iff : ∀ id settings, s.Keeps id settings →
    (settings.credential.isAdmin = true ↔ settings.mode = .rebalance)
  one : ∀ id id', s.Rebalances id → s.Rebalances id' → id = id'

/-- Nobody holds the node in a store without rows. -/
theorem exclusive_of_empty (h : s.settings = .empty) : Exclusive s where
  readable := Store.readable_of_empty h
  isAdmin_iff id settings hkeeps := absurd hkeeps (Store.not_keeps_of_empty h)
  one id id' hid := by
    obtain ⟨settings, hkeeps, _⟩ := hid
    exact absurd hkeeps (Store.not_keeps_of_empty h)

/-- New settings of a store, if they balance channels only where no other store does. -/
theorem Exclusive.put (h : Exclusive s)
    (hadmin : settings.credential.isAdmin = true ↔ settings.mode = .rebalance)
    (halone : settings.mode = .rebalance → ∀ other, s.Rebalances other → other = id) :
    Exclusive (s.putSettings id settings) where
  readable := h.readable.putSettings id settings
  isAdmin_iff other kept hkeeps := by
    rcases Store.keeps_putSettings.1 hkeeps with ⟨_, rfl⟩ | ⟨_, hkeeps⟩
    · exact hadmin
    · exact h.isAdmin_iff other kept hkeeps
  one a b ha hb := by
    -- a holder is the store that was written or one that was left alone
    rcases Store.rebalances_putSettings.1 ha with ⟨hid, hmode⟩ | ⟨hne, hother⟩
    · rcases Store.rebalances_putSettings.1 hb with ⟨hid', _⟩ | ⟨hne', hother'⟩
      · exact hid.trans hid'.symm
      · exact absurd (halone hmode b hother') hne'
    · rcases Store.rebalances_putSettings.1 hb with ⟨_, hmode⟩ | ⟨_, hother'⟩
      · exact absurd (halone hmode a hother) hne
      · exact h.one a b hother hother'

/-- Who is disabled gives up what it holds; the others keep to themselves. -/
theorem Exclusive.disable (h : Exclusive s) (id : String) : Exclusive (disable id s) where
  readable := h.readable.deleteSettings id
  isAdmin_iff other kept hkeeps :=
    h.isAdmin_iff other kept (Store.keeps_deleteSettings.1 hkeeps).2
  one a b ha hb :=
    h.one a b (Store.rebalances_deleteSettings.1 ha).2 (Store.rebalances_deleteSettings.1 hb).2

/-! ## §3. One change. -/

/-- A store that is enabled, with the supervisor's state and the daemon at that
moment, or disabled. -/
inductive Change where
  | enable (health : Supervisor.State) (id : String) (mode : Mode) (wallet : Option WalletRef)
    (daemon : Daemon)
  | disable (id : String)

namespace Change

/-- The store that is changed. -/
def store : Change → String
  | .enable _ id _ _ _ => id
  | .disable id => id

/-- The change of a store file, answered with the settings that are kept from
then on. -/
def run : Change → Store → Except Error (Option Settings) × Store
  | .enable health id mode wallet daemon, s =>
    let (answer, s, _) := Broker.enable health id mode wallet s daemon
    (answer.map some, s)
  | .disable id, s => (.ok none, Broker.disable id s)

/-- The daemon does not give the administrator's id to a tenant with a name. -/
def Sound : Change → Prop
  | .enable health id .standalone _ daemon =>
    ∀ name, (ensureTenant health id daemon).2.tenants.get? name ≠ some adminTenant
  | _ => True

end Change

/-- The credential of a healthy daemon is the administrator's own. -/
theorem isAdmin_adminCredential {health : Supervisor.State} {cred : Credential}
    (h : adminCredential health = .ok cred) : cred.isAdmin = true := by
  unfold adminCredential at h
  cases hc : admin health with
  | error e =>
    rw [hc] at h
    cases h
  | ok c =>
    rw [hc] at h
    cases h
    rfl

/-- A credential of a tenant with a name is not the administrator's. -/
theorem not_isAdmin_issued {health : Supervisor.State} {cred : Credential}
    (h : Issued health id cred d) (hd : ∀ name, d.tenants.get? name ≠ some adminTenant) :
    cred.isAdmin = false := by
  unfold Credential.isAdmin
  rw [beq_eq_false_iff_ne]
  intro heq
  exact hd (tenantName id) (heq ▸ h.held)

/-- **What a change does**: it fails and changes nothing, or it puts settings
whose credential suits their mode, or it deletes them. -/
theorem Change.run_cases (k : Change) (hk : k.Sound) (h : Exclusive s) :
    (∃ e, k.run s = (.error e, s))
    ∨ (∃ settings, k.run s = (.ok (some settings), s.putSettings k.store settings)
      ∧ (settings.credential.isAdmin = true ↔ settings.mode = .rebalance)
      ∧ (settings.mode = .rebalance → ∀ other, s.Rebalances other → other = k.store))
    ∨ k.run s = (.ok none, Broker.disable k.store s) := by
  cases k with
  | disable id => exact .inr (.inr rfl)
  | enable health id mode wallet daemon =>
    unfold Change.run
    dsimp only
    rcases enable_cases health id mode wallet s daemon with
      ⟨e, after, heq⟩ | ⟨c, cred, after, _, hcred, heq⟩
    · rw [heq]
      exact .inl ⟨e, rfl⟩
    · rw [heq]
      refine .inr (.inl ⟨_, rfl, ?_⟩)
      cases mode with
      | standalone =>
        -- the tenant of the credential has a name, so it is not the administrator
        have hissued : ensureTenant health id daemon = (.ok cred, after) := hcred
        have hfresh := (ensureTenant_cases health id daemon).2 cred (by rw [hissued])
        rw [not_isAdmin_issued hfresh hk]
        simp
      | rebalance =>
        -- the settings of all stores were looked through first
        rcases credentialFor_rebalance h.readable h.one health id daemon with
          ⟨_, _, _, hrefused⟩ | ⟨halone, hgiven⟩
        · cases hcred.symm.trans hrefused
        · have hadmin : adminCredential health = .ok cred := by
            have := hgiven.symm.trans hcred
            injection this
          rw [isAdmin_adminCredential hadmin]
          exact ⟨by simp, fun _ => halone⟩

/-- **One change keeps to it.** -/
theorem Exclusive.run {k : Change} (h : Exclusive s) (hk : k.Sound) : Exclusive (k.run s).2 := by
  rcases k.run_cases hk h with ⟨e, heq⟩ | ⟨settings, heq, hadmin, halone⟩ | heq
  · rw [heq]
    exact h
  · rw [heq]
    exact h.put hadmin halone
  · rw [heq]
    exact h.disable k.store

/-- Over a healthy daemon a store may balance channels, unless another one does. -/
theorem enable_rebalance (h : Exclusive s) (c : Rpc.Connection) (id : String)
    (wallet : Option WalletRef) (daemon : Daemon) :
    (∃ holder, holder ≠ id ∧ s.Rebalances holder
      ∧ (Change.enable (.healthy c) id .rebalance wallet daemon).run s
        = (.error (.rebalanceInUse holder), s))
    ∨ (∀ holder, s.Rebalances holder → holder = id)
      ∧ ∃ settings, (Change.enable (.healthy c) id .rebalance wallet daemon).run s
        = (.ok (some settings), s.putSettings id settings) := by
  unfold Change.run enable admin
  rcases credentialFor_rebalance h.readable h.one (.healthy c) id daemon with
    ⟨holder, hne, hholds, hcred⟩ | ⟨halone, hcred⟩
  · refine .inl ⟨holder, hne, hholds, ?_⟩
    simp only [Supervisor.State.admin?, hcred]
    rfl
  · refine .inr ⟨halone, ⟨.rebalance, c.address, ⟨adminTenant, c.token, .readWrite⟩, wallet⟩, ?_⟩
    simp only [Supervisor.State.admin?, hcred]
    rfl

/-- **Enabling a store to balance channels is refused exactly if another does.** -/
theorem refused_iff (h : Exclusive s) (c : Rpc.Connection) (id : String)
    (wallet : Option WalletRef) (daemon : Daemon) (holder : String) :
    ((Change.enable (.healthy c) id .rebalance wallet daemon).run s).1
        = .error (.rebalanceInUse holder)
      ↔ holder ≠ id ∧ s.Rebalances holder := by
  -- either another holder stands in the way, which is then the one named, or there is none
  rcases enable_rebalance h c id wallet daemon with
    ⟨held, hne, hholds, hrun⟩ | ⟨halone, settings, hrun⟩
  · rw [hrun]
    constructor
    · intro heq
      injection heq with heq
      injection heq with heq
      exact heq ▸ ⟨hne, hholds⟩
    · rintro ⟨_, hholder⟩
      rw [h.one held holder hholds hholder]
  · rw [hrun]
    constructor
    · intro heq
      cases heq
    · rintro ⟨hne, hholder⟩
      exact absurd (halone holder hholder) hne

/-! ## §4. Any number of changes. -/

/-- The store file after changes, one after the other. -/
def changed (ks : List Change) (s : Store) : Store := ks.foldl (fun s k => (k.run s).2) s

/-- **Any number of changes keep to it.** -/
theorem exclusive_changed {ks : List Change} (hks : ∀ k ∈ ks, k.Sound) (h : Exclusive s) :
    Exclusive (changed ks s) := by
  induction ks generalizing s with
  | nil => exact h
  | cons k ks ih =>
    apply ih fun j hj => hks j (List.mem_cons_of_mem _ hj)
    exact h.run (hks k List.mem_cons_self)

/-- What a change did: with an error nothing, else to its own store alone. -/
structure Confined (k : Change) (s : Store) : Prop where
  of_error : ∀ e, (k.run s).1 = .error e → (k.run s).2 = s
  of_ok : ∀ kept, (k.run s).1 = .ok kept →
    (k.run s).2.settings.get? k.store = kept.map JsonCodec.write
      ∧ ∀ other, other ≠ k.store → (k.run s).2.settings.get? other = s.settings.get? other

/-- A change that fails, or that changes its own store only, is `Confined`. -/
theorem confined_run {k : Change} (hk : k.Sound) (h : Exclusive s) : Confined k s := by
  -- a refused change, one that wrote settings, and one that deleted them
  rcases k.run_cases hk h with ⟨e, heq⟩ | ⟨settings, heq, _⟩ | heq
  · refine ⟨fun _ _ => by rw [heq], fun kept hkept => ?_⟩
    rw [heq] at hkept
    cases hkept
  · refine ⟨fun e he => ?_, fun kept hkept => ?_⟩
    · rw [heq] at he
      cases he
    · rw [heq] at hkept ⊢
      cases hkept
      refine ⟨by rw [Store.get?_putSettings, if_pos rfl]; rfl, fun other hne => ?_⟩
      rw [Store.get?_putSettings, if_neg hne]
  · refine ⟨fun e he => ?_, fun kept hkept => ?_⟩
    · rw [heq] at he
      cases he
    · rw [heq] at hkept ⊢
      cases hkept
      refine ⟨?_, fun other hne => ?_⟩
      · show (s.deleteSettings k.store).2.settings.get? k.store = _
        rw [Store.get?_deleteSettings, if_pos rfl]
        rfl
      · show (s.deleteSettings k.store).2.settings.get? other = _
        rw [Store.get?_deleteSettings, if_neg hne]

/-- **THE ADMINISTRATOR'S CREDENTIAL IS EXCLUSIVE**: from a store file without
settings, over any changes and any daemons that do not give the administrator's
id to a tenant with a name, at every moment one store at most balances channels
and the administrator's credential is with that one alone.  A change that fails
changes nothing, and one that succeeds changes the settings of its own store
alone.  Over a healthy daemon a store is refused to balance channels exactly if
another one does, and is told which. -/
theorem exclusive_after_changes (ks : List Change) (s : Store) (hs : s.settings = .empty)
    (hks : ∀ k ∈ ks, k.Sound) :
    (∀ before after, ks = before ++ after → Exclusive (changed before s))
    ∧ ∀ before k after, ks = before ++ k :: after →
      Confined k (changed before s)
      ∧ ∀ c id wallet daemon holder, k = .enable (.healthy c) id .rebalance wallet daemon →
        ((k.run (changed before s)).1 = .error (.rebalanceInUse holder)
          ↔ holder ≠ id ∧ (changed before s).Rebalances holder) := by
  have hexclusive : ∀ before after, ks = before ++ after → Exclusive (changed before s) := by
    rintro before after rfl
    exact exclusive_changed (fun k hk => hks k (List.mem_append_left _ hk)) (exclusive_of_empty hs)
  refine ⟨hexclusive, fun before k after hsplit => ⟨?_, ?_⟩⟩
  · exact confined_run (hks k (by simp [hsplit])) (hexclusive before _ hsplit)
  · rintro c id wallet daemon holder rfl
    exact refused_iff (hexclusive before _ hsplit) c id wallet daemon holder

/-- A daemon that has no tenants yet. -/
def fresh : Daemon := { address := "http://localhost:9002" }

/-- A store takes the administrator's credential. -/
def claims (store : String) : Change := .enable serving store .rebalance none fresh

/-- Two stores want to balance channels, and a third one does not. -/
def claimants : List Change :=
  [claims "a", claims "b", .enable serving "c" .standalone none fresh]

/-- The example's changes are `Sound`. -/
theorem sound_claimants : ∀ k ∈ claimants, k.Sound := by
  have htenants : (ensureTenant serving "c" fresh).2.tenants.entries = [("store-c", 2)] := by
    decide +kernel
  intro k hk
  simp only [claimants, List.mem_cons, List.not_mem_nil, or_false] at hk
  rcases hk with rfl | rfl | rfl
  · trivial
  · trivial
  · intro name hname
    rw [Table.get?_eq_some_iff, htenants] at hname
    simp only [List.mem_cons, Prod.mk.injEq, List.not_mem_nil, or_false] at hname
    exact absurd hname.2 (by decide)

theorem exclusive_after_changes_claimants :
    (∀ k ∈ claimants, k.Sound) ∧ Exclusive (changed claimants .empty)
      ∧ ((claims "b").run (changed [claims "a"] .empty)).1 = .error (.rebalanceInUse "a")
      ∧ ((claims "b").run (changed [claims "a"] .empty)).2 = changed [claims "a"] .empty := by
  obtain ⟨hexclusive, hchanges⟩ := exclusive_after_changes claimants .empty rfl sound_claimants
  obtain ⟨hconfined, hrefused⟩ := hchanges [claims "a"] (claims "b") _ rfl
  have hholds : (changed [claims "a"] .empty).Rebalances "a" :=
    Store.rebalances_putSettings.2 (.inl ⟨rfl, rfl⟩)
  have herror := (hrefused _ "b" none fresh "a" rfl).2 ⟨by decide, hholds⟩
  exact ⟨sound_claimants, hexclusive claimants [] rfl, herror, hconfined.of_error _ herror⟩

end SwapBridge.Broker
