/-
  SwapBridge.Proofs.Poll.Overlap
  ──────────────────────────────
  **SWAPS THAT A CATCH-UP PUBLISHES TWICE.**

  A store with a tenant of its own lists the swaps of this tenant.  The store
  that balances channels calls as the administrator, for no tenant, and lists
  the swaps of all.  What both of them list is published for each of them.

    • `share_eq`, `count_published` — a swap is published for every store that sees it,
    • `Partitioned` — the stores differ in their tenants, one at most balances channels,
    • `partitioned_changed` — so it is with settings that come about by changes,
    • `published_twice_iff` — how often a swap is published, and when twice.
-/
import Mathlib.Data.List.Nodup
import SwapBridge.Proofs.Broker.Rebalance
import SwapBridge.Proofs.Poll.Published

namespace SwapBridge

/-! ## §1. Shares. -/

/-- Events of one tenant. -/
theorem Swap.Event.ofListing_ofTenant (l : Listing) (tenant : UInt64) :
    ofListing (l.ofTenant tenant) = (ofListing l).filter (·.tenantId == tenant) := by
  unfold ofListing Listing.ofTenant
  rw [List.filter_append, List.filter_append, List.filter_map, List.filter_map, List.filter_map]
  rfl

namespace Poll

variable {w : World} {withInvoices : Bool} {e : Swap.Event} {stores : List (String × Settings)}

/-- A store sees the swaps of its tenant, and all with the administrator's credential. -/
def Sees (s : Settings) (e : Swap.Event) : Prop :=
  s.credential.isAdmin = true ∨ s.credential.tenantId = e.tenantId

instance (s : Settings) (e : Swap.Event) : Decidable (Sees s e) :=
  inferInstanceAs (Decidable (_ ∨ _))

/-- All swaps of the daemon have ids of their own. -/
def HasDistinctIds (l : Swap.Listing) : Prop := ((Swap.Event.ofListing l).map (·.id)).Nodup

instance (l : Swap.Listing) : Decidable (HasDistinctIds l) :=
  inferInstanceAs (Decidable (List.Nodup _))

/-- The share of a store is what it sees of all swaps, if wanted. -/
theorem share_eq (withInvoices : Bool) (w : World) (s : Settings) :
    share withInvoices w s
      = (Swap.Event.ofListing w.daemon.swaps).filter
          fun e => decide (Sees s e ∧ Wanted withInvoices w e) := by
  show (Swap.Event.ofListing (answer w s)).filter _ = _
  unfold answer Broker.tenantHeader
  -- an administrator's listing has no tenant header; any other one is cut to its tenant
  by_cases hadmin : s.credential.isAdmin = true
  · rw [if_pos hadmin]
    refine List.filter_congr fun e _ => decide_eq_decide.2 ?_
    exact (and_iff_right (.inl hadmin)).symm
  · rw [if_neg hadmin]
    show (Swap.Event.ofListing (w.daemon.swaps.ofTenant _)).filter _ = _
    rw [Swap.Event.ofListing_ofTenant, List.filter_filter]
    refine List.filter_congr fun e _ => ?_
    have hsees : Sees s e ↔ e.tenantId = s.credential.tenantId :=
      (or_iff_right hadmin).trans eq_comm
    rw [Bool.eq_iff_iff, Bool.and_eq_true, beq_iff_eq, decide_eq_true_iff, decide_eq_true_iff,
      hsees]
    exact and_comm

/-- A swap is once in the share of a store that sees it. -/
theorem count_share (hids : HasDistinctIds w.daemon.swaps)
    (he : e ∈ Swap.Event.ofListing w.daemon.swaps) (s : Settings) :
    ((share withInvoices w s).map (·.id)).count e.id
      = if Sees s e ∧ Wanted withInvoices w e then 1 else 0 := by
  rw [share_eq, List.Nodup.count (hids.sublist (List.filter_sublist.map _))]
  refine if_congr ⟨fun hmem => ?_, fun h => ?_⟩ rfl rfl
  · obtain ⟨e', he', hid⟩ := List.mem_map.1 hmem
    obtain ⟨hlisted, hkept⟩ := List.mem_filter.1 he'
    -- the id leads back to one event of the listing
    obtain rfl := List.inj_on_of_nodup_map hids hlisted he hid
    exact of_decide_eq_true hkept
  · exact List.mem_map.2 ⟨e, List.mem_filter.2 ⟨he, decide_eq_true h⟩, rfl⟩

/-- **A swap is published for every store that is answered and sees it.** -/
theorem count_published (hids : HasDistinctIds w.daemon.swaps)
    (he : e ∈ Swap.Event.ofListing w.daemon.swaps) :
    ((published withInvoices w stores).map (·.id)).count e.id
      = (answered w stores).countP
          fun entry => decide (Sees entry.2 e ∧ Wanted withInvoices w e) := by
  unfold published
  induction answered w stores with
  | nil => rfl
  | cons entry rest ih =>
    rw [List.flatMap_cons, List.map_append, List.count_append, ih, count_share hids he,
      List.countP_cons, Nat.add_comm]
    simp only [decide_eq_true_eq]

/-- What is published is on the daemon's list, and wanted. -/
theorem mem_listing_of_published (he : e ∈ published withInvoices w stores) :
    e ∈ Swap.Event.ofListing w.daemon.swaps ∧ Wanted withInvoices w e := by
  obtain ⟨⟨id, s⟩, _, hmem⟩ := List.mem_flatMap.1 he
  have hshare : e ∈ share withInvoices w s := hmem
  rw [share_eq] at hshare
  obtain ⟨hlisted, hkept⟩ := List.mem_filter.1 hshare
  exact ⟨hlisted, (of_decide_eq_true hkept).2⟩

/-! ## §2. Stores. -/

/-- Stores of which one at most balances channels, as the administrator, and
the others have tenants of their own. -/
structure Partitioned (stores : List (String × Settings)) : Prop where
  isAdmin_iff : ∀ entry ∈ stores,
    (entry.2.credential.isAdmin = true ↔ entry.2.mode = .rebalance)
  balancing : stores.Pairwise fun a b => ¬ (a.2.mode = .rebalance ∧ b.2.mode = .rebalance)
  tenants : stores.Pairwise fun a b => a.2.mode = .standalone → b.2.mode = .standalone →
    a.2.credential.tenantId ≠ b.2.credential.tenantId

/-- Some of the stores that are `Partitioned` are so among themselves. -/
theorem Partitioned.sublist {stores' : List (String × Settings)} (h : Partitioned stores)
    (hsub : stores'.Sublist stores) : Partitioned stores' where
  isAdmin_iff entry hentry := h.isAdmin_iff entry (hsub.subset hentry)
  balancing := h.balancing.sublist hsub
  tenants := h.tenants.sublist hsub

/-- One of the stores balances channels. -/
def Balanced (stores : List (String × Settings)) : Prop :=
  ∃ entry ∈ stores, entry.2.mode = .rebalance

/-- One of the stores has the tenant for its own. -/
def Owned (stores : List (String × Settings)) (tenant : UInt64) : Prop :=
  ∃ entry ∈ stores, entry.2.mode = .standalone ∧ entry.2.credential.tenantId = tenant

instance (stores : List (String × Settings)) : Decidable (Balanced stores) :=
  inferInstanceAs (Decidable (∃ entry ∈ stores, _))

instance (stores : List (String × Settings)) (tenant : UInt64) : Decidable (Owned stores tenant) :=
  inferInstanceAs (Decidable (∃ entry ∈ stores, _ ∧ _))

/-- Of stores no two of which have a property there is one with it or none. -/
theorem countP_of_pairwise {p : String × Settings → Prop} [DecidablePred p]
    (h : stores.Pairwise fun a b => ¬ (p a ∧ p b)) :
    stores.countP (fun entry => decide (p entry)) = if ∃ entry ∈ stores, p entry then 1 else 0 := by
  -- of two stores at most one has `p`, so behind the first one that has it there is none
  induction stores with
  | nil => simp
  | cons entry rest ih =>
    obtain ⟨hfirst, hrest⟩ := List.pairwise_cons.1 h
    rw [List.countP_cons, ih hrest]
    by_cases hentry : p entry
    · have hnone : ¬ ∃ other ∈ rest, p other := fun ⟨other, hmem, hother⟩ =>
        hfirst other hmem ⟨hentry, hother⟩
      rw [if_neg hnone, if_pos (decide_eq_true hentry),
        if_pos ⟨entry, List.mem_cons_self, hentry⟩]
    · rw [if_neg fun hp => hentry (of_decide_eq_true hp), Nat.add_zero]
      refine if_congr ⟨?_, ?_⟩ rfl rfl
      · rintro ⟨other, hmem, hother⟩
        exact ⟨other, List.mem_cons_of_mem _ hmem, hother⟩
      · rintro ⟨other, hmem, hother⟩
        rcases List.mem_cons.1 hmem with rfl | hmem
        · exact absurd hother hentry
        · exact ⟨other, hmem, hother⟩

/-- The stores that see a swap are the one that balances channels and the one
that has the tenant of the swap. -/
theorem countP_sees (h : Partitioned stores) (e : Swap.Event) :
    stores.countP (fun entry => decide (Sees entry.2 e))
      = (if Balanced stores then 1 else 0) + if Owned stores e.tenantId then 1 else 0 := by
  have hbalanced : stores.countP (fun entry => decide (entry.2.mode = .rebalance))
      = if Balanced stores then 1 else 0 := countP_of_pairwise h.balancing
  have howned : stores.countP (fun entry =>
        decide (entry.2.mode = .standalone ∧ entry.2.credential.tenantId = e.tenantId))
      = if Owned stores e.tenantId then 1 else 0 :=
    countP_of_pairwise (h.tenants.imp fun hne hboth =>
      hne hboth.1.1 hboth.2.1 (hboth.1.2.trans hboth.2.2.symm))
  rw [← hbalanced, ← howned]
  -- only this part of the partition is inherited store by store
  have hadmin := h.isAdmin_iff
  clear hbalanced howned h
  induction stores with
  | nil => rfl
  | cons entry rest ih =>
    have hentry := hadmin entry List.mem_cons_self
    rw [List.countP_cons, List.countP_cons, List.countP_cons,
      ih fun other hother => hadmin other (List.mem_cons_of_mem _ hother)]
    unfold Sees
    simp only [hentry]
    cases entry.2.mode with
    | rebalance => simp; omega
    | standalone => simp; omega

/-- **How often a swap is published**: once for the store that balances
channels and once for the store that has its tenant, as far as each of them is
there and answered. -/
theorem count_published_of_partitioned (h : Partitioned stores)
    (hids : HasDistinctIds w.daemon.swaps) (he : e ∈ Swap.Event.ofListing w.daemon.swaps) :
    ((published withInvoices w stores).map (·.id)).count e.id
      = if Wanted withInvoices w e then
          (if Balanced (answered w stores) then 1 else 0)
            + if Owned (answered w stores) e.tenantId then 1 else 0
        else 0 := by
  rw [count_published hids he]
  by_cases hwanted : Wanted withInvoices w e
  · rw [if_pos hwanted, ← countP_sees (h.sublist (answered_sublist w stores)) e]
    simp only [hwanted, and_true]
  · rw [if_neg hwanted]
    simp [hwanted]

/-- **No id is repeated** exactly if no swap is wanted that is listed twice. -/
theorem nodup_published_iff (h : Partitioned stores) (hids : HasDistinctIds w.daemon.swaps) :
    ((published withInvoices w stores).map (·.id)).Nodup
      ↔ ∀ e ∈ Swap.Event.ofListing w.daemon.swaps, Wanted withInvoices w e →
          ¬ (Balanced (answered w stores) ∧ Owned (answered w stores) e.tenantId) := by
  rw [List.nodup_iff_count_le_one]
  constructor
  · rintro hcount e he hwanted ⟨hbalanced, howned⟩
    have htwice := hcount e.id
    rw [count_published_of_partitioned h hids he, if_pos hwanted, if_pos hbalanced,
      if_pos howned] at htwice
    omega
  · intro hnever id
    by_cases hid : id ∈ (published withInvoices w stores).map (·.id)
    · obtain ⟨e, he, rfl⟩ := List.mem_map.1 hid
      obtain ⟨hlisted, hwanted⟩ := mem_listing_of_published he
      have hone := hnever e hlisted hwanted
      -- with one listing at most, the sum of the two shares is at most one
      rw [count_published_of_partitioned h hids hlisted, if_pos hwanted]
      by_cases hbalanced : Balanced (answered w stores)
      · have hnot : ¬ Owned (answered w stores) e.tenantId := fun howned =>
          hone ⟨hbalanced, howned⟩
        have htotal : ((if Balanced (answered w stores) then 1 else 0)
            + if Owned (answered w stores) e.tenantId then 1 else 0) = 1 := by
          rw [if_pos hbalanced, if_neg hnot]
        exact Nat.le_of_eq htotal
      · rw [if_neg hbalanced]
        split <;> omega
    · rw [List.count_eq_zero.2 hid]
      exact Nat.zero_le 1

end Poll

/-! ## §3. Settings. -/

namespace Broker

variable {s : Store} {ks : List Change}

/-- A store that is issued a tenant's credential keeps it. -/
theorem run_standalone {health : Supervisor.State} {id : String} {wallet : Option WalletRef}
    {daemon : Daemon} {c : Rpc.Connection} {cred : Credential} (hc : health.admin? = some c)
    (h : (ensureTenant health id daemon).1 = .ok cred) :
    ((Change.enable health id .standalone wallet daemon).run s).2
      = s.putSettings id ⟨.standalone, c.address, cred, wallet⟩ := by
  unfold Change.run enable admin credentialFor
  simp only [hc]
  cases hissued : ensureTenant health id daemon with
  | mk answer after =>
    rw [hissued] at h
    obtain rfl : answer = .ok cred := h
    rfl

/-- The tenants that the daemon has after a store was enabled with one of its own. -/
def Change.tenants : Change → Option (Table UInt64)
  | .enable health id .standalone _ daemon => some (ensureTenant health id daemon).2.tenants
  | _ => none

/-- All along, the daemon has different ids for different tenants. -/
def Apart (ks : List Change) : Prop :=
  ∀ k ∈ ks, ∀ k' ∈ ks, ∀ t t', k.tenants = some t → k'.tenants = some t' →
    ∀ n n' id, t.get? n = some id → t'.get? n' = some id → n = n'

/-- The credential of a store with a tenant of its own is for the tenant that
had the name of the store when some change was made. -/
def Named (ks : List Change) (s : Store) : Prop :=
  ∀ id settings, s.Keeps id settings → settings.mode = .standalone →
    ∃ k ∈ ks, ∃ t, k.tenants = some t
      ∧ t.get? (tenantName id) = some settings.credential.tenantId

/-- One change keeps the tenants `Named`: only the name of its own store can be added. -/
theorem named_run {k : Change} (hk : k ∈ ks) (h : Named ks s) : Named ks (k.run s).2 := by
  intro id settings hkeeps hmode
  cases k with
  | disable other => exact h id settings (Store.keeps_deleteSettings.1 hkeeps).2 hmode
  | enable health other mode wallet daemon =>
    rcases enable_cases health other mode wallet s daemon with
      ⟨err, after, heq⟩ | ⟨c, cred, after, _, hcred, heq⟩
    · have hsame : ((Change.enable health other mode wallet daemon).run s).2 = s := by
        unfold Change.run
        dsimp only
        rw [heq]
      exact h id settings (hsame ▸ hkeeps) hmode
    · have hput : ((Change.enable health other mode wallet daemon).run s).2
          = s.putSettings other ⟨mode, c.address, cred, wallet⟩ := by
        unfold Change.run
        dsimp only
        rw [heq]
      rw [hput] at hkeeps
      rcases Store.keeps_putSettings.1 hkeeps with ⟨rfl, rfl⟩ | ⟨_, hkept⟩
      · -- the store that is written has what was issued under its own name
        obtain rfl : mode = .standalone := hmode
        have hissued : ensureTenant health id daemon = (.ok cred, after) := hcred
        have hheld := ((ensureTenant_cases health id daemon).2 cred (by rw [hissued])).held
        exact ⟨_, hk, _, rfl, hheld⟩
      · exact h id settings hkept hmode

/-- So do any changes, from an empty store on. -/
theorem named_changed (hs : s.settings = .empty) : Named ks (changed ks s) := by
  -- the changes still to be made become fewer, those that give the names stay
  have hrun : ∀ (js : List Change) (s : Store), (∀ j ∈ js, j ∈ ks) → Named ks s →
      Named ks (changed js s) := by
    intro js
    induction js with
    | nil => exact fun s _ h => h
    | cons j js ih =>
      intro s hjs h
      exact ih _ (fun i hi => hjs i (List.mem_cons_of_mem _ hi))
        (named_run (hjs j List.mem_cons_self) h)
  exact hrun ks s (fun _ h => h)
    fun id settings hkeeps => absurd hkeeps (Store.not_keeps_of_empty hs)

/-- **Settings that come about by changes are partitioned**, and can be read. -/
theorem partitioned_changed (hs : s.settings = .empty) (hks : ∀ k ∈ ks, k.Sound)
    (hapart : Apart ks) :
    ∃ stores, (changed ks s).allSettings = .ok stores ∧ Poll.Partitioned stores := by
  have hexclusive := exclusive_changed hks (exclusive_of_empty hs)
  obtain ⟨stores, hstores, hkept⟩ := Store.allSettings_of_readable hexclusive.readable
  have hne := Store.apart_allSettings hstores
  refine ⟨stores, hstores, ?_, ?_, ?_⟩
  · exact fun entry hentry => hexclusive.isAdmin_iff entry.1 entry.2 ((hkept _ _).1 hentry)
  · refine hne.imp_of_mem fun ha hb hid hboth => hid ?_
    exact hexclusive.one _ _ ⟨_, (hkept _ _).1 ha, hboth.1⟩ ⟨_, (hkept _ _).1 hb, hboth.2⟩
  · refine hne.imp_of_mem fun ha hb hid hmode hmode' htenant => hid ?_
    -- one tenant has one name, and one name is that of one store
    obtain ⟨k, hk, t, ht, hget⟩ := named_changed hs _ _ ((hkept _ _).1 ha) hmode
    obtain ⟨k', hk', t', ht', hget'⟩ := named_changed hs _ _ ((hkept _ _).1 hb) hmode'
    exact tenantName_inj.1 (hapart k hk k' hk' t t' ht ht' _ _ _ hget (htenant ▸ hget'))

end Broker

/-! ## §4. The first catch-up. -/

namespace Deployment

open Broker Poll

/-- **HOW OFTEN SWAPS ARE PUBLISHED**: over settings that came about by any
changes and a daemon that keeps its tenants apart, the first catch-up publishes
a wanted swap once for the store that balances channels and once for the store
that has its tenant, as far as each of them is there and answered.  So ids are
repeated exactly if both are answered and the one lists what the other owns. -/
theorem published_twice_iff {ks : List Change} {s : Store} (d : Deployment) (withInvoices : Bool)
    (hs : s.settings = .empty) (hks : ∀ k ∈ ks, k.Sound) (hapart : Apart ks)
    (hstore : d.store = changed ks s) (hfirst : d.feed.polled = false)
    (hids : HasDistinctIds d.world.daemon.swaps) :
    ∃ stores es asked, d.store.allSettings = .ok stores
      ∧ Poll.run withInvoices d.world = (.ok es, asked)
      ∧ (d.poll withInvoices).1 = .ok es.length
      ∧ (d.poll withInvoices).2.feed.subscription
        = d.feed.subscription.map (·.add Mailbox.capacity es)
      ∧ (∀ e ∈ es, e ∈ Swap.Event.ofListing d.world.daemon.swaps)
      ∧ (∀ e ∈ Swap.Event.ofListing d.world.daemon.swaps,
          (es.map (·.id)).count e.id
            = if Wanted withInvoices d.world e then
                (if Balanced (answered d.world stores) then 1 else 0)
                  + if Owned (answered d.world stores) e.tenantId then 1 else 0
              else 0)
      ∧ ((es.map (·.id)).Nodup
        ↔ ∀ e ∈ Swap.Event.ofListing d.world.daemon.swaps, Wanted withInvoices d.world e →
            ¬ (Balanced (answered d.world stores)
              ∧ Owned (answered d.world stores) e.tenantId)) := by
  -- which changes were made counts only through the settings they leave
  obtain ⟨stores, hstores, hpartitioned⟩ := partitioned_changed hs hks hapart
  rw [← hstore] at hstores
  obtain ⟨pool, daemon, hrun, _⟩ := run_eq withInvoices hstores
  have hpoll := poll_of_run hfirst hrun
  refine ⟨stores, _, _, hstores, hrun, ?_, ?_, fun e he => (mem_listing_of_published he).1,
    fun e he => count_published_of_partitioned hpartitioned hids he,
    nodup_published_iff hpartitioned hids⟩
  · rw [hpoll]
  · rw [hpoll]
    rfl

/-- A node takes the administrator's credential, and a shop a tenant of its own. -/
def nodeAndShop : List Change := [claims "node", .enable serving "shop" .standalone none fresh]

def nodeSettings : Settings := ⟨.rebalance, "http://localhost:9002", ⟨1, "ad", .readWrite⟩, none⟩

def shopSettings : Settings := ⟨.standalone, "http://localhost:9002", nthCredential 2 1, none⟩

/-- The shop has one swap, and nobody has paid it yet. -/
def oneSwap : Deployment where
  world :=
    { store := changed nodeAndShop .empty
      pool := ⟨["http://localhost:9002"]⟩
      daemon := { fresh with swaps := { chain := [unpaid "swap-1" 2] } }
      health := serving
      platform := {} }
  feed := { subscription := some {} }
  storePath := "bridge.sqlite3"

theorem tenants_shop :
    (Broker.ensureTenant serving "shop" fresh).2.tenants.entries = [("store-shop", 2)] := by
  decide +kernel

/-- The changes of the example are `Sound`: the daemon hands out what its settings hold. -/
theorem sound_nodeAndShop : ∀ k ∈ nodeAndShop, k.Sound := by
  intro k hk
  simp only [nodeAndShop, List.mem_cons, List.not_mem_nil, or_false] at hk
  rcases hk with rfl | rfl
  · trivial
  · intro name hname
    rw [Table.get?_eq_some_iff, tenants_shop] at hname
    simp only [List.mem_cons, Prod.mk.injEq, List.not_mem_nil, or_false] at hname
    exact absurd hname.2 (by decide)

/-- The stores of the example are `Apart`. -/
theorem apart_nodeAndShop : Apart nodeAndShop := by
  have hshop : ∀ k ∈ nodeAndShop, ∀ t, k.tenants = some t →
      t.entries = [("store-shop", 2)] := by
    intro k hk t ht
    simp only [nodeAndShop, List.mem_cons, List.not_mem_nil, or_false] at hk
    rcases hk with rfl | rfl
    · cases ht
    · cases ht
      exact tenants_shop
  intro k hk k' hk' t t' ht ht' n n' id h h'
  rw [Table.get?_eq_some_iff, hshop k hk t ht] at h
  rw [Table.get?_eq_some_iff, hshop k' hk' t' ht'] at h'
  simp only [List.mem_cons, Prod.mk.injEq, List.not_mem_nil, or_false] at h h'
  exact h.1.trans h'.1.symm

/-- The settings after both changes: the node's with the administrator's credential, the
shop's with that of its tenant. -/
theorem allSettings_nodeAndShop : (changed nodeAndShop .empty).allSettings
    = .ok [("node", nodeSettings), ("shop", shopSettings)] := by
  have hissued : (Broker.ensureTenant serving "shop" fresh).1 = .ok (nthCredential 2 1) := by
    decide +kernel
  have hnode : ((claims "node").run .empty).2 = Store.empty.putSettings "node" nodeSettings := rfl
  have hchanged : changed nodeAndShop .empty
      = (Store.empty.putSettings "node" nodeSettings).putSettings "shop" shopSettings := by
    unfold nodeAndShop changed
    rw [List.foldl_cons, hnode, List.foldl_cons, List.foldl_nil]
    exact run_standalone (c := ⟨"http://localhost:9002", "ad", none⟩) rfl hissued
  -- the table is ascending, so the shop's settings are written behind the node's
  have hentries : (changed nodeAndShop .empty).settings.entries
      = [("node", JsonCodec.write nodeSettings), ("shop", JsonCodec.write shopSettings)] := by
    rw [hchanged]
    show Table.insertEntry "shop" (JsonCodec.write shopSettings)
      (Table.insertEntry "node" (JsonCodec.write nodeSettings) []) = _
    simp only [Table.insertEntry]
    rw [if_neg (by decide), if_pos (by decide)]
  unfold Store.allSettings
  rw [hentries]
  exact Store.mapM_decodeSettings [("node", nodeSettings), ("shop", shopSettings)]

/-- Both are answered, and both list the swap of the shop. -/
theorem run_oneSwap : ∃ es asked, Poll.run true oneSwap.world = (.ok es, asked)
    ∧ es.map (·.id) = ["swap-1", "swap-1"] := by
  have hread : oneSwap.store.allSettings
      = .ok [("node", nodeSettings), ("shop", shopSettings)] := allSettings_nodeAndShop
  obtain ⟨pool, daemon, hrun, _⟩ := run_eq true hread
  exact ⟨_, _, hrun, by decide +kernel⟩

theorem hasDistinctIds_oneSwap : HasDistinctIds oneSwap.world.daemon.swaps := by
  decide +kernel

theorem published_twice_iff_oneSwap :
    (∀ k ∈ nodeAndShop, k.Sound) ∧ Apart nodeAndShop
      ∧ HasDistinctIds oneSwap.world.daemon.swaps
      ∧ (oneSwap.poll true).1 = .ok 2
      ∧ ∃ e ∈ Swap.Event.ofListing oneSwap.world.daemon.swaps, ∃ stores,
        Balanced (answered oneSwap.world stores)
          ∧ Owned (answered oneSwap.world stores) e.tenantId := by
  obtain ⟨stores, es, asked, _, hrun, hanswer, _, _, _, hnodup⟩ :=
    published_twice_iff oneSwap true rfl sound_nodeAndShop apart_nodeAndShop rfl rfl
      hasDistinctIds_oneSwap
  obtain ⟨es', asked', hrun', hes⟩ := run_oneSwap
  cases hrun.symm.trans hrun'
  have hlength : es.length = 2 := (List.length_map _).symm.trans (congrArg List.length hes)
  have hrepeated : ¬ (es.map (·.id)).Nodup := by
    rw [hes]
    decide
  refine ⟨sound_nodeAndShop, apart_nodeAndShop, hasDistinctIds_oneSwap, ?_, ?_⟩
  · rw [hanswer, hlength]
  · -- an id is repeated, so some swap is listed by the one and owned by the other
    by_contra hnone
    exact hrepeated (hnodup.2 fun e he _ hboth => hnone ⟨e, he, stores, hboth⟩)

/-- That no id is ever repeated is wrong: a catch-up publishes the one swap of
the shop for the shop and for the node. -/
theorem not_published_once : ¬ ∀ (ks : List Change) (d : Deployment) (withInvoices : Bool)
    (es : List Swap.Event) (asked : World), (∀ k ∈ ks, k.Sound) → Apart ks →
      d.store = changed ks .empty → d.feed.polled = false →
      HasDistinctIds d.world.daemon.swaps → Poll.run withInvoices d.world = (.ok es, asked) →
      (es.map (·.id)).Nodup := by
  intro hclaim
  obtain ⟨es, asked, hrun, hes⟩ := run_oneSwap
  have hnodup := hclaim nodeAndShop oneSwap true es asked sound_nodeAndShop apart_nodeAndShop rfl
    rfl hasDistinctIds_oneSwap hrun
  rw [hes] at hnodup
  exact absurd hnodup (by decide)

end Deployment

end SwapBridge
