/-
  SwapBridge.Proofs.Store
  ───────────────────────
  **SETTINGS THAT CAN BE READ.**

  Settings are kept as texts and decoded on every reading, so one bad text
  fails the reading of all.  A store file that only ever had settings put into
  it keeps no bad text.

    • `Store.Keeps`, `Store.Readable` — what is kept, and that it can be read,
    • `allSettings_of_readable` — a reading finds exactly what is kept,
    • `ascending_allSettings`, `ofTenant_eq_some` — a reading goes by ascending store id,
    • `rebalanceStore_of_readable` — and a store that balances channels, if there is one.
-/
import SwapBridge.Proofs.Json.Codec
import SwapBridge.Proofs.Table
import SwapBridge.Store

namespace SwapBridge.Store

variable {s : Store} {id id' other : String} {settings settings' : Settings}

/-! ## §1. What is kept. -/

/-- These settings are kept for a store. -/
def Keeps (s : Store) (id : String) (settings : Settings) : Prop :=
  s.settings.get? id = some (JsonCodec.write settings)

/-- Every text that is kept is of some settings. -/
def Readable (s : Store) : Prop :=
  ∀ id text, s.settings.get? id = some text → ∃ settings : Settings, text = JsonCodec.write settings

/-- A store without rows keeps no settings. -/
theorem not_keeps_of_empty (h : s.settings = .empty) : ¬ s.Keeps id settings := by
  unfold Keeps
  rw [h]
  simp

/-- A store without rows is `Readable`: there is nothing to read. -/
theorem readable_of_empty (h : s.settings = .empty) : s.Readable := by
  intro id text hget
  rw [h] at hget
  cases hget

/-- A row is written under the id of its store and under no other. -/
theorem get?_putSettings (s : Store) (id : String) (settings : Settings) (other : String) :
    (s.putSettings id settings).settings.get? other
      = if other = id then some (JsonCodec.write settings) else s.settings.get? other :=
  Table.get?_insert s.settings id other _

/-- A row is deleted under the id of its store and under no other. -/
theorem get?_deleteSettings (s : Store) (id other : String) :
    (s.deleteSettings id).2.settings.get? other
      = if other = id then none else s.settings.get? other :=
  Table.get?_erase s.settings id other

/-- What is kept after settings were put: these, and those of other stores. -/
theorem keeps_putSettings : (s.putSettings id settings).Keeps other settings' ↔
    other = id ∧ settings' = settings ∨ other ≠ id ∧ s.Keeps other settings' := by
  unfold Keeps
  rw [get?_putSettings]
  by_cases h : other = id
  · simp [h, JsonCodec.write_inj, eq_comm]
  · simp [h]

/-- What is kept after settings were deleted: those of other stores. -/
theorem keeps_deleteSettings : (s.deleteSettings id).2.Keeps other settings ↔
    other ≠ id ∧ s.Keeps other settings := by
  unfold Keeps
  rw [get?_deleteSettings]
  by_cases h : other = id <;> simp [h]

/-- What is written can be read, since it is written by `JsonCodec.write`. -/
theorem Readable.putSettings (h : s.Readable) (id : String) (settings : Settings) :
    (s.putSettings id settings).Readable := by
  intro other text hget
  rw [get?_putSettings] at hget
  split at hget
  · injection hget with hget
    exact ⟨settings, hget.symm⟩
  · exact h other text hget

theorem Readable.deleteSettings (h : s.Readable) (id : String) :
    (s.deleteSettings id).2.Readable := by
  intro other text hget
  rw [get?_deleteSettings] at hget
  split at hget
  · cases hget
  · exact h other text hget

/-! ## §2. Reading. -/

/-- Settings that were written are read back: the round trip of `LawfulJsonCodec`. -/
theorem decodeSettings_write (id : String) (settings : Settings) :
    decodeSettings id (JsonCodec.write settings) = .ok settings := by
  unfold decodeSettings
  rw [JsonCodec.read_write]

/-- Texts of settings are decoded one after the other. -/
theorem mapM_decodeSettings (all : List (String × Settings)) :
    (all.map fun e => (e.1, JsonCodec.write e.2)).mapM
        (fun (e : String × String) => (decodeSettings e.1 e.2).map (e.1, ·))
      = .ok all := by
  induction all with
  | nil => rfl
  | cons e all ih =>
    rw [List.map_cons, List.mapM_cons, ih, decodeSettings_write]
    rfl

/-- **A reading finds exactly what is kept.** -/
theorem allSettings_of_readable (h : s.Readable) :
    ∃ all, s.allSettings = .ok all ∧ ∀ id settings, (id, settings) ∈ all ↔ s.Keeps id settings := by
  -- readable texts are the texts of some settings, and those are what decoding gives
  have hdecoded : ∀ es : List (String × String),
      (∀ e ∈ es, ∃ settings : Settings, e.2 = JsonCodec.write settings) →
      ∃ all : List (String × Settings), es = all.map fun e => (e.1, JsonCodec.write e.2) := by
    intro es
    induction es with
    | nil => exact fun _ => ⟨[], rfl⟩
    | cons e es ih =>
      intro hes
      obtain ⟨settings, htext⟩ := hes e List.mem_cons_self
      obtain ⟨all, hall⟩ := ih fun d hd => hes d (List.mem_cons_of_mem _ hd)
      exact ⟨(e.1, settings) :: all, by rw [List.map_cons, ← hall, ← htext]⟩
  obtain ⟨all, hall⟩ := hdecoded s.settings.entries fun e he =>
    h e.1 e.2 (Table.get?_eq_some_iff.2 he)
  refine ⟨all, ?_, fun id settings => ?_⟩
  · unfold allSettings
    rw [hall]
    exact mapM_decodeSettings all
  · unfold Keeps
    rw [Table.get?_eq_some_iff, hall, List.mem_map]
    constructor
    · intro hmem
      exact ⟨(id, settings), hmem, rfl⟩
    · rintro ⟨⟨id', settings'⟩, hmem, heq⟩
      injection heq with hid htext
      rw [← hid, ← JsonCodec.write_inj.1 htext]
      exact hmem

/-- Decoding keeps the store ids. -/
theorem keys_of_decoded : ∀ {es : List (String × String)} {all : List (String × Settings)},
    es.mapM (fun (e : String × String) => (decodeSettings e.1 e.2).map (e.1, ·)) = .ok all →
      all.map Prod.fst = es.map Prod.fst
  | [], all, h => by
    cases h
    rfl
  | e :: es, all, h => by
    rw [List.mapM_cons] at h
    cases hfirst : decodeSettings e.1 e.2 with
    | error fault =>
      rw [hfirst] at h
      cases h
    | ok settings =>
      rw [hfirst] at h
      cases hrest : es.mapM fun (e : String × String) =>
          (decodeSettings e.1 e.2).map (e.1, ·) with
      | error fault =>
        rw [hrest] at h
        cases h
      | ok rest =>
        rw [hrest] at h
        cases h
        exact congrArg (e.1 :: ·) (keys_of_decoded hrest)

/-- **A reading goes by ascending store id.** -/
theorem ascending_allSettings {all : List (String × Settings)} (h : s.allSettings = .ok all) :
    all.Pairwise fun a b => a.1 < b.1 := by
  have hentries := List.pairwise_map.2 s.settings.ascending
  rw [← keys_of_decoded h] at hentries
  exact List.pairwise_map.1 hentries

/-- No store stands twice in a reading. -/
theorem apart_allSettings {all : List (String × Settings)} (h : s.allSettings = .ok all) :
    all.Pairwise fun a b => a.1 ≠ b.1 := by
  refine (ascending_allSettings h).imp ?_
  intro a b hlt heq
  rw [heq] at hlt
  exact String.lt_irrefl _ hlt

/-- The settings of one store are those that a reading of all finds for it. -/
theorem settingsOf_eq_some_iff {all : List (String × Settings)} (h : s.allSettings = .ok all) :
    s.settingsOf id = .ok (some settings) ↔ (id, settings) ∈ all := by
  have hnodup : (all.map Prod.fst).Nodup := List.pairwise_map.2 (apart_allSettings h)
  unfold settingsOf
  rw [h]
  constructor
  · intro hfound
    exact Table.mem_of_lookup (Except.ok.inj hfound)
  · intro hmem
    exact congrArg Except.ok (Table.lookup_of_mem hnodup hmem)

/-- **The store of a tenant is the first one** whose credential is for the tenant. -/
theorem ofTenant_eq_some {tenant : UInt64} (h : s.ofTenant tenant = .ok (some (id, settings))) :
    s.settingsOf id = .ok (some settings) ∧ settings.credential.tenantId = tenant
      ∧ ∀ other kept, s.settingsOf other = .ok (some kept) → kept.credential.tenantId = tenant →
        ¬ other < id := by
  cases hall : s.allSettings with
  | error fault =>
    unfold ofTenant at h
    rw [hall] at h
    cases h
  | ok all =>
    unfold ofTenant at h
    rw [hall] at h
    -- the first match of an ascending list is the one with the least id
    obtain ⟨htenant, before, after, rfl, hbefore⟩ :=
      List.find?_eq_some_iff_append.1 (Except.ok.inj h)
    refine ⟨?_, beq_iff_eq.1 htenant, fun other kept hkept hother hlt => ?_⟩
    · rw [settingsOf_eq_some_iff hall]
      exact List.mem_append_right _ List.mem_cons_self
    · -- those before the first are for other tenants, those after it have larger ids
      rw [settingsOf_eq_some_iff hall] at hkept
      rcases List.mem_append.1 hkept with hmem | hmem
      · have hne := hbefore _ hmem
        simp [hother] at hne
      · have hascending := (List.pairwise_append.1 (ascending_allSettings hall)).2.1
        rcases List.mem_cons.1 hmem with heq | hmem
        · injection heq with heq
          exact String.lt_irrefl _ (heq ▸ hlt)
        · exact String.lt_irrefl _
            (String.lt_trans hlt ((List.pairwise_cons.1 hascending).1 _ hmem))

/-- A store's credential is for a tenant, and no store before it has one for that tenant. -/
structure IsHolder (s : Store) (tenant : UInt64) (id : String) (settings : Settings) : Prop where
  settings_eq : s.settingsOf id = .ok (some settings)
  tenant_eq : settings.credential.tenantId = tenant
  first : ∀ other kept, s.settingsOf other = .ok (some kept) → kept.credential.tenantId = tenant →
    ¬ other < id

/-- **A search for a tenant finds the first store that holds it**, and only that one. -/
theorem ofTenant_eq_some_iff {tenant : UInt64} :
    s.ofTenant tenant = .ok (some (id, settings)) ↔ s.IsHolder tenant id settings := by
  constructor
  · intro h
    obtain ⟨hsettings, htenant, hfirst⟩ := ofTenant_eq_some h
    exact ⟨hsettings, htenant, hfirst⟩
  · rintro ⟨hsettings, htenant, hfirst⟩
    cases hall : s.allSettings with
    | error fault =>
      unfold settingsOf at hsettings
      rw [hall] at hsettings
      cases hsettings
    | ok all =>
      have hmem := (settingsOf_eq_some_iff hall).1 hsettings
      have hsearch : s.ofTenant tenant
          = .ok (all.find? fun p => p.2.credential.tenantId == tenant) := by
        unfold ofTenant
        rw [hall]
        rfl
      cases hfound : all.find? fun p => p.2.credential.tenantId == tenant with
      | none => exact absurd htenant (by simpa using List.find?_eq_none.1 hfound _ hmem)
      | some found =>
        rw [hsearch, hfound]
        obtain ⟨other, kept⟩ := found
        obtain ⟨hkept, hother, hbefore⟩ := ofTenant_eq_some (hsearch.trans (congrArg _ hfound))
        -- neither of the two stands before the other one
        obtain rfl : other = id :=
          String.le_antisymm (hbefore id settings hsettings htenant)
            (hfirst other kept hkept hother)
        rw [hkept] at hsettings
        cases hsettings
        rfl

/-- A store balances the platform's channels. -/
def Rebalances (s : Store) (id : String) : Prop :=
  ∃ settings, s.Keeps id settings ∧ settings.mode = .rebalance

/-- Settings that are put balance channels or not, whatever they replace. -/
theorem rebalances_putSettings : (s.putSettings id settings).Rebalances other ↔
    other = id ∧ settings.mode = .rebalance ∨ other ≠ id ∧ s.Rebalances other := by
  unfold Rebalances
  simp only [keeps_putSettings]
  constructor
  · rintro ⟨kept, ⟨hid, rfl⟩ | ⟨hne, hkeeps⟩, hmode⟩
    · exact .inl ⟨hid, hmode⟩
    · exact .inr ⟨hne, kept, hkeeps, hmode⟩
  · rintro (⟨hid, hmode⟩ | ⟨hne, kept, hkeeps, hmode⟩)
    · exact ⟨settings, .inl ⟨hid, rfl⟩, hmode⟩
    · exact ⟨kept, .inr ⟨hne, hkeeps⟩, hmode⟩

/-- To delete the settings of a store takes its mode along. -/
theorem rebalances_deleteSettings : (s.deleteSettings id).2.Rebalances other ↔
    other ≠ id ∧ s.Rebalances other := by
  unfold Rebalances
  simp only [keeps_deleteSettings]
  constructor
  · rintro ⟨kept, ⟨hne, hkeeps⟩, hmode⟩
    exact ⟨hne, kept, hkeeps, hmode⟩
  · rintro ⟨hne, kept, hkeeps, hmode⟩
    exact ⟨kept, ⟨hne, hkeeps⟩, hmode⟩

/-- **A reading finds a store that balances channels, if there is one.** -/
theorem rebalanceStore_of_readable (h : s.Readable) :
    ∃ holder, s.rebalanceStore = .ok holder ∧ (∀ id, holder = some id → s.Rebalances id)
      ∧ (holder = none → ∀ id, ¬ s.Rebalances id) := by
  obtain ⟨all, hall, hkept⟩ := allSettings_of_readable h
  unfold rebalanceStore
  rw [hall]
  refine ⟨_, rfl, fun id hid => ?_, fun hnone id => ?_⟩
  · obtain ⟨⟨id', settings⟩, hfound, rfl⟩ := Option.map_eq_some_iff.1 hid
    exact ⟨settings, (hkept _ settings).1 (List.mem_of_find?_eq_some hfound),
      by simpa using List.find?_some hfound⟩
  · rintro ⟨settings, hkeeps, hmode⟩
    have hmissing := List.find?_eq_none.1 (Option.map_eq_none_iff.1 hnone)
    exact hmissing (id, settings) ((hkept id settings).2 hkeeps) (by simp [hmode])

end SwapBridge.Store
