/-
  SwapBridge.Proofs.Store.Writes
  ──────────────────────────────
  **SETTINGS SURVIVE BEING KEPT.**

  Settings are put into a store file and deleted from it, in any order.  What
  is read afterwards is the map to which the same writes were applied: the
  last write for a store counts, and texts between are of no concern.

    • `Store.Write`, `Write.applied` — a write of a store file, and of a map,
    • `Store.Reflects` — a store file keeps exactly a map,
    • `reflects_run`, `reflects_written` — one write, and any number of them,
    • `allSettings_of_reflects` — a listing is the map in ascending order,
    • `settings_survive` — with the law that every value is read back.
-/
import Mathlib.Logic.Function.Basic
import SwapBridge.Proofs.Json.Forms
import SwapBridge.Proofs.Store

namespace SwapBridge.Store

variable {s : Store} {kept : String → Option Settings}

/-! ## §1. Writes. -/

/-- A write of settings. -/
inductive Write where
  | put (id : String) (settings : Settings)
  | delete (id : String)

namespace Write

/-- The store file after a write. -/
def run : Write → Store → Store
  | .put id settings, s => s.putSettings id settings
  | .delete id, s => (s.deleteSettings id).2

/-- The map after a write. -/
def applied : Write → (String → Option Settings) → String → Option Settings
  | .put id settings, kept => Function.update kept id (some settings)
  | .delete id, kept => Function.update kept id none

end Write

/-- The store file after writes, one after the other. -/
def written (ws : List Write) (s : Store) : Store := ws.foldl (fun s w => w.run s) s

/-- The map that the writes make of nothing. -/
def mapOf (ws : List Write) : String → Option Settings :=
  ws.foldl (fun kept w => w.applied kept) fun _ => none

/-! ## §2. A store file and a map. -/

/-- A store file keeps the settings of a map, and no others. -/
def Reflects (s : Store) (kept : String → Option Settings) : Prop :=
  ∀ id, s.settings.get? id = (kept id).map JsonCodec.write

/-- A store without rows reflects that nothing was written. -/
theorem reflects_of_empty (h : s.settings = .empty) : s.Reflects fun _ => none := by
  intro id
  rw [h]
  rfl

/-- A store that `Reflects` writes holds nothing else, so that it can be read. -/
theorem Reflects.readable (h : s.Reflects kept) : s.Readable := by
  intro id text htext
  rw [h id] at htext
  obtain ⟨settings, _, rfl⟩ := Option.map_eq_some_iff.1 htext
  exact ⟨settings, rfl⟩

/-- It keeps the settings that were written last, and none that were deleted since. -/
theorem Reflects.keeps_iff (h : s.Reflects kept) (id : String) (settings : Settings) :
    s.Keeps id settings ↔ kept id = some settings := by
  unfold Keeps
  rw [h id]
  constructor
  · intro hkept
    obtain ⟨settings', hsome, htext⟩ := Option.map_eq_some_iff.1 hkept
    rw [hsome, JsonCodec.write_inj.1 htext]
  · intro hsome
    rw [hsome]
    rfl

/-- **One write** does to the store file what it does to the map. -/
theorem reflects_run (w : Write) (h : s.Reflects kept) : (w.run s).Reflects (w.applied kept) := by
  intro other
  cases w with
  | put id settings =>
    show (s.putSettings id settings).settings.get? other = _
    rw [get?_putSettings]
    by_cases heq : other = id
    · subst heq
      simp [Write.applied]
    · simp [Write.applied, heq, h other]
  | delete id =>
    show (s.deleteSettings id).2.settings.get? other = _
    rw [get?_deleteSettings]
    by_cases heq : other = id
    · subst heq
      simp [Write.applied]
    · simp [Write.applied, heq, h other]

/-- **Any number of writes** do. -/
theorem reflects_written (ws : List Write) (h : s.settings = .empty) :
    (written ws s).Reflects (mapOf ws) := by
  have hfold : ∀ (s : Store) (kept : String → Option Settings), s.Reflects kept →
      (written ws s).Reflects (ws.foldl (fun kept w => w.applied kept) kept) := by
    induction ws with
    | nil => exact fun _ _ h => h
    | cons w ws ih => exact fun s kept h => ih (w.run s) (w.applied kept) (reflects_run w h)
  exact hfold s _ (reflects_of_empty h)

/-! ## §3. What is read. -/

/-- **A listing is the map**, by ascending store id. -/
theorem allSettings_of_reflects (h : s.Reflects kept) :
    ∃ all, s.allSettings = .ok all ∧ all.Pairwise (fun a b => a.1 < b.1)
      ∧ ∀ id settings, (id, settings) ∈ all ↔ kept id = some settings := by
  obtain ⟨all, hall, hmem⟩ := allSettings_of_readable h.readable
  refine ⟨all, hall, ascending_allSettings hall, fun id settings => ?_⟩
  rw [hmem, h.keeps_iff]

/-- Deleting says whether there was anything to delete. -/
theorem deleteSettings_of_reflects (h : s.Reflects kept) (id : String) :
    (s.deleteSettings id).1 = (kept id).isSome := by
  show (s.settings.get? id).isSome = _
  rw [h id]
  cases kept id <;> rfl

/-- **SETTINGS SURVIVE BEING KEPT.**  Settings, credentials and all they are
made of, and the kinds, states and details of payments, are read back from
their texts as they were.  After any writes to a store file without settings, a
listing of the settings is the map that the writes make of nothing, by
ascending store id, and deleting the settings of a store tells whether the map
has any. -/
theorem settings_survive (ledger : Ledger) :
    ((∀ a : Settings, JsonCodec.read (JsonCodec.write a) = some a)
      ∧ (∀ a : Credential, JsonCodec.read (JsonCodec.write a) = some a)
      ∧ (∀ a : Scope, JsonCodec.read (JsonCodec.write a) = some a)
      ∧ (∀ a : WalletRef, JsonCodec.read (JsonCodec.write a) = some a)
      ∧ (∀ a : Mode, JsonCodec.read (JsonCodec.write a) = some a)
      ∧ (∀ a : Swap.Kind, JsonCodec.read (JsonCodec.write a) = some a)
      ∧ (∀ a : Swap.State, JsonCodec.read (JsonCodec.write a) = some a)
      ∧ (∀ a : Payment.Status, JsonCodec.read (JsonCodec.write a) = some a)
      ∧ ∀ a : Payment.Details, JsonCodec.read (JsonCodec.write a) = some a)
    ∧ ∀ ws : List Write,
      (∃ all, (written ws ⟨.empty, ledger⟩).allSettings = .ok all
        ∧ all.Pairwise (fun a b => a.1 < b.1)
        ∧ ∀ id settings, (id, settings) ∈ all ↔ mapOf ws id = some settings)
      ∧ ∀ id, ((written ws ⟨.empty, ledger⟩).deleteSettings id).1 = (mapOf ws id).isSome := by
  refine ⟨⟨JsonCodec.read_write, JsonCodec.read_write, JsonCodec.read_write, JsonCodec.read_write,
    JsonCodec.read_write, JsonCodec.read_write, JsonCodec.read_write, JsonCodec.read_write,
    JsonCodec.read_write⟩, fun ws => ?_⟩
  -- after any writes the table holds the map of them, and both answers are read off that
  have hreflects : (written ws ⟨.empty, ledger⟩).Reflects (mapOf ws) := reflects_written ws rfl
  exact ⟨allSettings_of_reflects hreflects, deleteSettings_of_reflects hreflects⟩

end SwapBridge.Store
