/-
  SwapBridge.Proofs.Sample
  ────────────────────────
  **A SMALL SHOP.**

  One store, its invoices and the swaps that pay them: the inputs at which
  general statements are shown to have something to say.
-/
import Mathlib.Control.Monad.Basic
import SwapBridge.Proofs.Store
import SwapBridge.World

namespace SwapBridge.Sample

/-- A new invoice of the shop that shows one swap address. -/
def invoice (id address : String) : Invoice where
  id := id
  store := "shop"
  status := .new
  exception := .none
  due := 4000
  prompts := [⟨boltzMethod, some address, true⟩]

/-- The lockup of a chain swap, waiting for its first block. -/
def lockup (swap address tx : String) : Swap.Event where
  id := swap
  kind := .chain
  status := Swap.statusMempool
  state := .pending
  automated := false
  tenantId := 2
  lockupAddress := some address
  claimAddress := none
  toAddress := none
  lockupTx := some tx
  refundTx := none
  refundAddress := none
  amount := 10000

theorem lockup_amount_lt : 10000 < Nat.pow 2 128 := by decide

theorem satDecimals_le : satDecimals ≤ maxDivisibility := by decide

/-- Invoices by their ids. -/
def invoices (is : List Invoice) : Table Invoice := .ofList (is.map fun i => (i.id, i))

/-- A bridge that has seen nothing yet. -/
def world : World where
  store := .empty
  pool := {}
  daemon := { address := "http://localhost:9002" }
  health := .idle
  platform := {}

/-- The settings of the shop: a tenant of its own and a wallet to receive into. -/
def settings : Settings where
  mode := .standalone
  address := "http://localhost:9002"
  credential := ⟨2, "aa", .readWrite⟩
  wallet := some ⟨20, "liquid"⟩

/-- A store file with the settings of the shop. -/
def store : Store := Store.empty.putSettings "shop" settings

/-- The `store` of the sample holds the settings of the shop and no others. -/
theorem allSettings_store : store.allSettings = .ok [("shop", settings)] :=
  Store.mapM_decodeSettings [("shop", settings)]

theorem settingsOf_store : store.settingsOf "shop" = .ok (some settings) := by
  unfold Store.settingsOf
  rw [allSettings_store]
  rfl

/-- The shop is found by its tenant, as `Store.ofTenant` looks for it. -/
theorem ofTenant_store : store.ofTenant 2 = .ok (some ("shop", settings)) := by
  unfold Store.ofTenant
  rw [allSettings_store]
  rfl

/-- The swap of an invoice as it is listed after its coins were claimed. -/
def claimed : Swap.ChainInfo where
  id := "swap-1"
  status := "transaction.claimed"
  state := .successful
  tenantId := 2
  source := some { amount := 10000, lockupAddress := "A", lockupTx := some "tx-1" }

/-- A bridge for the shop, whose platform has one invoice. -/
def shop (i : Invoice) : World :=
  { world with
    store := store
    platform := ({} : Platform).putInvoice i }

end SwapBridge.Sample
