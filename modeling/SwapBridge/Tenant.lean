/-
  SwapBridge.Tenant
  ─────────────────
  **TENANTS OF THE DAEMON.**

  Each store is a tenant of the daemon, under a name made from the store's id.
-/

namespace SwapBridge

structure Tenant where
  id : UInt64
  name : String
  deriving DecidableEq, Repr

/-- The name of a store's tenant. -/
def tenantName (store : String) : String := "store-" ++ store

/-- Different stores have tenants of different names. -/
theorem tenantName_inj {a b : String} : tenantName a = tenantName b ↔ a = b := by
  refine ⟨fun h => ?_, fun h => h ▸ rfl⟩
  have h := congrArg String.toList h
  simp only [tenantName, String.toList_append, List.append_cancel_left_eq] at h
  exact String.toList_inj.1 h

end SwapBridge
