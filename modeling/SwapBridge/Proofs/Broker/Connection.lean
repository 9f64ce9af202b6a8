/-
  SwapBridge.Proofs.Broker.Connection
  ───────────────────────────────────
  **CONNECTIONS OF STORES.**

  A connection carries the credential of the settings it is built from, though
  the channel behind it is shared.  Whether it can be built is a matter of
  these settings alone: channels that were opened for other stores open no way
  that was closed.

    • `eq_of_connect` — a connection is what was asked for,
    • `own` — the connection that settings describe,
    • `connect_eq` — it is built exactly if token and address can be used,
    • `connects_connect` — whatever was connected before.
-/
import Mathlib.Control.Monad.Basic
import SwapBridge.Broker

namespace SwapBridge

namespace Rpc.Pool

/-- A connection is what was asked for, whatever was connected before. -/
theorem eq_of_connect {p : Pool} {address token : String} {tenant : Option UInt64}
    {c : Connection} (h : (p.connect address token tenant).1 = .ok c) :
    c = ⟨address, token, tenant⟩ := by
  have hbuilt : ∀ c, (if isSendable token then .ok ⟨address, token, tenant⟩
      else .error .invalidCredential : Except Error Connection) = .ok c →
      c = ⟨address, token, tenant⟩ := by
    intro c hc
    -- a cached channel and a new one are built of the same parts
    split at hc
    · cases hc
      rfl
    · cases hc
  unfold connect at h
  dsimp only at h
  split at h
  · exact hbuilt c h
  · cases hcheck : Address.check address with
    | error fault =>
      rw [hcheck] at h
      cases h
    | ok u =>
      rw [hcheck] at h
      exact hbuilt c h

/-- A connection is for the tenant that it was asked for. -/
theorem tenant_connect {p : Pool} {address token : String} {tenant : Option UInt64}
    {c : Connection} (h : (p.connect address token tenant).1 = .ok c) : c.tenant = tenant := by
  rw [eq_of_connect h]

end Rpc.Pool

namespace Broker

variable {s s' : Settings} {pool : Rpc.Pool} {c : Rpc.Connection}

/-- The connection that settings describe. -/
def own (s : Settings) : Rpc.Connection :=
  ⟨s.address, s.credential.token, tenantHeader s.credential⟩

/-- A channel to an address is there, or it can be made. -/
def HasChannel (address : String) (pool : Rpc.Pool) : Prop :=
  address ∈ pool.channels ∨ Rpc.Address.check address = .ok ()

/-- A connection can be built: there is a channel, and the token can be sent. -/
def Connects (s : Settings) (pool : Rpc.Pool) : Prop :=
  HasChannel s.address pool ∧ Rpc.isSendable s.credential.token = true

instance (address : String) (pool : Rpc.Pool) : Decidable (HasChannel address pool) :=
  inferInstanceAs (Decidable (_ ∨ _))

instance (s : Settings) (pool : Rpc.Pool) : Decidable (Connects s pool) :=
  inferInstanceAs (Decidable (_ ∧ _))

/-- The pool after a connection: a new channel is for an address that can be used. -/
theorem connect_pool (s : Settings) (pool : Rpc.Pool) :
    (connect s pool).2 = pool
      ∨ Rpc.Address.check s.address = .ok ()
        ∧ (connect s pool).2 = ⟨s.address :: pool.channels⟩ := by
  unfold connect Rpc.Pool.connect
  dsimp only
  split
  · exact .inl rfl
  · cases hcheck : Rpc.Address.check s.address with
    | error fault => exact .inl rfl
    | ok u => exact .inr ⟨rfl, rfl⟩

/-- A store that `Connects` gets the connection that its settings describe. -/
theorem connect_of_connects (h : Connects s pool) : (connect s pool).1 = .ok (own s) := by
  obtain ⟨hchannel, hsend⟩ := h
  unfold connect Rpc.Pool.connect
  simp only [hsend, if_true]
  split
  · rfl
  · rename_i hmem
    rw [hchannel.resolve_left fun h => hmem (List.contains_iff_mem.2 h)]
    rfl

/-- A store that does not gets an error, from its address or from its token. -/
theorem connect_of_not_connects (h : ¬ Connects s pool) : ∃ e, (connect s pool).1 = .error e := by
  unfold connect Rpc.Pool.connect
  by_cases hsend : Rpc.isSendable s.credential.token = true
  · have hchannel : ¬ HasChannel s.address pool := fun hc => h ⟨hc, hsend⟩
    dsimp only
    rw [if_neg fun hmem => hchannel (.inl (List.contains_iff_mem.1 hmem))]
    cases hcheck : Rpc.Address.check s.address with
    | error fault => exact ⟨_, rfl⟩
    | ok u => exact absurd (.inr hcheck) hchannel
  · -- the channel is kept, but nothing is connected
    simp only [hsend]
    split
    · exact ⟨_, rfl⟩
    · cases Rpc.Address.check s.address <;> exact ⟨_, rfl⟩

/-- **A connection is built exactly if token and address can be used**, and it
is the one that the settings describe. -/
theorem connect_eq (s : Settings) (pool : Rpc.Pool) :
    (connect s pool).1.toOption = if Connects s pool then some (own s) else none := by
  split
  · rename_i h
    rw [connect_of_connects h]
    rfl
  · rename_i h
    obtain ⟨e, he⟩ := connect_of_not_connects h
    rw [he]
    rfl

/-- Whatever the pool holds, a connection is the store's `own`. -/
theorem connect_eq_ok (h : (connect s pool).1 = .ok c) : c = own s := by
  have heq := connect_eq s pool
  rw [h] at heq
  split at heq
  · exact Option.some.inj heq
  · cases heq

/-- **What was connected before decides nothing.** -/
theorem connects_connect : Connects s (connect s' pool).2 ↔ Connects s pool := by
  rcases connect_pool s' pool with h | ⟨hcheck, h⟩
  · rw [h]
  · rw [h]
    unfold Connects HasChannel
    refine and_congr_left fun _ => ⟨?_, ?_⟩
    · rintro (hmem | hok)
      · rcases List.mem_cons.1 hmem with heq | hmem
        · exact .inr (heq ▸ hcheck)
        · exact .inl hmem
      · exact .inr hok
    · exact Or.imp_left (List.mem_cons_of_mem _)

end Broker

end SwapBridge
