/-
  SwapBridge.Broker
  ─────────────────
  **CREDENTIALS FOR STORES.**

  The broker uses the administrator's connection to make a tenant for each
  store and a macaroon for each tenant.  One store at most may hold the
  administrator's own credential.

    • `Broker.ensureTenant` — finds or makes a store's tenant and bakes a macaroon,
    • `Broker.connect` — the connection that a store's settings describe,
    • `Broker.enable`, `Broker.disable` — changes the settings of a store.
-/
import SwapBridge.Daemon.Basic
import SwapBridge.Report
import SwapBridge.Store
import SwapBridge.Supervisor.State

namespace SwapBridge.Broker

inductive Error where
  /-- No daemon is healthy. -/
  | unavailable
  | rebalanceInUse (holder : String)
  | rpc (e : Rpc.Error)
  | settings (fault : Store.Fault)
  deriving DecidableEq, Repr

def Error.message : Error → String
  | .unavailable => "Boltz daemon is not available"
  | .rebalanceInUse holder => "rebalance mode is already used by store " ++ holder
  | .rpc e => "Error connecting to Boltz: " ++ e.message
  | .settings fault => "settings store: " ++ Report.line fault.layers

/-- The error and its causes; the cause of a failed call is shown twice. -/
def Error.layers (e : Error) : List String :=
  e.message :: match e with
    | .rpc e => e.layers
    | _ => []

def admin (health : Supervisor.State) : Except Error Rpc.Connection :=
  match health.admin? with
  | some c => .ok c
  | none => .error .unavailable

/-! ## §1. Tenants. -/

/-- What a bad answer means to the broker. -/
def failed (s : Rpc.Status) : Error := .rpc (.ofStatus s)

/-- Looks up a tenant; one that is not known is no failure. -/
def findTenant (c : Rpc.Connection) (name : String) (d : Daemon) :
    Except Rpc.Error (Option Tenant) × Daemon :=
  match d.getTenant c name with
  | (.ok t, d) => (.ok (some t), d)
  | (.error s, d) =>
    let e := Rpc.Error.ofStatus s
    if e.isNotFound then (.ok none, d) else (.error e, d)

/-- Makes a tenant.  If it turns out to be there already, it is looked up
again; should it be gone by then, the first answer stands. -/
def makeTenant (c : Rpc.Connection) (name : String) (d : Daemon) :
    Except Error Tenant × Daemon :=
  match d.createTenant c name with
  | (.ok t, d) => (.ok t, d)
  | (.error s, d) =>
    let e := Rpc.Error.ofStatus s
    if e.isAlreadyExists then
      match findTenant c name d with
      | (.ok (some t), d) => (.ok t, d)
      | (.ok none, d) => (.error (.rpc e), d)
      | (.error e, d) => (.error (.rpc e), d)
    else (.error (.rpc e), d)

/-- The tenant of a store, made where it is missing. -/
def tenantOf (c : Rpc.Connection) (store : String) (d : Daemon) : Except Error Tenant × Daemon :=
  match findTenant c (tenantName store) d with
  | (.ok (some t), d) => (.ok t, d)
  | (.ok none, d) => makeTenant c (tenantName store) d
  | (.error e, d) => (.error (.rpc e), d)

/-- A credential for a store's tenant, with a macaroon baked for it. -/
def ensureTenant (health : Supervisor.State) (store : String) (d : Daemon) :
    Except Error Credential × Daemon :=
  match admin health with
  | .error e => (.error e, d)
  | .ok c =>
    match tenantOf c store d with
    | (.error e, d) => (.error e, d)
    | (.ok t, d) =>
      match d.bakeMacaroon c t.id [.read, .write] with
      | (.error s, d) => (.error (failed s), d)
      | (.ok token, d) => (.ok ⟨t.id, token, .readWrite⟩, d)

/-- The administrator's own credential. -/
def adminCredential (health : Supervisor.State) : Except Error Credential :=
  (admin health).map fun c => ⟨adminTenant, c.token, .readWrite⟩

/-! ## §2. Connections. -/

/-- The tenant that calls are made for; none for the administrator. -/
def tenantHeader (c : Credential) : Option UInt64 := if c.isAdmin then none else some c.tenantId

def connect (s : Settings) (pool : Rpc.Pool) : Except Error Rpc.Connection × Rpc.Pool :=
  let (connection, pool) := pool.connect s.address s.credential.token (tenantHeader s.credential)
  (connection.mapError .rpc, pool)

/-! ## §3. Settings. -/

/-- The credential for a store in a mode.  A store that balances channels
gets the administrator's, unless another store has it. -/
def credentialFor (health : Supervisor.State) (id : String) (mode : Mode) (store : Store)
    (d : Daemon) : Except Error Credential × Daemon :=
  match mode with
  | .standalone => ensureTenant health id d
  | .rebalance =>
    match store.rebalanceStore with
    | .error fault => (.error (.settings fault), d)
    | .ok holder =>
      -- the store that has the mode already may take it again
      if holder.any (· != id) then (.error (.rebalanceInUse (holder.getD "")), d)
      else (adminCredential health, d)

/-- Issues a credential for a store and keeps its settings. -/
def enable (health : Supervisor.State) (id : String) (mode : Mode) (wallet : Option WalletRef)
    (store : Store) (d : Daemon) : Except Error Settings × Store × Daemon :=
  match admin health with
  | .error e => (.error e, store, d)
  | .ok c =>
    match credentialFor health id mode store d with
    | (.error e, d) => (.error e, store, d)
    | (.ok credential, d) =>
      let settings : Settings := ⟨mode, c.address, credential, wallet⟩
      (.ok settings, store.putSettings id settings, d)

/-- Forgets the settings of a store. -/
def disable (id : String) (store : Store) : Store := (store.deleteSettings id).2

end SwapBridge.Broker
