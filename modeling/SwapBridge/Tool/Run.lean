/-
  SwapBridge.Tool.Run
  ───────────────────
  **THE ADMINISTRATOR'S TOOL.**

  One run reads the administrator's macaroon, connects to the daemon, opens
  the store file and carries out one command.  A failure is reported with what
  was being done.
-/
import SwapBridge.Broker
import SwapBridge.Storage
import SwapBridge.Supervisor.Config
import SwapBridge.Tool.Answer
import SwapBridge.Tool.Command

namespace SwapBridge.Tool

/-! ## §1. A session. -/

/-- What a command works with. -/
structure Session where
  admin : Rpc.Connection
  pool : Rpc.Pool
  store : Store
  daemon : Daemon

/-- Work that may fail with a report in layers. -/
abbrev Work := ExceptT (List String) (StateM Session)

/-- A call to the daemon. -/
def call {α : Type} (f : Daemon → Except Rpc.Status α × Daemon) : Work (Except Rpc.Error α) := do
  let s ← get
  let (r, daemon) := f s.daemon
  set { s with daemon }
  return r.mapError .ofStatus

/-- A call that fails under its name. -/
def ask {α : Type} (method : Daemon.Method) (f : Daemon → Except Rpc.Status α × Daemon) :
    Work α := do
  match ← call f with
  | .ok a => return a
  | .error e => throw (method.name :: e.layers)

/-- The connection of a store's tenant, or the administrator's without a store. -/
def connection : Option String → Work Rpc.Connection
  | none => return (← get).admin
  | some id => do
    let s ← get
    match s.store.settingsOf id with
    | .error fault => throw fault.layers
    | .ok none => throw ["boltz is not enabled for store " ++ id]
    | .ok (some settings) =>
      let (c, pool) := Broker.connect settings s.pool
      set { s with pool }
      match c with
      | .ok c => return c
      | .error e => throw e.layers

/-! ## §2. Commands. -/

/-- Enables a store and keeps its settings. -/
def enable (store : String) (mode : Mode) (wallet : Option WalletRef) : Work Settings := do
  let s ← get
  let (r, kept, daemon) := Broker.enable (.healthy s.admin) store mode wallet s.store s.daemon
  set { s with store := kept, daemon }
  match r with
  | .ok settings => return settings
  | .error e => throw ("enable store" :: e.layers)

/-- The configuration of automatic swaps; that there is none is an answer. -/
def askForConfig (c : Rpc.Connection) (store : String) : Work Json := do
  match ← call (·.getConfig c) with
  | .ok config => return configAnswer store config
  | .error e =>
    if e.isBenign then return unconfiguredAnswer store
    else throw (Daemon.Method.getConfig.name :: e.layers)

def Command.run : Command → Work Json
  | .info => do
    let c ← connection none
    return infoAnswer (← ask .getInfo (·.getInfo c))
  | .swaps store => do
    let c ← connection store
    return swapsAnswer (Swap.Event.ofListing (← ask .listSwaps (·.listSwaps c)))
  | .onboard store mode wallet => return onboardAnswer store (← enable store mode wallet)
  | .disable store => do
    modify fun s => { s with store := Broker.disable store s.store }
    return disableAnswer store
  | .swap id store => do
    let c ← connection store
    match Swap.Event.ofReport? (← ask .getSwapInfo (·.getSwapInfo c id)) with
    | some e => return swapAnswer e
    | none => throw ["daemon returned no swap for " ++ id]
  | .wallets store => do
    let c ← connection store
    return walletsAnswer (← ask .getWallets (·.getWallets c))
  | .autoswapConfig store => do askForConfig (← connection (some store)) store
  | .autoswapStatus store => do
    let c ← connection (some store)
    return statusAnswer store (← ask .getStatus (·.getStatus c))
  | .recommendations store => do
    let c ← connection (some store)
    return recommendationsAnswer store (← ask .getRecommendations (·.getRecommendations c))

/-! ## §3. Runs. -/

/-- What is there before and after a run. -/
structure Site where
  storage : Storage := {}
  daemon : Daemon

inductive Outcome where
  | printed (answer : Json)
  | failed (layers : List String)
  | refused (r : CommandLine.Refusal)

/-- The administrator's token: the macaroon in the data directory. -/
def adminToken (dataDir : String) (files : FileTree) : Except (List String) String :=
  let path := adminMacaroonPath dataDir
  match files.read (FileTree.locate path) with
  | .ok bytes => .ok (Hex.ofBytes bytes)
  | .error fault => .error ["read admin macaroon " ++ path, fault.message]

/-- The administrator's connection that an invocation asks for. -/
def Invocation.connect (i : Invocation) (s : Site) :
    Except (List String) (Rpc.Connection × Rpc.Pool) := do
  let token ← adminToken i.dataDir s.storage.files
  let (c, pool) := ({} : Rpc.Pool).connect i.address token none
  let admin ← c.mapError fun e => "connect to boltzd" :: e.layers
  return (admin, pool)

/-- Carries out a command with a store that is open; it is closed at the end. -/
def Invocation.work (i : Invocation) (session : Session) (storage : Storage) : Outcome × Site :=
  let (r, session) := i.command.run.run.run session
  let site : Site :=
    { storage := (storage.save (FileTree.locate i.storePath) session.store).close,
      daemon := session.daemon }
  match r with
  | .ok answer => (.printed answer, site)
  | .error layers => (.failed layers, site)

def Invocation.run (i : Invocation) (s : Site) : Outcome × Site :=
  match i.connect s with
  | .error layers => (.failed layers, s)
  | .ok (admin, pool) =>
    match s.storage.openAt i.storePath with
    | (.error f, storage) => (.failed ("open sqlite store" :: f.layers), { s with storage })
    | (.ok store, storage) => i.work { admin, pool, store, daemon := s.daemon } storage

/-- A run for the words behind the name of the tool. -/
def run (words : List String) (s : Site) : Outcome × Site :=
  match Invocation.read words with
  | .ok i => i.run s
  | .error r => (.refused r, s)

end SwapBridge.Tool
