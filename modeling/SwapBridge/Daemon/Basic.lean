/-
  SwapBridge.Daemon.Basic
  ───────────────────────
  **A DAEMON IN MEMORY.**

  The daemon has tables of tenants, swaps and wallets, a configuration for
  automatic swaps, and for each method a queue of faults.  Every call is
  logged, then the head of the method's queue decides whether it is served.

    • `Daemon.accept` — the log and the faults, the same for all methods,
    • `getTenant`, `createTenant`, … — what a served call answers and changes.
-/
import SwapBridge.Daemon.Message
import SwapBridge.Rpc.Connection
import SwapBridge.Rpc.HostName
import SwapBridge.Table
import SwapBridge.Text.Hex

namespace SwapBridge

structure Daemon where
  /-- Where the daemon answers calls. -/
  address : String
  /-- What happens to the next calls of a method; nothing stands for no fault. -/
  faults : List (Daemon.Method × List (Option Rpc.Status)) := []
  tenants : Table UInt64 := .empty
  info : Daemon.Info := {}
  swaps : Swap.Listing := {}
  wallets : List Daemon.Wallet := []
  autoswap : Option Daemon.AutoswapConfig := none
  status : Daemon.AutoswapStatus := {}
  recommendations : Daemon.Recommendations := {}
  /-- Prepared answers to requests for chain swaps. -/
  chainReplies : List Swap.ChainInfo := []
  /-- How many chain swaps were made. -/
  chainSwaps : Nat := 0
  /-- How many macaroons were baked. -/
  macaroons : Nat := 0
  /-- How many streams of swap updates are open. -/
  subscribers : Nat := 0
  calls : List Daemon.Call := []
  deriving DecidableEq, Repr

namespace Daemon

/-! ## §1. Calls and faults. -/

/-- The queue of a method without its head, and the head. -/
def takeFault (m : Method) :
    List (Method × List (Option Rpc.Status)) →
      Option Rpc.Status × List (Method × List (Option Rpc.Status))
  | [] => (none, [])
  | (k, queue) :: rest =>
    if k = m then (queue.head?.join, (k, queue.tail) :: rest)
    else let (fault, rest) := takeFault m rest; (fault, (k, queue) :: rest)

/-- Whether an address leads to this daemon. -/
def answersAt (d : Daemon) (address : String) : Bool :=
  address == d.address ||
    (match Rpc.Address.target? address, Rpc.Address.target? d.address with
      | some a, some b => a == b
      | _, _ => false)

/-- What a call hears from an address where nobody answers: there is nothing to
connect to, or nobody knows the host, or the host does not answer. -/
def unreachable (address : String) : Rpc.Status :=
  match Rpc.Address.target? address with
  | none => ⟨.unknown, "transport error"⟩
  | some authority =>
    if Rpc.HostName.isKnown (Rpc.HostName.ofAuthority authority) then
      ⟨.unavailable, "tcp connect error"⟩
    else ⟨.unavailable, "dns error"⟩

/-- What a call hears whose headers are too large. -/
def oversized : Rpc.Status :=
  ⟨.unknown, "grpc-status header missing, mapped from HTTP status code 431"⟩

/-- A faulted call whose status is received with the code `Ok` hears of success
without an answer. -/
def asHeard (s : Rpc.Status) : Rpc.Status :=
  let s := s.received
  if s.code = .ok then ⟨.internal, "Missing response message."⟩ else s

/-- Logs a call and lets it through unless its fault is due. -/
def accept (c : Rpc.Connection) (r : Request) (d : Daemon) : Except Rpc.Status Unit × Daemon :=
  if !d.answersAt c.address then (.error (unreachable c.address), d)
  else if c.isOversized then (.error oversized, d)
  else
    let (fault, faults) := takeFault r.method d.faults
    let d := { d with
      faults, calls := d.calls ++ [⟨c.token, Rpc.tenantHeader c.tenant, r⟩] }
    match fault with
    | some s => (.error (asHeard s), d)
    | none => (.ok (), d)

/-- A call that serves a request by `f` once it is accepted. -/
def serve {α : Type} (c : Rpc.Connection) (r : Request)
    (f : Daemon → Except Rpc.Status α × Daemon) (d : Daemon) : Except Rpc.Status α × Daemon :=
  match d.accept c r with
  | (.error s, d) => (.error s, d)
  | (.ok (), d) =>
    let (answer, d) := f d
    (answer.mapError asHeard, d)

/-- A call that changes nothing. -/
def read {α : Type} (c : Rpc.Connection) (r : Request) (f : Daemon → Except Rpc.Status α) :
    Daemon → Except Rpc.Status α × Daemon :=
  serve c r fun d => (f d, d)

/-! ## §2. Swaps and wallets. -/

def getInfo (c : Rpc.Connection) : Daemon → Except Rpc.Status Info × Daemon :=
  read c .getInfo fun d => .ok d.info

/-- A tenant sees its own swaps, the administrator all of them. -/
def listSwaps (c : Rpc.Connection) : Daemon → Except Rpc.Status Swap.Listing × Daemon :=
  read c .listSwaps fun d => .ok <|
    match c.tenant with
    | none => d.swaps
    | some tenant => d.swaps.ofTenant tenant

/-- The swaps of an id.  The id `empty` is known and has none. -/
def getSwapInfo (c : Rpc.Connection) (id : String) :
    Daemon → Except Rpc.Status Swap.Report × Daemon :=
  read c (.getSwapInfo id) fun d =>
    let found := d.swaps.find id
    if id = "empty" then .ok {}
    else if found = {} then .error ⟨.notFound, "swap " ++ id ++ " not found"⟩
    else .ok found

/-- Opens a stream of updates of all swaps. -/
def getSwapInfoStream (c : Rpc.Connection) : Daemon → Except Rpc.Status Unit × Daemon :=
  serve c (.getSwapInfoStream "") fun d => (.ok (), { d with subscribers := d.subscribers + 1 })

/-- The answer to the `n`th request for a chain swap, where none was prepared. -/
def newChainSwap (n : Nat) (r : ChainSwapRequest) : Swap.ChainInfo where
  id := "chain-" ++ Decimal.write n
  status := Swap.statusCreated
  source := some { amount := r.amount.getD 0, lockupAddress := "lockup-" ++ Decimal.write n }

def createChainSwap (c : Rpc.Connection) (r : ChainSwapRequest) :
    Daemon → Except Rpc.Status Swap.ChainInfo × Daemon :=
  serve c (.createChainSwap r) fun d =>
    let n := d.chainSwaps + 1
    match d.chainReplies with
    | reply :: rest => (.ok reply, { d with chainSwaps := n, chainReplies := rest })
    | [] => (.ok (newChainSwap n r), { d with chainSwaps := n })

def getWallets (c : Rpc.Connection) : Daemon → Except Rpc.Status (List Wallet) × Daemon :=
  read c .getWallets fun d => .ok d.wallets

/-! ## §3. Tenants and macaroons. -/

def getTenant (c : Rpc.Connection) (name : String) : Daemon → Except Rpc.Status Tenant × Daemon :=
  read c (.getTenant name) fun d =>
    match d.tenants.get? name with
    | some id => .ok ⟨id, name⟩
    | none => .error ⟨.notFound, "tenant not found"⟩

/-- The id of the next tenant; one is the administrator's. -/
def nextTenantId (d : Daemon) : UInt64 := UInt64.ofNat (d.tenants.size + 2)

def createTenant (c : Rpc.Connection) (name : String) :
    Daemon → Except Rpc.Status Tenant × Daemon :=
  serve c (.createTenant name) fun d =>
    if d.tenants.contains name then (.error ⟨.alreadyExists, "tenant " ++ name ++ " exists"⟩, d)
    else
      (.ok ⟨d.nextTenantId, name⟩, { d with tenants := d.tenants.insert name d.nextTenantId })

/-- The text of the `n`th macaroon, before it is written in hexadecimal. -/
def macaroonText (tenant : UInt64) (n : Nat) : String :=
  "tenant-" ++ Decimal.write tenant.toNat ++ "-" ++ Decimal.write n

def bakeMacaroon (c : Rpc.Connection) (tenant : UInt64) (actions : List Action) :
    Daemon → Except Rpc.Status String × Daemon :=
  serve c (.bakeMacaroon tenant actions) fun d =>
    let n := d.macaroons + 1
    (.ok (Hex.ofString (macaroonText tenant n)), { d with macaroons := n })

def stop (c : Rpc.Connection) : Daemon → Except Rpc.Status Unit × Daemon :=
  read c .stop fun _ => .ok ()

/-! ## §4. Automatic swaps. -/

def getConfig (c : Rpc.Connection) : Daemon → Except Rpc.Status AutoswapConfig × Daemon :=
  read c .getConfig fun d =>
    match d.autoswap with
    | some config => .ok config
    | none => .error ⟨.notFound, "autoswap not configured"⟩

def getStatus (c : Rpc.Connection) : Daemon → Except Rpc.Status AutoswapStatus × Daemon :=
  read c .getStatus fun d => .ok d.status

def getRecommendations (c : Rpc.Connection) :
    Daemon → Except Rpc.Status Recommendations × Daemon :=
  read c .getRecommendations fun d => .ok d.recommendations

/-- The name of the chain field that an update may set. -/
def toAddressPath : String := "to_address"

/-- The name of the lightning field that an update may set. -/
def staticAddressPath : String := "static_address"

/-- The configuration after an update of its chain section.  The section is
there from then on, and only the address is ever taken over. -/
def AutoswapConfig.patchChain (a : AutoswapConfig) (config : ChainConfig) (paths : List String) :
    AutoswapConfig :=
  let chain := a.chain.getD {}
  { a with chain := some <|
      if paths.contains toAddressPath then { chain with toAddress := config.toAddress } else chain }

/-- The same for the lightning section. -/
def AutoswapConfig.patchLightning (a : AutoswapConfig) (config : LightningConfig)
    (paths : List String) : AutoswapConfig :=
  let lightning := a.lightning.getD {}
  { a with lightning := some <|
      if paths.contains staticAddressPath then
        { lightning with staticAddress := config.staticAddress }
      else lightning }

def updateChainConfig (c : Rpc.Connection) (config : ChainConfig) (paths : List String) :
    Daemon → Except Rpc.Status AutoswapConfig × Daemon :=
  serve c (.updateChainConfig config paths) fun d =>
    let updated := (d.autoswap.getD {}).patchChain config paths
    (.ok updated, { d with autoswap := some updated })

def updateLightningConfig (c : Rpc.Connection) (config : LightningConfig) (paths : List String) :
    Daemon → Except Rpc.Status AutoswapConfig × Daemon :=
  serve c (.updateLightningConfig config paths) fun d =>
    let updated := (d.autoswap.getD {}).patchLightning config paths
    (.ok updated, { d with autoswap := some updated })

end Daemon

end SwapBridge
