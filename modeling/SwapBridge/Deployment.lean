/-
  SwapBridge.Deployment
  ─────────────────────
  **A RUNNING BRIDGE WITH ALL AROUND IT.**

  A deployment is the world that the bridge works on, the feed of events, the
  files its store is in, the currency of the platform and the source of new
  addresses.  Each operation of the bridge is a step of the deployment.
-/
import SwapBridge.Feed
import SwapBridge.Storage

namespace SwapBridge

structure Deployment where
  world : World
  feed : Feed := {}
  storage : Storage := {}
  /-- Where the store is. -/
  storePath : String
  currency : Currency := .bitcoin
  provisioner : PartialPayment.Provisioner := .chainSwap
  deriving DecidableEq, Repr

namespace Deployment

/-- A deployment with a healthy daemon, whose administrator presents `token`. -/
def start (daemon : Daemon) (token storePath : String) (files : FileTree) : Deployment where
  world :=
    { store := .empty
      pool := ⟨[daemon.address]⟩
      daemon
      health := .healthy ⟨daemon.address, token, none⟩
      platform := {} }
  storage := (({ files } : Storage).openAt storePath).2
  storePath

/-! ## §1. The store. -/

def store (d : Deployment) : Store := d.world.store

def withStore (d : Deployment) (store : Store) : Deployment :=
  { d with world := { d.world with store } }

/-- The path that a store is opened at: beside the present one. -/
def besideStore (d : Deployment) (path : String) : String :=
  Path.join (Path.parent d.storePath) path

/-- Opens the store again, or another one.  The present one stays on failure. -/
def reopen (d : Deployment) (path : String) : Except Storage.Failure Unit × Deployment :=
  let saved := d.storage.save (FileTree.locate d.storePath) d.store
  match saved.openAt path with
  | (.ok store, storage) => (.ok (), { d.withStore store with storage, storePath := path })
  | (.error failure, storage) => (.error failure, { d with storage })

/-- Writes a file next to those of the bridge. -/
def writeFile (d : Deployment) (path content : String) : Deployment :=
  { d with storage := d.storage.writeFile path content.toUTF8.toList }

/-! ## §2. The daemon. -/

/-- The daemon is healthy and its administrator presents a token. -/
def becomeHealthy (d : Deployment) (token : String) : Except Rpc.Error Deployment :=
  let (connection, pool) := d.world.pool.connect d.world.daemon.address token none
  connection.map fun c =>
    let (feed, world) := d.feed.subscribe { d.world with pool, health := .healthy c }
    { d with feed, world }

/-- The daemon is in some other state. -/
def leaveHealthy (d : Deployment) (state : Supervisor.State) : Deployment :=
  let (feed, world) := d.feed.subscribe { d.world with health := state }
  { d with feed, world }

/-- No further state of the daemon will be published. -/
def closeState (d : Deployment) : Deployment :=
  let (feed, world) := { d.feed with published := false }.subscribe d.world
  { d with feed, world }

/-- A connection from the pool. -/
def connect (d : Deployment) (address token : String) (tenant : Option UInt64) :
    Except Rpc.Error Rpc.Connection × Deployment :=
  let (c, pool) := d.world.pool.connect address token tenant
  (c, { d with world := { d.world with pool } })

/-- The connection that a store's settings describe. -/
def connectStore (d : Deployment) (settings : Settings) :
    Except Broker.Error Rpc.Connection × Deployment :=
  let (c, pool) := Broker.connect settings d.world.pool
  (c, { d with world := { d.world with pool } })

/-- A call to the daemon. -/
def call {α : Type} (d : Deployment) (f : Daemon → Except Rpc.Status α × Daemon) :
    Except Rpc.Error α × Deployment :=
  let (r, daemon) := f d.world.daemon
  (r.mapError .ofStatus, { d with world := { d.world with daemon } })

/-! ## §3. Credentials. -/

def ensureTenant (d : Deployment) (store : String) :
    Except Broker.Error Credential × Deployment :=
  let (r, daemon) := Broker.ensureTenant d.world.health store d.world.daemon
  (r, { d with world := { d.world with daemon } })

def enable (d : Deployment) (store : String) (mode : Mode) (wallet : Option WalletRef) :
    Except Broker.Error Settings × Deployment :=
  let (r, kept, daemon) := Broker.enable d.world.health store mode wallet d.store d.world.daemon
  (r, { d with world := { d.world with store := kept, daemon } })

def disable (d : Deployment) (store : String) : Deployment :=
  d.withStore (Broker.disable store d.store)

/-! ## §4. Events. -/

def swapEvent (d : Deployment) (e : Swap.Event) :
    Except Reconciler.Failure Reconciler.Outcome × Deployment :=
  let (r, world) := Reconciler.handle d.currency e d.world
  (r, { d with world })

def rotate (d : Deployment) (e : Swap.Event) :
    Except Rotation.Failure Rotation.Outcome × Deployment :=
  let (r, world) := Rotation.handle e d.world
  (r, { d with world })

def invoiceEvent (d : Deployment) (e : Invoice.Event) :
    Option PartialPayment.Outcome × Deployment :=
  let (r, world) := PartialPayment.handle d.provisioner e d.world
  (r, { d with world })

/-- Handles events from a channel that keeps the newest of them. -/
def invoiceEvents (d : Deployment) (capacity : Nat) (es : List Invoice.Event) : Deployment :=
  let kept := ({} : Mailbox Invoice.Event).add (Mailbox.roundUp capacity) es
  { d with world := PartialPayment.handleAll d.provisioner kept.items d.world }

/-! ## §5. The feed. -/

/-- Publishes events all at once; says how many receivers there were. -/
def publish (d : Deployment) (es : List Swap.Event) : Nat × Deployment :=
  let (feed, world) := d.feed.spread d.currency es d.world
  (d.feed.receivers, { d with feed, world })

def poll (d : Deployment) (withInvoices : Bool) : Except Poll.Failure Nat × Deployment :=
  let (r, feed, world) := d.feed.poll d.currency withInvoices d.world
  (r, { d with feed, world })

def startStream (d : Deployment) : Deployment :=
  let (feed, world) := d.feed.startStream d.world
  { d with feed, world }

def receive (d : Deployment) (rs : List Swap.Report) : Nat × Deployment :=
  let (n, feed, world) := d.feed.receive d.currency rs d.world
  (n, { d with feed, world })

def endStream (d : Deployment) : Deployment :=
  let (feed, world) := d.feed.endStream d.world
  { d with feed, world }

def stop (d : Deployment) : Nat × Deployment :=
  let (n, feed, world) := d.feed.stop d.world
  (n, { d with feed, world })

end Deployment

end SwapBridge
