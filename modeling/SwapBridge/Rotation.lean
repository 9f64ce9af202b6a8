/-
  SwapBridge.Rotation
  ───────────────────
  **A NEW ADDRESS FOR EVERY AUTOMATED SWAP.**

  Automated swaps pay out to an address in the daemon's configuration.  Once a
  swap uses it, a fresh address of the store's wallet takes its place.

    • `Rotation.Target` — the field that a kind of swap pays out to,
    • `Rotation.handle` — one event, from the configuration to its update.
-/
import SwapBridge.World

namespace SwapBridge.Rotation

inductive Failure where
  | findStore (fault : Store.Fault)
  | connection (e : Broker.Error)
  | getConfig (e : Rpc.Error)
  | freshAddress (store : String) (fault : Platform.Fault)
  | updateChain (e : Rpc.Error)
  | updateLightning (e : Rpc.Error)
  deriving DecidableEq, Repr

def Failure.layers : Failure → List String
  | .findStore fault => "find store for tenant" :: fault.layers
  | .connection e => e.layers
  | .getConfig e => "get autoswap config" :: e.layers
  | .freshAddress store fault => ["fresh address for store " ++ store, fault.message]
  | .updateChain e => "update autoswap chain config" :: e.layers
  | .updateLightning e => "update autoswap lightning config" :: e.layers

inductive Outcome where
  | notApplicable
  /-- The configured address is no longer that of the swap. -/
  | alreadyRotated
  | rotated (old new : String)
  deriving DecidableEq, Repr

/-- The field that automated swaps pay out to. -/
inductive Target where
  | chainToAddress
  | lightningStaticAddress
  deriving DecidableEq, Repr

namespace Target

def ofKind? : Swap.Kind → Option Target
  | .chain => some .chainToAddress
  | .reverse => some .lightningStaticAddress
  | .submarine => none

/-- The address in the field, if there is one. -/
def configured (t : Target) (a : Daemon.AutoswapConfig) : Option String :=
  match t with
  | .chainToAddress => a.chain.bind fun c => Swap.presentAddress c.toAddress
  | .lightningStaticAddress => a.lightning.bind fun l => Swap.presentAddress l.staticAddress

/-- Puts an address into the field and changes no other. -/
def replace (t : Target) (c : Rpc.Connection) (address : String) (d : Daemon) :
    Except Failure Unit × Daemon :=
  match t with
  | .chainToAddress =>
    match d.updateChainConfig c { toAddress := address } [Daemon.toAddressPath] with
    | (.ok _, d) => (.ok (), d)
    | (.error s, d) => (.error (.updateChain (.ofStatus s)), d)
  | .lightningStaticAddress =>
    match d.updateLightningConfig c { staticAddress := address } [Daemon.staticAddressPath] with
    | (.ok _, d) => (.ok (), d)
    | (.error s, d) => (.error (.updateLightning (.ofStatus s)), d)

end Target

/-- The field and the address that an event says is used up. -/
def used (e : Swap.Event) : Option (Target × String) :=
  if e.automated && e.status == Swap.statusCreated then
    match Target.ofKind? e.kind, e.destination with
    | some t, some address => some (t, address)
    | _, _ => none
  else none

/-- Draws an address and puts it into the field. -/
def renew (t : Target) (old store : String) (kind : Swap.Kind) (c : Rpc.Connection) (w : World) :
    Except Failure Outcome × World :=
  match w.platform.freshAddress store kind with
  | .error fault => (.error (.freshAddress store fault), w)
  | .ok (new, platform) =>
    -- the address is drawn and stays drawn, even if the update fails
    match t.replace c new w.daemon with
    | (.error f, daemon) => (.error f, { w with platform, daemon })
    | (.ok (), daemon) => (.ok (.rotated old new), { w with platform, daemon })

/-- Compares the configured address with the used one. -/
def compare (t : Target) (old store : String) (kind : Swap.Kind) (c : Rpc.Connection) (w : World) :
    Except Failure Outcome × World :=
  match w.daemon.getConfig c with
  | (.error s, daemon) =>
    let e := Rpc.Error.ofStatus s
    let w := { w with daemon }
    if e.isBenign then (.ok .notApplicable, w) else (.error (.getConfig e), w)
  | (.ok config, daemon) =>
    let w := { w with daemon }
    match t.configured config with
    | none => (.ok .notApplicable, w)
    | some address =>
      if address = old then renew t old store kind c w else (.ok .alreadyRotated, w)

/-- Handles one event. -/
def handle (e : Swap.Event) (w : World) : Except Failure Outcome × World :=
  match used e with
  | none => (.ok .notApplicable, w)
  | some (t, old) =>
    match w.store.ofTenant e.tenantId with
    | .error fault => (.error (.findStore fault), w)
    | .ok none => (.ok .notApplicable, w)
    | .ok (some (store, settings)) =>
      match Broker.connect settings w.pool with
      | (.error err, pool) => (.error (.connection err), { w with pool })
      | (.ok c, pool) => compare t old store e.kind c { w with pool }

end SwapBridge.Rotation
