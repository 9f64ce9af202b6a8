/-
  SwapBridge.PartialPayment
  ─────────────────────────
  **INVOICES THAT WERE PAID IN PART.**

  When part of an invoice is paid, its swap address is used up.  A new chain
  swap over the rest gives a new address for the prompt.  Where that fails the
  prompt is switched off, and an invoice with no other method becomes invalid.

    • `PartialPayment.provision` — the chain swap and its lockup address,
    • `PartialPayment.handle` — one event of an invoice,
    • `PartialPayment.handleAll` — several events side by side,
    • `PartialPayment.abandon` — what is left when provisioning fails.
-/
import SwapBridge.World

namespace SwapBridge.PartialPayment

/-! ## §1. Provisioning. -/

inductive Failure where
  | settings (fault : Store.Fault)
  | notEnabled (store : String)
  | noWallet
  | connection (e : Broker.Error)
  | swap (e : Rpc.Error)
  /-- The daemon made a swap without an address to pay to. -/
  | noAddress
  /-- A reason given from outside. -/
  | refused (message : String)
  /-- The platform would not show the new address. -/
  | prompt (fault : Platform.Fault)
  deriving DecidableEq, Repr

def Failure.layers : Failure → List String
  | .settings fault => fault.layers
  | .notEnabled store => ["boltz is not enabled for store " ++ store]
  | .noWallet => ["store has no standalone wallet"]
  | .connection e => e.layers
  | .swap e => "create chain swap" :: e.layers
  | .noAddress => ["chain swap has no lockup address"]
  | .refused message => [message]
  | .prompt fault => [fault.message]

/-- Bitcoin in, Liquid bitcoin out, paid by the customer. -/
def swapRequest (due : UInt64) (wallet : WalletRef) : Daemon.ChainSwapRequest where
  amount := some due
  pair := some ⟨.bitcoin, .liquid⟩
  toWalletId := some wallet.id
  externalPay := true

/-- Where the customer has to pay to. -/
def lockupAddress (s : Swap.ChainInfo) : Option String :=
  s.source.bind fun side => Swap.presentAddress side.lockupAddress

/-- The settings and the wallet that a swap for a store is made with. -/
def walletOf (store : String) (s : Store) : Except Failure (Settings × WalletRef) :=
  match s.settingsOf store with
  | .error fault => .error (.settings fault)
  | .ok none => .error (.notEnabled store)
  | .ok (some settings) =>
    match settings.wallet with
    | none => .error .noWallet
    | some wallet => .ok (settings, wallet)

/-- A chain swap that is about to be asked for. -/
structure Order where
  connection : Rpc.Connection
  request : Daemon.ChainSwapRequest
  deriving DecidableEq, Repr

/-- All that comes before the daemon is asked. -/
def prepare (i : Invoice) (w : World) : Except Failure Order × World :=
  match walletOf i.store w.store with
  | .error f => (.error f, w)
  | .ok (settings, wallet) =>
    match Broker.connect settings w.pool with
    | (.error e, pool) => (.error (.connection e), { w with pool })
    | (.ok c, pool) => (.ok ⟨c, swapRequest i.due wallet⟩, { w with pool })

/-- Asks the daemon for the swap. -/
def place (o : Order) (w : World) : Except Failure String × World :=
  match w.daemon.createChainSwap o.connection o.request with
  | (.error s, daemon) => (.error (.swap (.ofStatus s)), { w with daemon })
  | (.ok swap, daemon) =>
    match lockupAddress swap with
    | none => (.error .noAddress, { w with daemon })
    | some address => (.ok address, { w with daemon })

/-- Makes a chain swap over what an invoice still owes. -/
def provision (i : Invoice) (w : World) : Except Failure String × World :=
  match prepare i w with
  | (.error f, w) => (.error f, w)
  | (.ok o, w) => place o w

/-- Where new addresses come from. -/
inductive Provisioner where
  | chainSwap
  | fixed (address : String)
  | failing (message : String)
  /-- Gives up in a way that loses the event. -/
  | crashing
  deriving DecidableEq, Repr

/-! ## §2. Events. -/

inductive Outcome where
  | notApplicable
  /-- The prompt shows a new address. -/
  | reactivated (destination : String)
  /-- The prompt is off; another method is there to pay the rest. -/
  | deactivated
  /-- The prompt is off and there was no other method. -/
  | invalidated
  deriving DecidableEq, Repr

/-- Whether an event may tell of a partial payment. -/
def concerns : Invoice.Event → Bool
  | .paymentReceived _ _ => true
  | .dataChanged _ status exception => status == .new && exception == .paidPartial

/-- Whether an invoice is paid in part and still shows its swap address. -/
def isOpen (i : Invoice) : Bool :=
  i.status == .new && i.exception == .paidPartial && i.due != 0 && i.isActive boltzMethod

/-- What a platform is left with when a method of it may not work. -/
def attempt (r : Except Platform.Fault Platform) (before : Platform) : Platform :=
  match r with
  | .ok after => after
  | .error _ => before

/-- Whether all prompts of an invoice are of the method that failed. -/
def onlyMethod (i : Invoice) : Bool := i.prompts.all (·.method == boltzMethod)

/-- Switches the prompt off.  The invoice becomes invalid where all its
prompts are of this method.  What the platform refuses is left undone. -/
def abandon (i : Invoice) (f : Failure) (p : Platform) : Outcome × Platform :=
  let reason := Report.line f.layers
  -- a refusal of the platform must not keep the steps after it from being tried
  let p := attempt (p.deactivatePrompt i.id boltzMethod) p
  if onlyMethod i then
    let p := attempt (p.markInvalid i.id .paidPartial) p
    (.invalidated,
      attempt (p.log i.id ("Invoice paid partially and no payment method remains: " ++ reason)) p)
  else
    (.deactivated, attempt (p.log i.id ("Boltz payment method deactivated: " ++ reason)) p)

/-- Shows a new address, or gives the prompt up. -/
def resolve (i : Invoice) (r : Except Failure String) (w : World) : Outcome × World :=
  match r with
  | .error f =>
    let (outcome, platform) := abandon i f w.platform
    (outcome, { w with platform })
  | .ok destination =>
    match w.platform.activatePrompt i.id boltzMethod destination with
    | .ok platform => (.reactivated destination, { w with platform })
    | .error fault =>
      let (outcome, platform) := abandon i (.prompt fault) w.platform
      (outcome, { w with platform })

/-- How far the handling of an event has come. -/
inductive Progress where
  /-- It is over; without an outcome where the provisioner crashed. -/
  | finished (o : Option Outcome)
  /-- It waits for the daemon. -/
  | waiting (i : Invoice) (o : Order)
  deriving DecidableEq, Repr

/-- The invoice that an event is about, if it is paid in part and open. -/
def openInvoice (e : Invoice.Event) (p : Platform) : Option Invoice :=
  if concerns e then
    match p.invoice e.invoice with
    | .ok (some i) => if isOpen i then some i else none
    | _ => none
  else none

/-- Ends the handling with what a provisioner said. -/
def conclude (i : Invoice) (r : Except Failure String) (w : World) : Progress × World :=
  let (outcome, w) := resolve i r w
  (.finished (some outcome), w)

/-- Handles an event as far as that goes without the daemon. -/
def start (p : Provisioner) (e : Invoice.Event) (w : World) : Progress × World :=
  match openInvoice e w.platform with
  | none => (.finished (some .notApplicable), w)
  | some i =>
    match p with
    | .fixed address => conclude i (.ok address) w
    | .failing message => conclude i (.error (.refused message)) w
    | .crashing => (.finished none, w)
    | .chainSwap =>
      match prepare i w with
      | (.error f, w) => conclude i (.error f) w
      | (.ok o, w) => (.waiting i o, w)

/-- Asks the daemon where that is still to be done. -/
def finish (p : Progress) (w : World) : Option Outcome × World :=
  match p with
  | .finished o => (o, w)
  | .waiting i o =>
    let (r, w) := place o w
    let (outcome, w) := resolve i r w
    (some outcome, w)

/-- Handles one event of an invoice; no outcome when the provisioner crashes. -/
def handle (p : Provisioner) (e : Invoice.Event) (w : World) : Option Outcome × World :=
  let (progress, w) := start p e w
  finish progress w

/-- Handles events side by side: all go as far as they can without the daemon
before the first of them asks it. -/
def handleAll (p : Provisioner) (es : List Invoice.Event) (w : World) : World :=
  -- first all events up to their question to the daemon, then the questions in the same order
  let (progress, w) := es.foldl
    (fun (done, w) e => let (progress, w) := start p e w; (done ++ [progress], w)) ([], w)
  progress.foldl (fun w progress => (finish progress w).2) w

end SwapBridge.PartialPayment
