/-
  SwapBridge.Poll
  ───────────────
  **CATCHING UP ON SWAPS.**

  At its start the bridge lists the swaps of every store.  It takes up those
  that are still pending, and those that an open invoice waits for; closed
  history is left alone.
-/
import SwapBridge.World

namespace SwapBridge.Poll

/-- The settings of the stores could not be loaded. -/
structure Failure where
  fault : Store.Fault
  deriving DecidableEq, Repr

def Failure.layers (f : Failure) : List String := "load store settings" :: f.fault.layers

/-- The addresses that open invoices show; none if the platform does not say. -/
def openDestinations (p : Platform) : List String :=
  match p.monitoredInvoices boltzMethod with
  | .ok invoices => invoices.filterMap (·.destination? boltzMethod)
  | .error _ => []

/-- Whether a swap is taken up. -/
def isWanted (destinations : List String) (e : Swap.Event) : Bool :=
  e.state == .pending ||
    match e.lockupAddress with
    | some address => destinations.contains address
    | none => false

/-- The wanted swaps of one store; none if it cannot be connected or listed. -/
def ofStore (destinations : List String) (s : Settings) (w : World) : List Swap.Event × World :=
  match Broker.connect s w.pool with
  | (.error _, pool) => ([], { w with pool })
  | (.ok c, pool) =>
    match w.daemon.listSwaps c with
    | (.error _, daemon) => ([], { w with pool, daemon })
    | (.ok list, daemon) =>
      ((Swap.Event.ofListing list).filter (isWanted destinations), { w with pool, daemon })

/-- The wanted swaps of all stores, by ascending store id. -/
def ofStores (destinations : List String) : List (String × Settings) → World →
    List Swap.Event × World
  | [], w => ([], w)
  | (_, s) :: rest, w =>
    let (events, w) := ofStore destinations s w
    let (more, w) := ofStores destinations rest w
    (events ++ more, w)

/-- All wanted swaps.  Open invoices count if the platform is asked. -/
def run (withInvoices : Bool) (w : World) : Except Failure (List Swap.Event) × World :=
  let destinations := if withInvoices then openDestinations w.platform else []
  match w.store.allSettings with
  -- one unreadable store keeps all others from being listed
  | .error fault => (.error ⟨fault⟩, w)
  | .ok stores =>
    let (events, w) := ofStores destinations stores w
    (.ok events, w)

end SwapBridge.Poll
