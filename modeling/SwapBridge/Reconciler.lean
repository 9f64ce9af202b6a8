/-
  SwapBridge.Reconciler
  ─────────────────────
  **SWAP PROGRESS AS PAYMENTS.**

  An event of a swap whose coins are locked up makes or changes the payment of
  an invoice.  The lockup transaction that was seen before stays with its
  invoice; a new one belongs to the invoice whose prompt shows its address.

    • `Reconciler.handle` — one event, from the ledger to the notification,
    • `Reconciler.merge` — what an event changes about a payment on record.
-/
import SwapBridge.World

namespace SwapBridge.Reconciler

inductive Failure where
  /-- The platform could not say whose address it is. -/
  | lookup (fault : Platform.Fault)
  | amount (e : AmountError)
  /-- The payment on record cannot be read. -/
  | unreadable (fault : Store.Fault)
  /-- The payment that should be on record is not. -/
  | vanished (payment : String)
  | update (fault : Store.Fault)
  | notify (fault : Platform.Fault)
  deriving DecidableEq, Repr

def Failure.layers : Failure → List String
  | .lookup fault => ["look up invoice by lockup address", fault.message]
  | .amount e => [e.message]
  | .unreadable fault => fault.layers
  | .vanished payment => ["payment " ++ payment ++ " vanished"]
  | .update fault => "update payment" :: fault.layers
  | .notify fault => [fault.message]

inductive Outcome where
  | ignored
  | created (p : Payment)
  | updated (p : Payment)
  deriving DecidableEq, Repr

/-- The invoice that a lockup belongs to. -/
def invoiceOf (lockupTx address : String) (w : World) : Except Failure (Option String) :=
  match w.store.ledger.invoiceOf? lockupTx with
  | some invoice => .ok (some invoice)
  -- the prompt may show another address by now, so it decides on new lockups alone
  | none =>
    ((w.platform.invoiceForAddress boltzMethod address).mapError .lookup).map
      fun invoice => invoice.map (·.id)

/-- The payment that an event describes. -/
def paymentOf (e : Swap.Event) (settlement : Settlement) (lockupTx : String) (amount : Amount)
    (currency : Currency) : Payment where
  id := lockupTx
  status := settlement.status
  amount := amount
  currency := currency.code
  details := ⟨e.id, lockupTx, e.refundTx, e.refundAddress⟩

/-- A payment on record after a later event: settled stays settled, and a
refund that the event does not mention stays known. -/
def merge (existing incoming : Payment) : Payment :=
  { incoming with
    status := existing.status.later incoming.status
    details := { incoming.details with
      refundTransactionId :=
        incoming.details.refundTransactionId.or existing.details.refundTransactionId
      refundAddress := incoming.details.refundAddress.or existing.details.refundAddress } }

/-- Tells the platform, or fails with everything else as it is. -/
def announce (n : Platform.Notification) (outcome : Outcome) (w : World) :
    Except Failure Outcome × World :=
  match w.platform.notify n with
  | .ok platform => (.ok outcome, { w with platform })
  | .error fault => (.error (.notify fault), w)

/-- Revises the payment on record and asks for a look at the invoice. -/
def revise (invoice : String) (incoming : Payment) (w : World) :
    Except Failure Outcome × World :=
  match w.store.payment invoice incoming.id with
  | .error fault => (.error (.unreadable fault), w)
  | .ok none => (.error (.vanished incoming.id), w)
  | .ok (some existing) =>
    let updated := merge existing incoming
    match w.store.updatePayment invoice updated with
    | .error fault => (.error (.update fault), w)
    | .ok store => announce (.needsUpdate invoice) (.updated updated) { w with store }

/-- Puts the payment on record.  The first sighting is announced. -/
def record (invoice : String) (incoming : Payment) (w : World) : Except Failure Outcome × World :=
  match w.store.insertPayment invoice incoming with
  | (true, store) =>
    announce (.paymentReceived invoice incoming.id) (.created incoming) { w with store }
  | (false, _) => revise invoice incoming w

/-- Handles one event. -/
def handle (currency : Currency) (e : Swap.Event) (w : World) : Except Failure Outcome × World :=
  match Settlement.ofEvent? e, e.lockupTx, e.lockupAddress with
  | some settlement, some lockupTx, some address =>
    match invoiceOf lockupTx address w with
    | .error f => (.error f, w)
    | .ok none => (.ok .ignored, w)
    | .ok (some invoice) =>
      match Amount.ofSats e.amount currency.divisibility with
      | .error a => (.error (.amount a), w)
      | .ok amount => record invoice (paymentOf e settlement lockupTx amount currency) w
  | _, _, _ => (.ok .ignored, w)

end SwapBridge.Reconciler
