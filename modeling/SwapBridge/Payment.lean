/-
  SwapBridge.Payment
  ──────────────────
  **PAYMENTS OF INVOICES.**

  A payment is made from the lockup transaction of a swap and has that
  transaction's id.  Its status only ever goes from processing to settled.
-/
import SwapBridge.Amount
import SwapBridge.Swap.Event

namespace SwapBridge

namespace Payment

inductive Status where
  | processing
  | settled
  deriving DecidableEq, Repr

namespace Status

def name : Status → String
  | .processing => "processing"
  | .settled => "settled"

def ofName? (s : String) : Option Status :=
  if s = "processing" then some .processing
  else if s = "settled" then some .settled
  else none

/-- The later of two statuses. -/
def later : Status → Status → Status
  | .settled, _ => .settled
  | .processing, s => s

theorem ofName?_name (s : Status) : ofName? s.name = some s := by cases s <;> decide

end Status

/-- How a payment came about. -/
structure Details where
  swapId : String
  transactionId : String
  refundTransactionId : Option String
  refundAddress : Option String
  deriving DecidableEq, Repr

end Payment

structure Payment where
  id : String
  status : Payment.Status
  amount : Amount
  currency : String
  details : Payment.Details
  deriving DecidableEq, Repr

/-! ## Settlements -/

/-- The progress of a swap that makes or changes a payment. -/
inductive Settlement where
  | mempool
  | successful
  | refunded
  /-- The swap failed after coins were locked up; they still are a payment. -/
  | failedWithLockup
  deriving DecidableEq, Repr

namespace Settlement

def ofEvent? (e : Swap.Event) : Option Settlement :=
  match e.state with
  | .successful => some .successful
  | .refunded => some .refunded
  | .error | .serverError => if e.lockupTx.isSome then some .failedWithLockup else none
  | .pending => if e.status = Swap.statusMempool then some .mempool else none
  | .abandoned => none

def name : Settlement → String
  | .mempool => "Mempool"
  | .successful => "Successful"
  | .refunded => "Refunded"
  | .failedWithLockup => "FailedWithLockup"

def status : Settlement → Payment.Status
  | .successful | .refunded => .settled
  | .mempool | .failedWithLockup => .processing

end Settlement

end SwapBridge
