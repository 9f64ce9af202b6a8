/-
  SwapBridge.Ledger
  ─────────────────
  **THE LEDGER OF PAYMENTS.**

  Payments are kept under their invoice and their own id, as rows of plain
  text and numbers.  A row that the ledger wrote itself always reads back; one
  that was written by other means is checked field by field when it is read.

    • `Ledger.insert` — writes a payment unless its key is taken,
    • `Ledger.update` — replaces a payment that is there,
    • `Ledger.invoiceOf?` — the first invoice that holds a payment id.
-/
import SwapBridge.Payment
import SwapBridge.Table

namespace SwapBridge

namespace Ledger

/-- A payment as it is kept, apart from its key. -/
structure Row where
  status : String
  minorUnits : String
  divisibility : Int
  currency : String
  swapId : String
  transactionId : String
  refundTransactionId : Option String
  refundAddress : Option String
  deriving DecidableEq, Repr

/-- What is wrong with a row. -/
inductive RowFault where
  /-- The decimals do not fit 32 bits. -/
  | decimalsOutOfRange (n : Int)
  | malformedUnits (text : String)
  | amount (e : AmountError)
  | unknownStatus (text : String)
  deriving DecidableEq, Repr

/-- The fault and its cause, whose text the fault repeats. -/
def RowFault.layers : RowFault → List String
  | .decimalsOutOfRange n => ["Integer " ++ Decimal.writeInt n ++ " out of range at index 3"]
  | .malformedUnits text =>
    let cause := "invalid amount_minor " ++ text
    ["Conversion error from type Text at index: 2, " ++ cause, cause]
  | .amount e => ["Conversion error from type Integer at index: 3, " ++ e.message, e.message]
  | .unknownStatus text =>
    let cause := "unknown payment status: " ++ text
    ["Conversion error from type Text at index: 1, " ++ cause, cause]

namespace Row

def ofPayment (p : Payment) : Row where
  status := p.status.name
  minorUnits := Decimal.write p.amount.minorUnits
  divisibility := p.amount.divisibility
  currency := p.currency
  swapId := p.details.swapId
  transactionId := p.details.transactionId
  refundTransactionId := p.details.refundTransactionId
  refundAddress := p.details.refundAddress

/-- The decimals of a row, as a 32-bit word. -/
def decimals (r : Row) : Except RowFault Nat :=
  if 0 ≤ r.divisibility ∧ r.divisibility < UInt32.size then .ok r.divisibility.toNat
  else .error (.decimalsOutOfRange r.divisibility)

/-- The minor units of a row; a plus sign may stand before them. -/
def units (r : Row) : Except RowFault (Fin (Nat.pow 2 128)) :=
  match Decimal.readSignedBelow? (Nat.pow 2 128) r.minorUnits.toList with
  | some n => .ok (Fin.ofNat _ n)
  | none => .error (.malformedUnits r.minorUnits)

/-- The payment in a row: decimals, minor units, amount and status are checked
in this order. -/
def read (id : String) (r : Row) : Except RowFault Payment := do
  let d ← r.decimals
  let m ← r.units
  let amount ← (Amount.ofMinorUnits m d).mapError .amount
  match Payment.Status.ofName? r.status with
  | none => throw (.unknownStatus r.status)
  | some status =>
    return ⟨id, status, amount, r.currency,
      ⟨r.swapId, r.transactionId, r.refundTransactionId, r.refundAddress⟩⟩

end Row

end Ledger

/-- Rows by invoice, then by payment. -/
structure Ledger where
  rows : Table (Table Ledger.Row)
  deriving DecidableEq, Repr

namespace Ledger

def empty : Ledger := ⟨.empty⟩

/-- The rows of an invoice. -/
def ofInvoice (l : Ledger) (invoice : String) : Table Row := (l.rows.get? invoice).getD .empty

def row? (l : Ledger) (invoice payment : String) : Option Row := (l.ofInvoice invoice).get? payment

/-- Writes a row whatever stood there. -/
def putRow (l : Ledger) (invoice payment : String) (r : Row) : Ledger :=
  ⟨l.rows.insert invoice ((l.ofInvoice invoice).insert payment r)⟩

/-- Writes a payment unless its key is taken; says whether it did. -/
def insert (l : Ledger) (invoice : String) (p : Payment) : Bool × Ledger :=
  if (l.row? invoice p.id).isSome then (false, l)
  else (true, l.putRow invoice p.id (.ofPayment p))

/-- Replaces a payment; says whether there was one. -/
def update (l : Ledger) (invoice : String) (p : Payment) : Bool × Ledger :=
  if (l.row? invoice p.id).isSome then (true, l.putRow invoice p.id (.ofPayment p))
  else (false, l)

def get (l : Ledger) (invoice payment : String) : Except RowFault (Option Payment) :=
  match l.row? invoice payment with
  | none => .ok none
  | some r => (r.read payment).map some

/-- The payments of an invoice, by ascending id. -/
def list (l : Ledger) (invoice : String) : Except RowFault (List Payment) :=
  (l.ofInvoice invoice).entries.mapM fun (id, r) => r.read id

/-- The first invoice that holds a payment id. -/
def invoiceOf? (l : Ledger) (payment : String) : Option String :=
  (l.rows.entries.find? fun (_, rows) => rows.contains payment).map (·.1)

/-! ## Rows and writes -/

@[simp] theorem row?_putRow (l : Ledger) (i p : String) (r : Row) (i' p' : String) :
    (l.putRow i p r).row? i' p' = if i' = i ∧ p' = p then some r else l.row? i' p' := by
  simp only [row?, ofInvoice, putRow, Table.get?_insert]
  by_cases hi : i' = i
  · subst hi; simp
  · simp [hi]

end Ledger

end SwapBridge
