/-
  SwapBridge.Json.Forms
  ─────────────────────
  **JSON FORMS OF SWAPS AND PAYMENTS.**

  Kinds, states and statuses are choices by name; the details of a payment
  are a record.
-/
import SwapBridge.Json.Codec
import SwapBridge.Payment

namespace SwapBridge

open Json

instance : JsonCodec Swap.Kind where
  encode k := ofString k.name
  decode := decodeChoice [("submarine", .submarine), ("reverse", .reverse), ("chain", .chain)]

instance : JsonCodec Swap.State where
  encode s := ofString s.name
  decode := decodeChoice [("pending", .pending), ("successful", .successful), ("error", .error),
    ("server_error", .serverError), ("refunded", .refunded), ("abandoned", .abandoned)]

instance : JsonCodec Payment.Status where
  encode s := ofString s.name
  decode := decodeChoice [("processing", .processing), ("settled", .settled)]

instance : JsonCodec Payment.Details where
  encode d := record [("swap_id", ofString d.swapId), ("transaction_id", ofString d.transactionId),
    ("refund_transaction_id", JsonCodec.encode d.refundTransactionId),
    ("refund_address", JsonCodec.encode d.refundAddress)]
  decode v := do
    let fs ← fields ["swap_id", "transaction_id", "refund_transaction_id", "refund_address"] v
    return ⟨← required fs "swap_id", ← required fs "transaction_id",
      ← optional fs "refund_transaction_id", ← optional fs "refund_address"⟩

end SwapBridge
