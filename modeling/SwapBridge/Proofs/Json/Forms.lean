/-
  SwapBridge.Proofs.Json.Forms
  ────────────────────────────
  **FORMS OF SWAPS AND PAYMENTS ARE READ BACK.**

  A choice is found again by its name, and the details of a payment are a
  record, whose optional fields are null where there is nothing.
-/
import SwapBridge.Json.Forms
import SwapBridge.Proofs.Json.Codec

namespace SwapBridge

open Json

/-- A choice whose name is listed is found again. -/
theorem Json.decodeChoice_ofString {α : Type} {names : List (String × α)} {name : String} {a : α}
    (h : List.lookup name names = some a) : decodeChoice names (ofString name) = some a := h

instance : LawfulJsonCodec Swap.Kind where
  valid k := .string (some k.name)
  decode_encode k := by
    apply decodeChoice_ofString
    cases k <;> decide

instance : LawfulJsonCodec Swap.State where
  valid s := .string (some s.name)
  decode_encode s := by
    apply decodeChoice_ofString
    cases s <;> decide

instance : LawfulJsonCodec Payment.Status where
  valid s := .string (some s.name)
  decode_encode s := by
    apply decodeChoice_ofString
    cases s <;> decide

instance : NotNull String := ⟨fun s h => by cases h⟩

instance : JsonRecord Payment.Details where
  fields := [.required "swap_id" Payment.Details.swapId,
    .required "transaction_id" Payment.Details.transactionId,
    .optional "refund_transaction_id" Payment.Details.refundTransactionId,
    .optional "refund_address" Payment.Details.refundAddress]
  nodup := by decide
  decode_eq_some_iff {v a} := by
    refine bind_fields_eq_some_iff rfl (by decide) fun found => ?_
    obtain ⟨swapId, transactionId, refundTransactionId, refundAddress⟩ := a
    simp [Option.bind_eq_some_iff, fits_required, fits_optional]

instance : LawfulJsonCodec Payment.Details where
  valid d :=
    valid_record_cons "swap_id" d.swapId <| valid_record_cons "transaction_id" d.transactionId <|
      valid_record_cons "refund_transaction_id" d.refundTransactionId <|
        valid_record_cons "refund_address" d.refundAddress valid_record_nil
  decode_encode d := decode_record <|
    .cons ⟨rfl, isForm_encode d.swapId⟩ <| .cons ⟨rfl, isForm_encode d.transactionId⟩ <|
      .cons ⟨rfl, isForm_encode d.refundTransactionId⟩ <|
        .cons ⟨rfl, isForm_encode d.refundAddress⟩ .nil

end SwapBridge
