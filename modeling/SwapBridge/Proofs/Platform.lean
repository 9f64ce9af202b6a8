/-
  SwapBridge.Proofs.Platform
  ──────────────────────────
  **INVOICES AND THEIR PROMPTS.**

  Writing to a prompt of one method leaves everything else about an invoice
  alone, and writing to one invoice leaves everything else about the platform
  alone.

    • `prompt?_activate`, `isActive_deactivate` — what a prompt says after a write,
    • `IsKeyed` — each invoice stands under its own id,
    • `changeInvoice_of_get`, `changeInvoice_putInvoice` — a write to an invoice,
    • `storeOf`, `storeOf_changeInvoice` — an invoice stays with its store,
    • `freshAddress_ne` — a wallet that gave an address is another one.
-/
import SwapBridge.Platform
import SwapBridge.Proofs.Table

namespace SwapBridge

/-! ## §1. Prompts. -/

namespace Invoice

variable {f : Prompt → Prompt}

/-- The first prompt of a method after all prompts of the method were changed. -/
theorem prompt?_mapPrompts (i : Invoice) (method : String) (hf : ∀ p, (f p).method = p.method) :
    (i.mapPrompts method f).prompt? method = (i.prompt? method).map f := by
  show (i.prompts.map fun p => if p.method = method then f p else p).find? (·.method == method)
    = (i.prompts.find? (·.method == method)).map f
  induction i.prompts with
  | nil => rfl
  | cons p ps ih =>
    by_cases hp : p.method = method
    · simp [hp, hf]
    · simp [hp, ih]

/-- A method is active if the first prompt with it is. -/
theorem isActive_iff (i : Invoice) (method : String) :
    i.isActive method = true ↔ ∃ p, i.prompt? method = some p ∧ p.active = true := by
  unfold isActive
  cases i.prompt? method <;> simp

/-- Prompts of other methods stay as they are. -/
theorem filter_mapPrompts (i : Invoice) (method : String) (hf : ∀ p, (f p).method = p.method) :
    (i.mapPrompts method f).prompts.filter (·.method ≠ method)
      = i.prompts.filter (·.method ≠ method) := by
  show (i.prompts.map fun p => if p.method = method then f p else p).filter _ = _
  induction i.prompts with
  | nil => rfl
  | cons p ps ih =>
    by_cases hp : p.method = method
    · rw [List.map_cons, if_pos hp, List.filter_cons_of_neg (by simp [hf, hp]),
        List.filter_cons_of_neg (by simp [hp])]
      exact ih
    · rw [List.map_cons, if_neg hp, List.filter_cons_of_pos (by simp [hp]),
        List.filter_cons_of_pos (by simp [hp]), ih]

/-- A prompt that was activated shows the destination. -/
theorem prompt?_activate {i : Invoice} {method : String} {p : Prompt}
    (h : i.prompt? method = some p) (destination : String) :
    (i.activate method destination).prompt? method = some ⟨method, some destination, true⟩ := by
  have hm : p.method = method := by simpa using List.find?_some h
  unfold activate
  rw [prompt?_mapPrompts, h, Option.map_some, hm]
  exact fun _ => rfl

/-- A method that was deactivated is not active, whether there is a prompt for it or not. -/
theorem isActive_deactivate (i : Invoice) (method : String) :
    (i.deactivate method).isActive method = false := by
  unfold isActive deactivate
  rw [prompt?_mapPrompts]
  · cases i.prompt? method <;> rfl
  · exact fun _ => rfl

end Invoice

/-! ## §2. The platform. -/

namespace Platform

variable {p : Platform}

/-- Every invoice stands under its own id. -/
def IsKeyed (p : Platform) : Prop := ∀ id i, p.invoices.get? id = some i → i.id = id

theorem isKeyed_empty : IsKeyed {} := fun _ _ h => by cases h

/-- Invoices are put under their own ids. -/
theorem IsKeyed.putInvoice (h : p.IsKeyed) (i : Invoice) : (p.putInvoice i).IsKeyed := by
  intro id j hj
  unfold Platform.putInvoice at hj
  rw [Table.get?_insert] at hj
  split at hj
  · rename_i hid
    injection hj with hj
    rw [← hj, hid]
  · exact h id j hj

/-- A write to an invoice that is there. -/
theorem changeInvoice_of_get {m : Method} {i : Invoice} {f : Invoice → Invoice}
    (hp : p.permit m = .ok ()) (hi : p.invoices.get? i.id = some i) (hf : (f i).id = i.id) :
    p.changeInvoice m i.id f = .ok (p.putInvoice (f i)) := by
  unfold changeInvoice Platform.putInvoice
  rw [hp, hi, hf]
  rfl

/-- Of two writes to one invoice the later one counts. -/
theorem changeInvoice_putInvoice {m : Method} {i : Invoice} {f : Invoice → Invoice}
    (hp : p.permit m = .ok ()) (hf : (f i).id = i.id) :
    (p.putInvoice i).changeInvoice m i.id f = .ok (p.putInvoice (f i)) := by
  have hget : (p.putInvoice i).invoices.get? i.id = some i := by
    unfold Platform.putInvoice
    rw [Table.get?_insert, if_pos rfl]
  rw [changeInvoice_of_get (show (p.putInvoice i).permit m = .ok () from hp) hget hf]
  unfold Platform.putInvoice
  simp only [hf, Table.insert_insert]

/-- The store that an invoice belongs to. -/
def storeOf (p : Platform) (id : String) : Option String := (p.invoices.get? id).map (·.store)

/-- An invoice that is changed stays with its store. -/
theorem storeOf_changeInvoice {p' : Platform} {m : Method} {id : String} {f : Invoice → Invoice}
    (hf : ∀ i, (f i).store = i.store) (h : p.changeInvoice m id f = .ok p') :
    p'.storeOf = p.storeOf := by
  unfold changeInvoice at h
  cases hp : p.permit m with
  | error fault =>
    rw [hp] at h
    cases h
  | ok u =>
    cases hi : p.invoices.get? id with
    | none =>
      rw [hp, hi] at h
      cases h
    | some i =>
      rw [hp, hi] at h
      cases h
      funext other
      show ((p.invoices.insert id (f i)).get? other).map (·.store) = _
      rw [Table.get?_insert]
      split
      · rename_i hother
        subst hother
        rw [storeOf, hi]
        exact congrArg some (hf i)
      · rfl

/-! ## §3. Wallets. -/

/-- An address that is drawn is gone from the platform. -/
theorem freshAddress_ne {p' : Platform} {store address : String} {kind : Swap.Kind}
    (h : p.freshAddress store kind = .ok (address, p')) : p' ≠ p := by
  unfold freshAddress at h
  cases hp : p.permit .freshAddress with
  | error fault =>
    rw [hp] at h
    cases h
  | ok u =>
    rw [hp] at h
    cases hprepared : p.prepared with
    | nil =>
      simp only [Except.map, hprepared, Except.ok.injEq, Prod.mk.injEq] at h
      obtain ⟨-, rfl⟩ := h
      exact fun heq => absurd (congrArg Platform.addresses heq) (Nat.succ_ne_self _)
    | cons address rest =>
      simp only [Except.map, hprepared, Except.ok.injEq, Prod.mk.injEq] at h
      obtain ⟨-, rfl⟩ := h
      intro heq
      have hrest : rest = address :: rest := (congrArg Platform.prepared heq).trans hprepared
      exact absurd hrest.symm (List.cons_ne_self _ _)

end Platform

end SwapBridge
