/-
  SwapBridge.Proofs.PartialPayment.Stranding
  ──────────────────────────────────────────
  **WAYS TO PAY THAT ARE LEFT.**

  When no new address is to be had for the rest of an invoice, its swap prompt
  is switched off.  Whether the invoice is over then is decided by the methods
  of its prompts, and not by which of them are active.  So an invoice whose
  other prompts are all off stays open with no way to pay it.

    • `Refuses`, `handle_of_refused` — a partial payment that gets no new address,
    • `exists_active_deactivate` — the prompts that are active afterwards,
    • `IsStranded` — an invoice that is not over, and that nobody can pay,
    • `isStranded_iff_dormant` — which invoices a refusal leaves like that,
    • `isStranded_dormantChain` — one of them.
-/
import SwapBridge.Proofs.PartialPayment.Redelivery

namespace SwapBridge

/-- The active prompts after a method was switched off are those of other methods. -/
theorem Invoice.exists_active_deactivate (i : Invoice) (method : String) :
    (∃ prompt ∈ (i.deactivate method).prompts, prompt.active = true)
      ↔ ∃ prompt ∈ i.prompts, prompt.method ≠ method ∧ prompt.active = true := by
  have hprompts : (i.deactivate method).prompts
      = i.prompts.map fun p => if p.method = method then { p with active := false } else p := rfl
  rw [hprompts]
  constructor
  · rintro ⟨_, hmem, hactive⟩
    obtain ⟨prompt, hprompt, rfl⟩ := List.mem_map.1 hmem
    by_cases hm : prompt.method = method
    · simp [hm] at hactive
    · rw [if_neg hm] at hactive
      exact ⟨prompt, hprompt, hm, hactive⟩
  · rintro ⟨prompt, hprompt, hm, hactive⟩
    exact ⟨prompt, List.mem_map.2 ⟨prompt, hprompt, if_neg hm⟩, hactive⟩

namespace PartialPayment

variable {e : Invoice.Event} {w : World} {i j : Invoice} {f : Failure}

/-! ## §1. Refusals. -/

/-- A provisioner has no address for the rest of an invoice, and says why. -/
def Refuses (p : Provisioner) (i : Invoice) (w : World) (f : Failure) : Prop :=
  match p with
  | .chainSwap => (provision i w).1 = .error f
  | .failing message => f = .refused message
  | .fixed _ | .crashing => False

/-- **What a refusal comes to**: the prompt is given up. -/
theorem handle_of_refused {p : Provisioner} (hopen : openInvoice e w.platform = some i)
    (h : Refuses p i w f) :
    (handle p e w).1 = some (abandon i f w.platform).1
      ∧ (handle p e w).2.platform = (abandon i f w.platform).2 := by
  cases p with
  | chainSwap =>
    have hprovision : (provision i w).1 = .error f := h
    obtain ⟨⟨pool, daemon, hw⟩, _⟩ := provision_cases i w
    rw [handle_of_open hopen, hprovision, hw, resolve_error]
    exact ⟨rfl, rfl⟩
  | failing message =>
    obtain rfl : f = .refused message := h
    unfold handle start
    rw [hopen]
    exact ⟨rfl, rfl⟩
  | fixed address => exact absurd h id
  | crashing => exact absurd h id

/-- What giving up leaves of an invoice, on a platform that serves. -/
theorem leftOf_of_serves {p : Platform} (hp : Serves p) (i : Invoice) :
    leftOf p i = if onlyMethod i then
        { i.deactivate boltzMethod with status := .invalid, exception := .paidPartial }
      else i.deactivate boltzMethod := by
  unfold leftOf markedInvalid switchedOff
  rw [if_pos (hp .deactivatePrompt (by simp)), if_pos (hp .markInvalid (by simp))]

/-! ## §2. What is left of an invoice. -/

/-- An invoice is not over, and none of its prompts is active. -/
def IsStranded (i : Invoice) : Prop :=
  i.status ≠ .invalid ∧ ∀ prompt ∈ i.prompts, prompt.active = false

/-- An invoice has prompts of other methods, and all of them are off. -/
def HasDormantMethods (i : Invoice) : Prop :=
  (∃ prompt ∈ i.prompts, prompt.method ≠ boltzMethod)
    ∧ ∀ prompt ∈ i.prompts, prompt.method ≠ boltzMethod → prompt.active = false

/-- An invoice is stranded unless it is invalid or has something active to pay to. -/
theorem isStranded_iff (i : Invoice) :
    IsStranded i ↔ ¬ (i.status = .invalid ∨ ∃ prompt ∈ i.prompts, prompt.active = true) := by
  unfold IsStranded
  simp only [not_or, not_exists, not_and, Bool.not_eq_true]

/-- An invoice that was given up is invalid exactly if it had no prompt of
another method. -/
theorem status_leftOf {p : Platform} (hp : Serves p) (hi : i.status = .new) :
    (leftOf p i).status = .invalid ↔ ∀ prompt ∈ i.prompts, prompt.method = boltzMethod := by
  -- the decision is about the methods of the prompts as they were loaded
  rw [leftOf_of_serves hp, ← onlyMethod_iff]
  by_cases ho : onlyMethod i = true
  · rw [if_pos ho]
    exact iff_of_true rfl ho
  · have hstatus : (i.deactivate boltzMethod).status = .new := hi
    rw [if_neg ho, hstatus]
    exact iff_of_false (by simp) ho

/-- Its active prompts are the active ones that it had of other methods. -/
theorem exists_active_leftOf {p : Platform} (hp : Serves p) (i : Invoice) :
    (∃ prompt ∈ (leftOf p i).prompts, prompt.active = true)
      ↔ ∃ prompt ∈ i.prompts, prompt.method ≠ boltzMethod ∧ prompt.active = true := by
  have hprompts : (leftOf p i).prompts = (i.deactivate boltzMethod).prompts := by
    rw [leftOf_of_serves hp]
    split <;> rfl
  rw [hprompts]
  exact i.exists_active_deactivate boltzMethod

/-- **WHICH INVOICES A REFUSAL STRANDS**, on a platform that serves.  When an
event of a partial payment gets no new address, the invoice is invalid
afterwards exactly if all its prompts are for swaps, and it has an active
prompt exactly if one of another method was active before.  So it is stranded
exactly if it has prompts of other methods and none of these is active. -/
theorem isStranded_iff_dormant (p : Provisioner) (hkeyed : w.platform.IsKeyed)
    (hserves : Serves w.platform) (hi : PaidInPart e w.platform i) (hf : Refuses p i w f) :
    ∃ o w' j, handle p e w = (some o, w') ∧ w'.platform.invoices.get? e.invoice = some j
      ∧ (j.status = .invalid ↔ ∀ prompt ∈ i.prompts, prompt.method = boltzMethod)
      ∧ ((∃ prompt ∈ j.prompts, prompt.active = true)
        ↔ ∃ prompt ∈ i.prompts, prompt.method ≠ boltzMethod ∧ prompt.active = true)
      ∧ (IsStranded j ↔ HasDormantMethods i) := by
  -- whatever was refused, what is stored afterwards is `leftOf`: the rest is about that invoice
  have hopen := (openInvoice_eq_some (hserves .invoice (by simp))).2 hi
  have hid : i.id = e.invoice := hkeyed _ i hi.stored
  have hstored : w.platform.invoices.get? i.id = some i := hid.symm ▸ hi.stored
  obtain ⟨houtcome, hplatform⟩ := handle_of_refused hopen hf
  have hstatus := status_leftOf hserves hi.status_eq
  have hactive := exists_active_leftOf hserves i
  refine ⟨_, (handle p e w).2, leftOf w.platform i, Prod.ext houtcome rfl, ?_, hstatus, hactive, ?_⟩
  · rw [hplatform, ← hid]
    exact stored_abandon hstored f
  · rw [isStranded_iff, hstatus, hactive]
    unfold HasDormantMethods
    simp only [not_or, not_forall, not_exists, not_and, Bool.not_eq_true, exists_prop]

/-! ## §3. A second method that is switched off. -/

/-- An invoice of the shop that was paid in part and has a second prompt. -/
def withChain (active : Bool) : Invoice :=
  { partlyPaid with prompts := partlyPaid.prompts ++ [⟨"BTC-CHAIN", some "bc1q", active⟩] }

/-- The shop with a daemon that makes no swap of so little. -/
def frugalShop (i : Invoice) : World :=
  let w := Sample.shop i
  { w with daemon := { w.daemon with
      faults := [(.createChainSwap, [some ⟨.invalidArgument, "amount is below the minimum"⟩])] } }

/-- Why there is no swap. -/
def belowMinimum : Failure :=
  .swap (.ofStatus ⟨.invalidArgument, "amount is below the minimum"⟩)

theorem isKeyed_frugalShop (i : Invoice) : (frugalShop i).platform.IsKeyed :=
  Platform.isKeyed_empty.putInvoice i

theorem paidInPart_withChain (active : Bool) :
    PaidInPart (.dataChanged "inv" .new .paidPartial) (frugalShop (withChain active)).platform
      (withChain active) :=
  ⟨.inr ⟨_, rfl⟩, rfl, rfl, rfl, show (0 : UInt64) < 4000 by decide, _, rfl, rfl⟩

/-- The shop of the example is refused its swap, whether the other prompt is active or not.
-/
theorem refuses_frugalShop (active : Bool) :
    Refuses .chainSwap (withChain active) (frugalShop (withChain active)) belowMinimum := by
  have hsettings : (frugalShop (withChain active)).store.settingsOf (withChain active).store
      = .ok (some Sample.settings) := Sample.settingsOf_store
  show (provision (withChain active) (frugalShop (withChain active))).1 = .error belowMinimum
  rw [provision_of_wallet hsettings rfl]
  cases active <;> decide +kernel

/-- With an active second method the invoice is not stranded. -/
theorem not_isStranded_activeChain :
    ∃ o w' j, handle .chainSwap (.dataChanged "inv" .new .paidPartial)
        (frugalShop (withChain true)) = (some o, w')
      ∧ w'.platform.invoices.get? "inv" = some j ∧ ¬ IsStranded j := by
  obtain ⟨o, w', j, hhandle, hj, _, _, hstranded⟩ :=
    isStranded_iff_dormant .chainSwap (isKeyed_frugalShop _) (fun _ _ => rfl)
      (paidInPart_withChain true) (refuses_frugalShop true)
  refine ⟨o, w', j, hhandle, hj, fun h => ?_⟩
  have hoff := (hstranded.1 h).2 ⟨"BTC-CHAIN", some "bc1q", true⟩ (by decide) (by decide)
  cases hoff

/-- **A refusal strands an invoice** whose second prompt is switched off: it
stays new, and no prompt of it is active. -/
theorem isStranded_dormantChain :
    (frugalShop (withChain false)).platform.IsKeyed
      ∧ Serves (frugalShop (withChain false)).platform
      ∧ PaidInPart (.dataChanged "inv" .new .paidPartial)
        (frugalShop (withChain false)).platform (withChain false)
      ∧ Refuses .chainSwap (withChain false) (frugalShop (withChain false)) belowMinimum
      ∧ ∃ j, (handle .chainSwap (.dataChanged "inv" .new .paidPartial)
          (frugalShop (withChain false))).2.platform.invoices.get? "inv" = some j
        ∧ ¬ (j.status = .invalid ∨ ∃ prompt ∈ j.prompts, prompt.active = true) := by
  have hserves : Serves (frugalShop (withChain false)).platform := fun _ _ => rfl
  have hopen := (openInvoice_eq_some rfl).2 (paidInPart_withChain false)
  obtain ⟨_, hplatform⟩ := handle_of_refused hopen (refuses_frugalShop false)
  refine ⟨isKeyed_frugalShop _, hserves, paidInPart_withChain false, refuses_frugalShop false,
    leftOf (frugalShop (withChain false)).platform (withChain false), ?_, ?_⟩
  · rw [hplatform]
    exact stored_abandon (i := withChain false) rfl belowMinimum
  · rw [leftOf_of_serves hserves]
    decide

end PartialPayment

end SwapBridge
