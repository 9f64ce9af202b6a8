/-
  SwapBridge.Proofs.Reconciler.Run
  ────────────────────────────────
  **RUNS OF THE RECONCILER.**

  Calls come one after the other.  Between two of them the platform may change
  its invoices in any way, prompts included, and may stop or start to refuse
  its methods; the ledger is changed by the calls alone.

    • `run` — the results of the calls and the world after them,
    • `holds_run` — the ledger of a run follows `follow`, call by call,
    • `run_results` — how the calls of a run can end.
-/
import Mathlib.Data.List.Forall2
import SwapBridge.Proofs.Reconciler.Step

namespace SwapBridge.Reconciler

/-- A call of the reconciler: its event, and the invoices and the refusals of
the platform at that moment. -/
structure Call where
  event : Swap.Event
  invoices : Table Invoice := .empty
  refusals : List (Platform.Method × String) := []

namespace Call

/-- What a call can see of the platform. -/
def platform (c : Call) : Platform := { invoices := c.invoices, refusals := c.refusals }

/-- The world at the moment of a call. -/
def enter (c : Call) (w : World) : World :=
  { w with platform := { w.platform with invoices := c.invoices, refusals := c.refusals } }

def run (currency : Currency) (c : Call) (w : World) : Except Failure Outcome × World :=
  handle currency c.event (c.enter w)

/-- The invoice that shows the lockup address of the event at that moment. -/
def shown? (c : Call) : Option String := Reconciler.shown? c.platform c.event

/-- What a payment id holds after a call. -/
def follow (currency : Currency) (t : String) (s : Option (String × Payment)) (c : Call) :
    Option (String × Payment) :=
  Reconciler.follow currency c.platform t c.event s

/-- The platform says whose address it is asked for. -/
def Answered (c : Call) : Prop := c.platform.permit .invoiceForAddress = .ok ()

instance (c : Call) : Decidable c.Answered :=
  inferInstanceAs (Decidable (c.platform.permit .invoiceForAddress = .ok ()))

end Call

/-- A later payment for an id that is held is merged in. -/
theorem Call.follow_held {currency : Currency} {t i : String} {c : Call} {p q : Payment}
    (h : paymentFor? currency t c.event = some p) :
    c.follow currency t (some (i, q)) = some (i, merge q p) := by
  unfold Call.follow Reconciler.follow
  rw [h]

/-- A first payment for an id goes to the invoice that shows the address. -/
theorem Call.follow_free {currency : Currency} {t : String} {c : Call} {p : Payment}
    (h : paymentFor? currency t c.event = some p) :
    c.follow currency t none = c.shown?.map (·, p) := by
  unfold Call.follow Reconciler.follow
  rw [h]
  rfl

/-- Calls one after the other. -/
def run (currency : Currency) : List Call → World → List (Except Failure Outcome) × World
  | [], w => ([], w)
  | c :: cs, w =>
    let (r, w) := c.run currency w
    let (rs, w) := run currency cs w
    (r :: rs, w)

/-- The ledger after calls. -/
def ledgerAfter (currency : Currency) (cs : List Call) (w : World) : Ledger :=
  (run currency cs w).2.store.ledger

variable {currency : Currency} {w : World} {held : String → Option (String × Payment)}

/-- One call, seen from any payment id. -/
theorem Call.holds_run (currency : Currency) {c : Call} (h : ∀ t, w.store.ledger.Holds t (held t))
    (t : String) :
    (c.run currency w).2.store.ledger.Holds t (c.follow currency t (held t)) :=
  holds_handle (w := c.enter w) currency h t

/-- **The ledger of a run follows `follow`, call by call.** -/
theorem holds_run (currency : Currency) (cs : List Call)
    (h : ∀ t, w.store.ledger.Holds t (held t)) (t : String) :
    (ledgerAfter currency cs w).Holds t (cs.foldl (Call.follow currency t) (held t)) := by
  induction cs generalizing w held with
  | nil => exact h t
  | cons c cs ih => exact ih (Call.holds_run currency h)

/-- An empty ledger holds nothing under any payment id. -/
theorem holds_of_empty (hw : w.store.ledger = .empty) (t : String) :
    w.store.ledger.Holds t none :=
  hw ▸ Ledger.holds_empty t

/-- A run that starts from an empty ledger. -/
theorem holds_run_empty (currency : Currency) (cs : List Call)
    (hw : w.store.ledger = .empty) (t : String) :
    (ledgerAfter currency cs w).Holds t (cs.foldl (Call.follow currency t) none) :=
  holds_run currency cs (holds_of_empty hw) t

/-- How a call may end: well, or at an amount that the currency cannot express,
or at a platform that takes no notifications. -/
def Call.EndsAs (currency : Currency) (c : Call) (r : Except Failure Outcome) : Prop :=
  (∃ o, r = .ok o)
  ∨ (∃ a, Amount.ofSats c.event.amount currency.divisibility = .error a ∧ r = .error (.amount a))
  ∨ ∃ f, c.platform.permit .notify = .error f ∧ r = .error (.notify f)

/-- The calls of a run fail for no other reason: no payment on record is ever
unreadable or vanishes. -/
theorem run_results (currency : Currency) {cs : List Call} (hcs : ∀ c ∈ cs, c.Answered)
    (h : ∀ t, w.store.ledger.Holds t (held t)) :
    List.Forall₂ (Call.EndsAs currency) cs (run currency cs w).1 := by
  induction cs generalizing w held with
  | nil => exact .nil
  | cons c cs ih =>
    refine .cons ?_ (ih (fun d hd => hcs d (List.mem_cons_of_mem _ hd)) (Call.holds_run currency h))
    exact handle_result (w := c.enter w) currency (hcs c List.mem_cons_self) h

end SwapBridge.Reconciler
