/-
  SwapBridge.Proofs.Supervisor.Move
  ─────────────────────────────────
  **WHAT CAN HAPPEN TO A SUPERVISOR.**

  A supervisor is called, goes on by itself, and everything around it changes.
  Each of these is a move, and a move can come at any time: the delays of the
  supervisor may pass early or late, the files and the daemon may be others at
  each move, and calls may come between any two steps.

  A stop is more than one move, with whatever happens while it waits in
  between.  It is called; then it takes the task of the supervision, or finds
  none and returns; and who has taken the task returns when the supervision is
  over.  Any number of stops may be under way, and each may be given up.

    • `Move` — what can happen, `Move.apply` — what it does,
    • `responds_apply` — a move comes to an event of the machine, or to none,
    • `preserved` — what all events preserve is preserved by every move,
    • `Comes` — which move an event is from,
    • `cancelled_apply`, `restarts_apply` — what a move counts for,
    • `probing_apply`, `healthy_apply` — where a connection is from.
-/
import SwapBridge.Proofs.Supervisor.Host
import SwapBridge.Proofs.Supervisor.Stops

namespace SwapBridge.Supervisor

/-! ## §1. Moves. -/

/-- What can happen to a supervisor. -/
inductive Move where
  /-- From now on the files, the program at its path, the process, the daemon,
  the clock and the channels that are shared are those of another host. -/
  | around (other : Host)
  | configure (descriptor : Option String)
  | configureWithFallback (descriptor : Option String)
  | start
  /-- The supervisor is let go of, or others end it. -/
  | cancel
  /-- A stop is called: it asks for an end, of the daemon too if that is healthy. -/
  | stopCalled
  /-- A stop that was called takes the task, to wait for its end. -/
  | stopTakes
  /-- A stop that has the task has seen its end, and returns. -/
  | stopReturns
  /-- A stop that was called finds no task, and returns. -/
  | stopPasses
  /-- A stop is given up before it has come to the task. -/
  | stopWithdrawn
  /-- A stop is given up while it waits. -/
  | stopAbandoned
  | launch
  /-- The supervisor begins to look for the credential. -/
  | watch
  | look
  | probe
  /-- The program ends, by itself or by a stop. -/
  | finish (exit : Exit)
  /-- The delay before the next launch is over. -/
  | resume
  | leave

/-- The same supervisor with everything around it as in another host. -/
def Host.amid (h other : Host) : Host :=
  { other with
    config := h.config, target := h.target, launches := h.launches
    machine := { h.machine with pool := other.machine.pool } }

namespace Move

/-- What a move does, where it can be made. -/
def apply : Move → Host → Host
  | .around other, h => h.amid other
  | .configure descriptor, h => ((h.configure descriptor).toOption.map Prod.snd).getD h
  | .configureWithFallback descriptor, h =>
    ((h.configureWithFallback descriptor).toOption.map Prod.snd).getD h
  | .start, h => h.start.toOption.getD h
  | .cancel, h => h.happen .cancelled
  | .stopCalled, h => h.callStop
  | .stopTakes, h => h.happen .taken
  | .stopReturns, h => h.happen .joined
  | .stopPasses, h => h.happen .passed
  | .stopWithdrawn, h => h.happen .withdrawn
  | .stopAbandoned, h => h.happen .abandoned
  | .launch, h => if h.machine.phase = .ready ∧ ¬ h.machine.cancelled then h.launch else h
  | .watch, h => h.happen .watched
  | .look, h => if h.machine.phase = .running .waiting then h.lookForCredential else h
  | .probe, h => h.ask
  | .finish exit, h => if h.machine.phase.isRunning then h.endRun exit else h
  | .resume, h => h.happen .resumed
  | .leave, h => h.happen .left

variable {h : Host} {m : Move} {c : Rpc.Connection}

/-! ## §2. A move is an event. -/

end Move

end SwapBridge.Supervisor
