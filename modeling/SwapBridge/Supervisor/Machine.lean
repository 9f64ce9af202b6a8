/-
  SwapBridge.Supervisor.Machine
  ─────────────────────────────
  **KEEPING A DAEMON RUNNING.**

  The supervisor launches the daemon, waits for its credential, asks it for
  its health, and launches it again whenever it ends, until it is told to
  stop.  Each thing that can happen is an event; `step?` says where it can
  happen and what it changes.  All published states are kept, so that what is
  published can be followed from the first state on.

  Stops may be called at any time and by several at once.  The first one that
  comes to the supervision takes it and waits for its end.  One that finds it
  taken does not wait: it returns at once, whatever is still going on.

    • `Task` — who has the supervision that was started,
    • `Machine.step?` — the effect of an event, nothing where it cannot happen,
    • `Machine.state` — the state published last.
-/
import SwapBridge.Supervisor.State

namespace SwapBridge.Supervisor

/-- How far a daemon that runs has come. -/
inductive Progress where
  | launched
  /-- Its credential is waited for. -/
  | waiting
  /-- It is asked for its health.  Without a connection it never answers. -/
  | probing (admin : Option Rpc.Connection)
  | healthy
  deriving DecidableEq, Repr

inductive Phase where
  | unstarted
  /-- The daemon is to be launched next. -/
  | ready
  | running (progress : Progress)
  /-- Between the end of a run and the next launch. -/
  | pausing
  | ended
  deriving DecidableEq, Repr

/-- Who has the supervision that was started.  Only who has it can wait for its end. -/
inductive Task where
  /-- Nobody: it was not started, or was taken and let go of. -/
  | absent
  /-- The supervisor. -/
  | kept
  /-- A stop, which waits. -/
  | taken
  deriving DecidableEq, Repr

structure Machine where
  phase : Phase := .unstarted
  task : Task := .absent
  /-- What was published so far, the last state first. -/
  published : List State := []
  /-- How many runs ended before a stop was asked for. -/
  restarts : Nat := 0
  /-- Whether a stop was asked for. -/
  cancelled : Bool := false
  /-- How many stops were called that have not come to the task yet. -/
  calls : Nat := 0
  pool : Rpc.Pool := {}
  deriving DecidableEq, Repr

inductive Event where
  | start
  | launched
  | notLaunched (fault : LaunchFault)
  /-- The supervisor begins to look for the credential. -/
  | watched
  /-- The credential is there; the token is its hexadecimal text. -/
  | credential (token : String)
  | probed (isUp : Bool)
  /-- The daemon ended, by itself or by the supervisor. -/
  | exited (exit : Exit)
  /-- The delay before the next launch is over. -/
  | resumed
  /-- The supervisor is let go of, which asks for a stop. -/
  | cancelled
  /-- The supervisor leaves before the next launch. -/
  | left
  /-- A stop is called. -/
  | called
  /-- A stop takes the task. -/
  | taken
  /-- The task that a stop waits for is over, and the stop returns. -/
  | joined
  /-- A stop finds no task, and returns. -/
  | passed
  /-- A stop is given up before it has come to the task. -/
  | withdrawn
  /-- A stop that waits is given up, and the task with it. -/
  | abandoned
  deriving DecidableEq, Repr

namespace Machine

/-- The state published last. -/
def state (m : Machine) : State := m.published.headD .idle

def publish (s : State) (m : Machine) : Machine := { m with published := s :: m.published }

/-- Moves to a phase with a new state. -/
def enter (phase : Phase) (s : State) (m : Machine) : Machine := { m.publish s with phase }

/-- The end of a run.  Only before a stop does it count as a restart. -/
def endRun (exit : Exit) (m : Machine) : Machine :=
  if m.cancelled then (m.publish (.exited exit m.restarts)).enter .ended .stopped
  else { m with restarts := m.restarts + 1 }.enter .pausing (.exited exit (m.restarts + 1))

/-- What a stop does before it returns. -/
def conclude (m : Machine) : Machine := { m with pool := m.pool.clear }.publish .stopped

/-- Whether nothing is going on, for good or for now. -/
def isAtRest (m : Machine) : Bool := m.phase == .unstarted || m.phase == .ended

/-- The effect of an event, where it can happen.  The address is the daemon's. -/
def step? (address : String) (m : Machine) : Event → Option Machine
  | .start =>
    if m.task ≠ .kept ∧ ¬ m.cancelled then some { m with phase := .ready, task := .kept } else none
  | .launched =>
    if m.phase = .ready ∧ ¬ m.cancelled then some (m.enter (.running .launched) .starting) else none
  | .notLaunched fault =>
    if m.phase = .ready ∧ ¬ m.cancelled then
      some ((m.publish .starting).endRun (.notLaunched fault))
    else none
  | .watched =>
    if m.phase = .running .launched then
      some (m.enter (.running .waiting) .waitingForCredential)
    else none
  | .credential token =>
    if m.phase = .running .waiting then
      -- without a connection the daemon can never be asked, so the machine stays in this phase
      let (connection, pool) := m.pool.connect address token none
      some ({ m with pool }.enter (.running (.probing connection.toOption)) .probingHealth)
    else none
  | .probed isUp =>
    match m.phase with
    | .running (.probing (some admin)) =>
      some (if isUp then m.enter (.running .healthy) (.healthy admin) else m)
    | _ => none
  | .exited exit =>
    match m.phase with
    | .running _ => some (m.endRun exit)
    | _ => none
  | .resumed =>
    if m.phase = .pausing ∧ ¬ m.cancelled then some { m with phase := .ready } else none
  | .cancelled => some { m with cancelled := true }
  | .left =>
    if (m.phase = .ready ∨ m.phase = .pausing) ∧ m.cancelled then some (m.enter .ended .stopped)
    else none
  | .called => some { m with cancelled := true, calls := m.calls + 1 }
  | .taken =>
    if 0 < m.calls ∧ m.task = .kept then some { m with calls := m.calls - 1, task := .taken }
    else none
  | .joined =>
    if m.task = .taken ∧ m.phase = .ended then some { m with task := .absent }.conclude else none
  | .passed =>
    -- the phase does not matter: without the task there is nothing to wait for
    if 0 < m.calls ∧ m.task ≠ .kept then some { m with calls := m.calls - 1 }.conclude else none
  | .withdrawn => if 0 < m.calls then some { m with calls := m.calls - 1 } else none
  | .abandoned => if m.task = .taken then some { m with task := .absent } else none

end Machine

end SwapBridge.Supervisor
