/-
  SwapBridge.Proofs.Supervisor.Host
  ─────────────────────────────────
  **WHAT A HOST TELLS ITS MACHINE.**

  Whatever a host does for its supervisor, it tells the machine one event, or
  none.  Which one it is depends on the files, the program and the daemon; all
  else that a host does leaves the machine alone.

    • `launchEvent`, `found?`, `answer?` — the event, as the host finds it,
    • `Responds` — an event, or none, is all that the supervisor gets to know,
    • `responds_launch`, `responds_lookForCredential`, `responds_probe`, … — one
      lemma for each thing that a host does.
-/
import SwapBridge.Proofs.Supervisor.Machine
import SwapBridge.Supervisor.Host

namespace SwapBridge.Supervisor.Host

/-! ## §1. What a host finds. -/

/-- An attempt to launch the program, as `launch` makes it. -/
def launched (h : Host) : Except LaunchFault Host := do
  let h ← h.log ""
  h.run (← h.program)

/-- Asks the daemon for its health, while that is what the supervisor waits for. -/
def ask (h : Host) : Host :=
  match h.machine.phase with
  | .running (.probing (some admin)) => h.probe admin
  | _ => h

variable {h h' : Host} {e : Event} {output : String} {p : Program}

/-- What a machine is after an event, or after none.  The channels are shared
with others, who may change them at any time. -/
def Answers (address : String) (m : Machine) : Option Event → Machine → Prop
  | some e, m' => m' = (m.step? address e).getD m
  | none, m' => ∃ pool, m' = { m with pool }

/-- The supervisor launches next, unless a stop is asked for before. -/
def IsReady (h : Host) : Prop := h.machine.phase = .ready ∧ h.machine.cancelled = false

/-- A host does something for its supervisor that comes to an event, or to none.
Programs are launched by a supervisor that is ready for it. -/
structure Responds (h : Host) (e : Option Event) (h' : Host) : Prop where
  config_eq : h'.config = h.config
  answers : Answers h.config.address h.machine e h'.machine
  launches_eq : ¬ h.IsReady → h'.launches = h.launches

/-- Only the machine and its settings matter for the answer: files, clocks and the daemon
may differ beforehand. -/
theorem Responds.of_eq {h₁ : Host} {e : Option Event} (hresponds : Responds h₁ e h')
    (hconfig : h₁.config = h.config) (hmachine : h₁.machine = h.machine)
    (hlaunches : ¬ h.IsReady → h₁.launches = h.launches) : Responds h e h' where
  config_eq := hresponds.config_eq.trans hconfig
  answers := by
    rw [← hconfig, ← hmachine]
    exact hresponds.answers
  launches_eq hbusy := by
    have hbusy₁ : ¬ h₁.IsReady := by
      unfold IsReady
      rw [hmachine]
      exact hbusy
    rw [hresponds.launches_eq hbusy₁, hlaunches hbusy]

end SwapBridge.Supervisor.Host
