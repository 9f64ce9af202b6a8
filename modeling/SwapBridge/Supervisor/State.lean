/-
  SwapBridge.Supervisor.State
  ───────────────────────────
  **THE STATE OF A SUPERVISED DAEMON.**

  The supervisor publishes one state after the other.  Only in the healthy
  state is there a connection for the administrator.
-/
import SwapBridge.Rpc.Connection
import SwapBridge.Signal

namespace SwapBridge.Supervisor

/-- Why a program could not be launched. -/
inductive LaunchFault where
  | notFound
  | notPermitted
  | notExecutable
  /-- A file stands where a directory is named. -/
  | notDirectory
  /-- The log cannot be written because a directory has its name. -/
  | logIsDirectory
  /-- The log cannot be written because its directory is missing. -/
  | logDirectoryMissing
  deriving DecidableEq, Repr

def LaunchFault.message : LaunchFault → String
  | .notFound | .logDirectoryMissing => "No such file or directory (os error 2)"
  | .notPermitted => "Permission denied (os error 13)"
  | .notExecutable => "Exec format error (os error 8)"
  | .notDirectory => "Not a directory (os error 20)"
  | .logIsDirectory => "Is a directory (os error 21)"

/-- How a run of the daemon ended. -/
inductive Exit where
  | status (code : Nat)
  | signal (number : Nat)
  | notLaunched (fault : LaunchFault)
  /-- Ended by the supervisor. -/
  | killed
  deriving DecidableEq, Repr

def Exit.message : Exit → String
  | .status code => "exit status: " ++ Decimal.write code
  | .signal n => Signal.write n
  | .notLaunched fault => "spawn failed: " ++ fault.message
  | .killed => "killed"

inductive State where
  | idle
  | starting
  | waitingForCredential
  | probingHealth
  | healthy (admin : Rpc.Connection)
  | exited (exit : Exit) (restarts : Nat)
  | stopped
  deriving DecidableEq, Repr

def State.name : State → String
  | .idle => "Idle"
  | .starting => "Starting"
  | .waitingForCredential => "WaitingForCredential"
  | .probingHealth => "ProbingHealth"
  | .healthy _ => "Healthy"
  | .exited .. => "Exited"
  | .stopped => "Stopped"

/-- The administrator's connection, present in the healthy state alone. -/
def State.admin? : State → Option Rpc.Connection
  | .healthy admin => some admin
  | _ => none

def State.isHealthy (s : State) : Bool := s.admin?.isSome

end SwapBridge.Supervisor
