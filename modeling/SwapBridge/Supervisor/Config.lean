/-
  SwapBridge.Supervisor.Config
  ────────────────────────────
  **WHERE A SUPERVISED DAEMON LIVES.**

  All files of the daemon are in one data directory, under fixed names.
-/
import SwapBridge.Node.Config
import SwapBridge.Release.Target

namespace SwapBridge.Supervisor

structure Config where
  dataDir : String
  network : String := "mainnet"
  rpcHost : String := "127.0.0.1"
  rpcPort : UInt16 := 9002
  /-- Milliseconds between the end of the daemon and its next start. -/
  restartDelay : Nat := 5000
  /-- Milliseconds that the daemon has for a stop it was asked for. -/
  stopGrace : Nat := 10000
  /-- A program to run in place of the installed daemon. -/
  binary : Option String := none
  deriving DecidableEq, Repr

namespace Config

def address (c : Config) : String :=
  "http://" ++ c.rpcHost ++ ":" ++ Decimal.write c.rpcPort.toNat

def configPath (c : Config) : String := Path.join c.dataDir "boltz.toml"

def macaroonPath (c : Config) : String := adminMacaroonPath c.dataDir

def versionPath (c : Config) : String := Path.join c.dataDir "version"

def logPath (c : Config) : String := Path.join c.dataDir "boltzd.log"

def binDir (c : Config) (t : Release.Target) : String :=
  Path.join (Path.join c.dataDir "bin") t.name

/-- What the daemon is told about itself. -/
def settings (c : Config) : DaemonSettings :=
  ⟨c.network, c.rpcHost, c.rpcPort, c.dataDir⟩

end Config

end SwapBridge.Supervisor
