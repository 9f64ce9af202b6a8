/-
  SwapBridge.Release.Target
  ─────────────────────────
  **WHAT A RELEASE IS BUILT FOR.**

  Releases come as one archive per operating system and processor.  Their
  names differ from those that machines give themselves.
-/

namespace SwapBridge.Release

inductive System where
  | linux
  | darwin
  deriving DecidableEq, Repr

inductive Processor where
  | amd64
  | arm64
  deriving DecidableEq, Repr

structure Target where
  system : System
  processor : Processor
  deriving DecidableEq, Repr

def System.name : System → String
  | .linux => "linux"
  | .darwin => "darwin"

def Processor.name : Processor → String
  | .amd64 => "amd64"
  | .arm64 => "arm64"

/-- The system behind the name that a machine reports. -/
def System.ofMachine? (s : String) : Option System :=
  if s = "linux" then some .linux
  else if s = "macos" then some .darwin
  else none

/-- The processor behind the name that a machine reports. -/
def Processor.ofMachine? (s : String) : Option Processor :=
  if s = "x86_64" then some .amd64
  else if s = "aarch64" then some .arm64
  else none

/-- A machine that no release is built for.  A system that is known is given by
its release name. -/
structure Unsupported where
  system : String
  processor : String
  deriving DecidableEq, Repr

def Unsupported.message (u : Unsupported) : String :=
  "no release artifact for " ++ u.system ++ "/" ++ u.processor

namespace Target

def name (t : Target) : String := t.system.name ++ "-" ++ t.processor.name

/-- The target for a machine that reports these names. -/
def ofMachine (system processor : String) : Except Unsupported Target :=
  match System.ofMachine? system with
  | none => .error ⟨system, processor⟩
  | some s =>
    match Processor.ofMachine? processor with
    | none => .error ⟨s.name, processor⟩
    | some p => .ok ⟨s, p⟩

/-- The file name of a version's archive. -/
def archiveName (t : Target) (version : String) : String :=
  "boltz-client-" ++ t.name ++ "-" ++ version ++ ".tar.gz"

end Target

/-- Where the project publishes its releases. -/
def downloads : String := "https://github.com/BoltzExchange/boltz-client/releases/download"

/-- Where a version's archive for a target is found; the version is not escaped. -/
def archiveAddress (version : String) (t : Target) : String :=
  downloads ++ "/" ++ version ++ "/" ++ t.archiveName version

end SwapBridge.Release
