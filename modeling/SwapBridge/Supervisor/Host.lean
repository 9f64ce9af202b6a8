/-
  SwapBridge.Supervisor.Host
  ──────────────────────────
  **A SUPERVISOR AT WORK.**

  The host has the files, the program that is run as the daemon, a clock, and
  the daemon that answers calls.  It decides which event comes next; the
  machine says what the event changes.

    • `Host.start`, `Host.stop`, `Host.wait` — what can be asked of a supervisor,
    • `Host.advance?` — the next event, if there is one at the present time.
-/
import SwapBridge.Daemon.Basic
import SwapBridge.Release.Install
import SwapBridge.Supervisor.Machine
import SwapBridge.Supervisor.Program
import SwapBridge.Text.Duration
import SwapBridge.Text.Utf8

namespace SwapBridge.Supervisor

/-- What is run in place of the installed daemon. -/
inductive Binary where
  | missing
  | directory
  | program (p : Program) (executable : Bool)
  deriving DecidableEq, Repr

/-- A program that runs, and how it ends. -/
structure Process where
  program : Program
  exit : Option Exit
  /-- When it ends, in nanoseconds since the beginning. -/
  due : Nat := 0
  deriving DecidableEq, Repr

structure Host where
  config : Config
  /-- What stands at the path of the configured program. -/
  binary : Option Binary := none
  target : Release.Target := ⟨.linux, .amd64⟩
  installer : Release.Installer := {}
  daemon : Daemon
  machine : Machine := {}
  process : Option Process := none
  /-- How many programs were launched. -/
  launches : Nat := 0
  /-- Nanoseconds since the beginning. -/
  clock : Nat := 0
  /-- When the supervisor goes on. -/
  wake : Nat := 0

namespace Host

def files (h : Host) : FileTree := h.installer.files

def withFiles (h : Host) (files : FileTree) : Host :=
  { h with installer := { h.installer with files } }

def state (h : Host) : State := h.machine.state

/-- Lets an event happen, where it can. -/
def happen (e : Event) (h : Host) : Host :=
  match h.machine.step? h.config.address e with
  | some machine => { h with machine }
  | none => h

/-! ## §1. Configuring. -/

inductive ConfigureFault where
  | descriptor (e : ConnectionString.Error)
  | files (path : String) (fault : FileTree.Fault)
  deriving DecidableEq, Repr

/-- The layers of the report of a failure. -/
def ConfigureFault.message : ConfigureFault → String
  | .descriptor e => e.message
  | .files path fault => "write " ++ path ++ ": " ++ fault.message

/-- Writes the configuration for a node. -/
def writeConfig (node : LightningNode) (h : Host) : Except ConfigureFault Host :=
  let content := (h.config.settings.render node).toUTF8.toList
  let (made, files) := h.files.makeDirs h.config.dataDir
  let written := do
    made
    files.write (FileTree.locate h.config.configPath) content
  (written.map h.withFiles).mapError (.files h.config.configPath)

/-- Writes the configuration for the node that a descriptor names; none is standalone. -/
def configure (descriptor : Option String) (h : Host) :
    Except ConfigureFault (LightningNode × Host) := do
  let node ← match descriptor with
    | some s => (ConnectionString.read s).mapError .descriptor
    | none => pure .standalone
  return (node, ← h.writeConfig node)

/-- The same, standalone where the descriptor is rejected. -/
def configureWithFallback (descriptor : Option String) (h : Host) :
    Except ConfigureFault (LightningNode × Host) :=
  match h.configure descriptor with
  | .error (.descriptor _) => h.configure none
  | r => r

/-! ## §2. Starting. -/

inductive StartFault where
  | missingBinary (path : String)
  | notConfigured (path : String)
  | alreadyRunning
  | stopped
  deriving DecidableEq, Repr

def StartFault.message : StartFault → String
  | .missingBinary path => "boltzd binary not found at " ++ path
  | .notConfigured path => "boltzd config not found at " ++ path
  | .alreadyRunning => "boltzd is already running"
  | .stopped => "supervisor was stopped"

/-- Where the program to run is. -/
def binaryPath (h : Host) : String :=
  h.config.binary.getD (Release.daemonPath h.config.dataDir h.target)

def hasBinary (h : Host) : Bool :=
  match h.binary with
  | some b => b != .missing
  | none => h.files.isPresent (FileTree.locate h.binaryPath) || Program.isOnMachine h.binaryPath

/-- Starts the supervision; the daemon is launched later. -/
def start (h : Host) : Except StartFault Host :=
  if h.machine.cancelled then .error .stopped
  else if h.machine.task = .kept then .error .alreadyRunning
  else if !h.hasBinary then .error (.missingBinary h.binaryPath)
  else if !h.files.isPresent (FileTree.locate h.config.configPath) then
    .error (.notConfigured h.config.configPath)
  else .ok (h.happen .start)

/-! ## §3. Launching. -/

/-- The program that stands at the path, if it can be run. -/
def program (h : Host) : Except LaunchFault Program :=
  match h.binary with
  | some .missing => .error .notFound
  | some .directory => .error .notPermitted
  | some (.program p executable) => if executable then .ok p else .error .notPermitted
  | none =>
    match h.files.get? (FileTree.locate h.binaryPath) with
    | none => Program.ofPath h.binaryPath
    | some .directory => .error .notPermitted
    | some (.file content executable) =>
      if !executable then .error .notPermitted
      else Program.ofContent h.binaryPath content

/-- Adds to the log, which is made where it is missing. -/
def log (output : String) (h : Host) : Except LaunchFault Host :=
  let l := FileTree.locate h.config.logPath
  let content := match h.files.get? l with
    | some (.file content _) => content
    | _ => []
  match h.files.write l (content ++ output.toUTF8.toList) with
  | .ok files => .ok (h.withFiles files)
  | .error .isDirectory => .error .logIsDirectory
  | .error _ => .error .logDirectoryMissing

/-- What the daemon is told on its command line. -/
def arguments (h : Host) : List String :=
  ["--datadir", h.config.dataDir, "--configfile", h.config.configPath]

/-- Makes the file of the credential. -/
def writeCredential (content : String) (h : Host) : Host :=
  h.withFiles (h.files.provide h.config.macaroonPath content.toUTF8.toList)

/-- Runs the program: its first output, its effects, and the process. -/
def run (p : Program) (h : Host) : Except LaunchFault Host := do
  let opening := p.opening h.binaryPath h.arguments h.launches
  let h ← h.log opening.output
  let h := match opening.credential with
    | some content => h.writeCredential content
    | none => h
  let process : Process := ⟨p, opening.exit, h.clock + opening.pause⟩
  return { h with process := some process, launches := h.launches + 1 }

/-- Between two questions to a daemon that is not healthy yet: half a second. -/
def retryDelay : Nat := 500 * 1000000

/-- When the next launch is due after a run that ends now. -/
def nextLaunch (h : Host) : Nat := h.clock + h.config.restartDelay * 1000000

/-- Launches the daemon.  The log is opened first. -/
def launch (h : Host) : Host :=
  let launched := do
    let h ← h.log ""
    h.run (← h.program)
  match launched with
  | .ok h => { h.happen .launched with wake := h.clock }
  | .error fault =>
    -- the log is there even when nothing could be launched
    let h := (h.log "").toOption.getD h
    { h.happen (.notLaunched fault) with wake := h.nextLaunch }

/-! ## §4. Going on. -/

/-- How the process ended, if it did. -/
def exit? (h : Host) : Option Exit := do
  let process ← h.process
  match process.exit, process.program with
  | some exit, _ => if process.due ≤ h.clock then some exit else none
  | none, .untilStopFile =>
    if h.files.isPresent (FileTree.locate (Path.join h.config.dataDir "stop")) then
      some (.status 0)
    else none
  | none, _ => none

/-- The end of a run. -/
def endRun (exit : Exit) (h : Host) : Host :=
  { h.happen (.exited exit) with process := none, wake := h.nextLaunch }

/-- Looks for the credential; an empty one is none. -/
def lookForCredential (h : Host) : Host :=
  match h.files.read (FileTree.locate h.config.macaroonPath) with
  | .ok (b :: bs) => h.happen (.credential (Hex.ofBytes (b :: bs)))
  | _ => { h with wake := h.clock + retryDelay }

/-- Asks the daemon for its health. -/
def probe (admin : Rpc.Connection) (h : Host) : Host :=
  let (r, daemon) := h.daemon.getInfo admin
  let h := { h with daemon }
  match r with
  | .ok _ => h.happen (.probed true)
  | .error _ => { h.happen (.probed false) with wake := h.clock + retryDelay }

/-- The next event, if there is one at the present time. -/
def advance? (h : Host) : Option Host :=
  let isDue := h.wake ≤ h.clock
  match h.machine.phase with
  | .unstarted | .ended => none
  | .ready => some (if h.machine.cancelled then h.happen .left else h.launch)
  | .pausing =>
    if h.machine.cancelled then some (h.happen .left)
    else if isDue then some (h.happen .resumed) else none
  | .running progress =>
    -- a stop waits for the program where it ends by itself, and kills it otherwise
    if h.machine.cancelled then some (h.endRun (h.exit?.getD .killed))
    else if progress = .launched then some (h.happen .watched)
    else match h.exit?, progress with
      | some exit, _ => some (h.endRun exit)
      | none, .waiting => if isDue then some h.lookForCredential else none
      | none, .probing (some admin) => if isDue then some (h.probe admin) else none
      | none, _ => none

/-- When the program that runs ends by itself. -/
def due? (h : Host) : Option Nat := do
  let process ← h.process
  guard process.exit.isSome
  return process.due

/-- When time alone brings the next event. -/
def nextTime? (h : Host) : Option Nat :=
  let wake := match h.machine.phase with
    | .pausing | .running .waiting | .running (.probing (some _)) => some h.wake
    | _ => none
  let due := match h.machine.phase with
    | .running _ => h.due?
    | _ => none
  ((wake.toList ++ due.toList).filter (h.clock < ·)).min?

/-- Goes on, over delays as well, until a goal is reached; `n` events at most. -/
def goOn (goal : Host → Bool) : Nat → Host → Host
  | 0, h => h
  | n + 1, h =>
    if goal h then h
    else match h.advance? with
      | some h => goOn goal n h
      | none =>
        match h.nextTime? with
        | some clock => goOn goal n { h with clock }
        | none => h

/-- How many events are waited for at most. -/
def patience : Nat := 100000

def await (goal : Host → Bool) (h : Host) : Host := h.goOn goal patience

/-! ## §5. Waiting. -/

inductive WaitFault where
  | timeout (ns : Nat) (lastExit : Option Exit)
  | stopped
  deriving DecidableEq, Repr

def WaitFault.message : WaitFault → String
  | .timeout ns lastExit =>
    "boltzd did not become healthy within " ++ Duration.write ns ++ " (last exit: " ++
      (lastExit.map Exit.message).getD "none" ++ ")"
  | .stopped => "supervisor was stopped"

/-- Waits for health until a time; `n` events at most. -/
def waitUntil (deadline ns : Nat) : Nat → Option Exit → Host →
    Except WaitFault Rpc.Connection × Host
  | n, lastExit, h =>
    let lastExit := match h.state with
      | .exited exit _ => some exit
      | _ => lastExit
    let late : Except WaitFault Rpc.Connection × Host :=
      (.error (.timeout ns lastExit), { h with clock := deadline })
    match h.state, n with
    | .healthy admin, _ => (.ok admin, h)
    | .stopped, _ => (.error .stopped, h)
    | _, 0 => late
    | _, n + 1 =>
      if deadline ≤ h.clock then late
      else match h.advance? with
        | some h => waitUntil deadline ns n lastExit h
        | none =>
          match h.nextTime? with
          | some clock =>
            if clock < deadline then waitUntil deadline ns n lastExit { h with clock } else late
          | none => late

/-- Waits so many nanoseconds for health. -/
def wait (ns : Nat) (h : Host) : Except WaitFault Rpc.Connection × Host :=
  h.waitUntil (h.clock + ns) ns patience none

/-! ## §6. Stopping. -/

/-- The first part of a stop: it is put on record, and a healthy daemon is asked to end. -/
def callStop (h : Host) : Host :=
  let admin := h.state.admin?
  -- the stop is on record before the daemon is asked, or its end would count as a restart
  let h := h.happen .called
  match admin with
  | some c => { h with daemon := (h.daemon.stop c).2 }
  | none => h

/-- Stops the daemon and the supervision.  Where another stop has the task of the
supervision, there is nothing to wait for. -/
def stop (h : Host) : Host :=
  let h := h.callStop
  if h.machine.task = .kept then
    ((h.happen .taken).await (·.machine.isAtRest)).happen .joined
  else h.happen .passed

/-- Sends a signal to the program, once it runs.  Not every signal ends it. -/
def kill (signal : Nat) (h : Host) : Host :=
  let h := h.await (·.process.isSome)
  if Signal.effect signal = .ends then
    { h with process := h.process.map fun p => { p with exit := some (.signal signal), due := 0 } }
  else h

end Host

end SwapBridge.Supervisor
