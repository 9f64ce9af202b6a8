/-
  SwapBridge.Service
  ──────────────────
  **THE BRIDGE AS A SERVICE.**

  The service installs the daemon unless it is given one, writes its
  configuration, starts it and waits until it is healthy.  Then it catches up
  on the swaps of all stores and follows the daemon's updates until it is
  interrupted.

    • `Options.read` — what the service is told on its command line,
    • `run` — from the start to the interrupt.
-/
import SwapBridge.CommandLine
import SwapBridge.Feed
import SwapBridge.Storage
import SwapBridge.Supervisor.Host

namespace SwapBridge.Service

open CommandLine Supervisor

/-! ## §1. Options. -/

structure Options where
  config : Supervisor.Config
  /-- The connection string of the Lightning node; standalone without one. -/
  node : Option String
  storePath : String
  /-- Seconds that the daemon has to become healthy. -/
  waitTimeout : UInt64 := 60
  deriving DecidableEq, Repr

def shape : Shape :=
  { options := [("data-dir", .path), ("rpc-host", .text), ("rpc-port", .word16),
      ("network", .text), ("node", .text), ("store-path", .path), ("daemon-binary", .path),
      ("restart-delay-secs", .word64), ("wait-timeout-secs", .word64)] }

/-- Reads the words behind the name of the service. -/
def Options.read (words : List String) : Except Refusal Options := do
  let l ← Line.read shape words
  let usual : Supervisor.Config := { dataDir := ← l.text "data-dir" }
  let config : Supervisor.Config :=
    { usual with
      rpcHost := (l.text? "rpc-host").getD usual.rpcHost
      rpcPort := ((l.number? "rpc-port").map UInt16.ofNat).getD usual.rpcPort
      network := (l.text? "network").getD usual.network
      restartDelay := ((l.number? "restart-delay-secs").map (· * 1000)).getD usual.restartDelay
      binary := l.text? "daemon-binary" }
  let storePath ← l.text "store-path"
  let timeout := (l.number? "wait-timeout-secs").map UInt64.ofNat
  return { config, node := l.text? "node", storePath, waitTimeout := timeout.getD 60 }

/-! ## §2. A run. -/

/-- What is there before and after a run; the host holds the files. -/
structure Site where
  stores : List (Location × Store) := []
  host : Host

/-- Work on a host that may fail with a report in layers. -/
abbrev Work := ExceptT (List String) (StateM Host)

/-- Takes over what a step of the host gives, or fails with a report. -/
def step {ε α : Type} (doing : String) (message : ε → List String)
    (r : Except ε α × Host) : Work α := do
  set r.2
  match r.1 with
  | .ok a => return a
  | .error e => throw (doing :: message e)

/-- Installs the latest release, unless a program is given. -/
def provideDaemon : Work Unit := do
  let h ← get
  if h.config.binary.isNone then
    let (r, installer) := h.installer.install h.config.dataDir h.target
    let _ ← step "install boltzd" (fun f => f.message?.toList) (r, { h with installer })

/-- Brings the daemon up; gives the administrator's connection. -/
def bringUp (o : Options) : Work Rpc.Connection := do
  provideDaemon
  let h ← get
  let configured := h.configureWithFallback o.node
  let h := (configured.toOption.map (·.2)).getD h
  let _ ← step "configure boltzd" (fun e => [e.message]) (configured, h)
  let started := h.start
  let h := started.toOption.getD h
  let _ ← step "start boltzd" (fun e => [e.message]) (started, h)
  step "wait for boltzd" (fun e => [e.message]) (h.wait (o.waitTimeout.toNat * 1000000000))

/-- Follows the swaps: a listener that logs, the stream of updates, and a
catch-up, whose failure is only logged. -/
def follow (store : Store) (h : Host) : Host :=
  let world : World :=
    { store, pool := h.machine.pool, daemon := h.daemon, health := h.state, platform := {} }
  let (feed, world) := (({} : Feed).listen [.log]).startStream world
  let (_, feed, world) := feed.poll .bitcoin false world
  let (_, _, world) := feed.stop world
  { h with daemon := world.daemon }

/-- From the start of the daemon to its end after the interrupt. -/
def serve (o : Options) (store : Store) : Work Unit := do
  let admin ← bringUp o
  let h ← get
  let (info, daemon) := h.daemon.getInfo admin
  let _ ← step Daemon.Method.getInfo.name (fun s => (Rpc.Error.ofStatus s).layers)
    (info, { h with daemon })
  modify fun h => (follow store h).stop

/-- A run until the interrupt: nothing, or a report in layers. -/
def run (o : Options) (s : Site) : Except (List String) Unit × Site :=
  let storage : Storage := { files := s.host.files, stores := s.stores }
  match storage.openAt o.storePath with
  | (.error f, storage) =>
    (.error ("open sqlite store" :: f.layers), { s with host := s.host.withFiles storage.files })
  | (.ok store, storage) =>
    let host := { s.host with config := o.config }.withFiles storage.files
    let (r, host) := (serve o store).run.run host
    let closed := { storage with files := host.files }.close
    (r, { stores := closed.stores, host := host.withFiles closed.files })

end SwapBridge.Service
