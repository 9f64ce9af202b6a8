/-
  SwapBridge.Main
  ───────────────
  **THE PROGRAMS.**

  After the word `serve` the bridge runs as a service, otherwise the words are
  for the administrator's tool.  Both work with a daemon in memory, and the
  administrator's macaroon is read from standard input.  Answers are printed,
  reports go to standard error, and a misused command line ends with status 2.
-/
import SwapBridge.Json.Pretty
import SwapBridge.Service
import SwapBridge.Tool.Run

namespace SwapBridge.Programs

/-- How many bytes of a macaroon are read. -/
def macaroonBytes : USize := 65536

/-- The files of a data directory that holds the macaroon, if there is one. -/
def filesWith (macaroon : List UInt8) (dataDir : String) : FileTree :=
  if macaroon.isEmpty then {}
  else ({} : FileTree).provide (adminMacaroonPath dataDir) macaroon

def refuse : CommandLine.Refusal → IO UInt32
  | .help => do
    IO.println ("commands: " ++ ", ".intercalate Tool.commandNames)
    return 0
  | .misuse => return 2

def report (layers : List String) : IO UInt32 := do
  IO.eprintln (Report.full layers)
  return 1

def runTool (macaroon : List UInt8) (words : List String) : IO UInt32 := do
  match Tool.Invocation.read words with
  | .error r => refuse r
  | .ok i =>
    let storage : Storage := { files := filesWith macaroon i.dataDir }
    match (i.run { storage, daemon := { address := i.address } }).1 with
    | .printed answer => do
      IO.println answer.writePretty
      return 0
    | .failed layers => report layers
    | .refused r => refuse r

def runService (macaroon : List UInt8) (words : List String) : IO UInt32 := do
  match Service.Options.read words with
  | .error r => refuse r
  | .ok o =>
    let files := filesWith macaroon o.config.dataDir
    let host : Supervisor.Host :=
      { config := o.config, installer := { files }, daemon := { address := o.config.address } }
    match (Service.run o { host }).1 with
    | .ok () => return 0
    | .error layers => report layers

end SwapBridge.Programs

open SwapBridge.Programs in
def main (words : List String) : IO UInt32 := do
  let macaroon ← (← IO.getStdin).read macaroonBytes
  match words with
  | "serve" :: words => runService macaroon.toList words
  | words => runTool macaroon.toList words
