/-
  SwapBridge.Supervisor.Program
  ─────────────────────────────
  **PROGRAMS THAT ARE RUN AS THE DAEMON.**

  What a program does is known from the start, apart from what it waits for: a
  file, or a signal from outside.  Its output goes to the log.

    • `Program.ofContent` — the program that a file is, by its first line,
    • `Program.ofPath` — the program that every machine has at a path,
    • `Program.opening` — what a program does at once.
-/
import SwapBridge.FileTree
import SwapBridge.Shell.Interpreter
import SwapBridge.Shell.Run
import SwapBridge.Supervisor.State

namespace SwapBridge.Supervisor

inductive Program where
  /-- Runs until it is killed. -/
  | lasting
  /-- Runs until the file `stop` is in the data directory. -/
  | untilStopFile
  /-- Fails so many times, then makes the credential and runs until it is killed. -/
  | lateBloomer (crashes : Nat)
  /-- A script for the shell.  `strict` says whether its first failure ends it. -/
  | script (text : String) (strict : Bool)
  /-- A program of the machine, with words before those that the daemon is given. -/
  | external (path : String) (words : List String)
  deriving DecidableEq, Repr

/-- What a program does at once. -/
structure Opening where
  output : String := ""
  /-- What it writes into the file of the credential. -/
  credential : Option String := none
  /-- How long it pauses before it ends, in nanoseconds. -/
  pause : Nat := 0
  /-- How it ends, if it does not wait. -/
  exit : Option Exit := none
  deriving DecidableEq, Repr

/-- How a program ends, if it does. -/
def exitOf? : Shell.Fate → Option Exit
  | .ends status => some (.status status)
  | .dies signal => some (.signal signal)
  | .goesOn | .lasts => none

def Opening.ofOutcome (o : Shell.External.Outcome) : Opening :=
  { output := o.output ++ o.complaint, pause := o.pause, exit := exitOf? o.fate }

namespace Program

/-! ## §1. Files as programs. -/

/-- Directories that a machine has besides those of programs. -/
def directories : List String :=
  ["", "bin", "boot", "dev", "etc", "home", "lib", "media", "mnt", "opt", "proc", "root", "run",
    "sbin", "srv", "sys", "tmp", "usr", "usr/bin", "usr/lib", "usr/local", "usr/local/bin",
    "usr/sbin", "usr/share", "var", "var/lib", "var/log", "var/tmp"]

/-- The program that finds another one by its name. -/
def finder : String := "env"

def isProgram (name : String) : Bool := (Shell.External.run? name name []).isSome

/-- A program by its name, and how it is told to read the script at a path. -/
def ofName (name : String) (i : Shell.Interpreter) (path text : String) : Program :=
  let found := if name = finder then Shell.External.nameOf (i.word.getD "") else name
  if Shell.External.shells.contains found then
    .script text (i.word.any fun w => w.toList.head? == some '-' && w.toList.contains 'e')
  -- it finds the script itself, over and over
  else if name = finder && i.word.isNone then .lasting
  else .external i.path (i.word.toList ++ [path])

/-- The name of the machine's program at a path. -/
def nameAt (path : String) : Except LaunchFault String :=
  let names := FileTree.locate path
  let endsInSlash := path.toList.getLast? == some '/'
  let program := match names with
    | "bin" :: name :: rest | "usr" :: "bin" :: name :: rest =>
      if isProgram name then some (name, rest) else none
    | _ => none
  if !Path.isAbsolute path then .error .notFound
  else if directories.contains ("/".intercalate names) then .error .notPermitted
  else match program with
    | some (name, []) => if endsInSlash then .error .notDirectory else .ok name
    | some (_, _ :: _) => .error .notDirectory
    | none => .error .notFound

/-- The machine's program at a path. -/
def ofPath (path : String) : Except LaunchFault Program :=
  (nameAt path).map fun _ => .external path []

/-- Whether the machine has anything at a path. -/
def isOnMachine (path : String) : Bool :=
  match nameAt path with
  | .ok _ | .error .notPermitted => true
  | .error _ => false

/-- The program that a file at a path is.  A first line that names nothing names
the directory that one is in. -/
def ofContent (path : String) (content : List UInt8) : Except LaunchFault Program :=
  match Shell.Interpreter.ofContent? content with
  | none => .error .notExecutable
  | some i =>
    if i.path.isEmpty then .error .notPermitted
    else (nameAt i.path).map fun name => ofName name i path (Utf8.read content)

/-! ## §2. Running. -/

/-- What a program at a path does at once, after `n` runs of it. -/
def opening (path : String) (arguments : List String) (n : Nat) : Program → Opening
  | .lasting | .untilStopFile => {}
  | .lateBloomer crashes =>
    if n < crashes then { exit := some (.status 1) } else { credential := some "late" }
  | .script text strict =>
    .ofOutcome ((Shell.Script.ofText text).run { name := path, arguments, strict })
  | .external program words =>
    ((Shell.External.run? (Shell.External.nameOf program) program (words ++ arguments)).map
      Opening.ofOutcome).getD {}

end Program

end SwapBridge.Supervisor
