/-
  SwapBridge.Release.Install
  ──────────────────────────
  **INSTALLING A RELEASE.**

  The data directory keeps the archive, the programs of each target, and the
  version that was installed last.  New files are made under names of their
  own and then moved to their places, so that a fault while an archive is read
  leaves what is installed.

    • `currentVersion?` — what the version file says,
    • `place` — stores an archive and installs its programs,
    • `install` — the latest release, unless it is there already.
-/
import SwapBridge.Release.Extract
import SwapBridge.Supervisor.Config
import SwapBridge.Text.Blank

namespace SwapBridge.Release

/-! ## §1. Names of their own. -/

/-- The `n`th of the names that nothing else has. -/
def uniqueName (n : Nat) : String :=
  String.ofList ("00000000-0000-4000-8000-".toList ++ Decimal.padded 12 n)

/-- Makes a file under a name of its own, then moves it to its place. -/
def putInPlace (temporary path : String) (content : List UInt8) : Work Unit := do
  let source ← Work.resolve temporary
  Work.change (·.write source content)
  let target ← Work.resolve path
  Work.change (·.move source target)

/-! ## §2. Placing an archive. -/

/-- Extracts into a new directory that goes away again if that fails.  Being new, it holds
no links, and what is written into it is our own. -/
def extractAside (archive : List UInt8) (path : String) : Work Unit :=
  tryCatch (extract archive path) fun failure => do
    modify fun t => (t.removeDir (FileTree.locate path)).toOption.getD t
    throw failure

/-- Puts a directory in the place of another. -/
def replaceDir (source target : Location) : Work Unit := do
  if (← get).isPresent target then Work.change (·.removeDir target)
  Work.change (·.move source target)

/-- Stores the archive of a version and installs its programs.  Names of their
own are made from the number `n` on. -/
def place (dataDir : String) (t : Target) (version : String) (archive : List UInt8) (n : Nat) :
    Work Unit := do
  let within (name : String) : String := Path.join dataDir name
  Work.makeDirs dataDir
  putInPlace (within ("." ++ t.archiveName version ++ "." ++ uniqueName n))
    (within (t.archiveName version)) archive
  -- the programs are complete before they take the place of the installed ones
  let programs := within "bin"
  let staging := Path.join programs (".staging-" ++ uniqueName (n + 1))
  extractAside archive staging
  replaceDir (FileTree.locate staging) (FileTree.locate (Path.join programs t.name))
  -- the version comes last: it vouches for the programs
  putInPlace (within (".version." ++ uniqueName (n + 2))) (within "version")
    version.toUTF8.toList

/-! ## §3. Installing. -/

/-- The version that the version file names. -/
def currentVersion? (dataDir : String) (files : FileTree) : Option String := do
  let content ← (files.read (FileTree.locate (Path.join dataDir "version"))).toOption
  let s ← Archive.Tar.textOf? content
  let trimmed := Text.trim s.toList
  guard !trimmed.isEmpty
  return String.ofList trimmed

/-- Where the daemon of a target is installed. -/
def daemonPath (dataDir : String) (t : Target) : String :=
  Path.join (Path.join (Path.join dataDir "bin") t.name) daemonName

/-- Whether a version is recorded and a daemon is there for a target. -/
def isInstalled (dataDir : String) (t : Target) (version : String) (files : FileTree) : Bool :=
  currentVersion? dataDir files == some version &&
    files.isPresent (FileTree.locate (daemonPath dataDir t))

/-- Files, the server of releases, and how many names of their own were made. -/
structure Installer where
  files : FileTree := {}
  server : Server := {}
  names : Nat := 0

namespace Installer

/-- Stores and installs a version that was fetched. -/
def place (dataDir : String) (t : Target) (version : String) (archive : List UInt8)
    (i : Installer) : Except Failure String × Installer :=
  let (r, files) := (Release.place dataDir t version archive i.names).run.run i.files
  (r.map fun _ => version, { i with files, names := i.names + 3 })

/-- Installs the latest release for a target; gives its version. -/
def install (dataDir : String) (t : Target) (i : Installer) : Except Failure String × Installer :=
  let (latest, server) := i.server.latestVersion
  let i := { i with server }
  match latest with
  | none => (.error .unreachable, i)
  | some (.error refusal) => (.error (.refused refusal), i)
  | some (.ok version) =>
    if isInstalled dataDir t version i.files then (.ok version, i)
    else
      let (archive, server) := i.server.fetch version t
      let i := { i with server }
      match archive with
      | none => (.error .unreachable, i)
      | some (.error refusal) => (.error (.refused refusal), i)
      | some (.ok archive) => i.place dataDir t version archive

end Installer

end SwapBridge.Release
