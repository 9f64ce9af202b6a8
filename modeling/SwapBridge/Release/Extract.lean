/-
  SwapBridge.Release.Extract
  ──────────────────────────
  **TAKING THE PROGRAMS OUT OF AN ARCHIVE.**

  Two names count, wherever in the archive they stand.  Each program is
  written as it is met, so a later fault leaves what came before it.

    • `programs` — what an archive holds for us, in the order of the archive,
    • `extract` — writes it into a directory,
    • `extractDaemon` — the same, and where the daemon stands then.
-/
import SwapBridge.Archive.Tar
import SwapBridge.FileTree
import SwapBridge.Release.Server

namespace SwapBridge.Release

inductive Failure where
  | unsupported (u : Unsupported)
  | refused (r : Refusal)
  /-- The server did not answer. -/
  | unreachable
  /-- The archive cannot be read to its end. -/
  | unreadable
  | missing (program : String)
  /-- A file or directory could not be made or changed. -/
  | files (fault : FileTree.Fault)
  deriving DecidableEq, Repr

def Failure.message? : Failure → Option String
  | .unsupported u => some u.message
  | .refused r => some r.message
  | .missing program => some ("archive does not contain `" ++ program ++ "`")
  | _ => none

/-- Work on a file tree that may fail halfway. -/
abbrev Work := ExceptT Failure (StateM FileTree)

namespace Work

/-- Changes the tree, or fails and leaves it. -/
def change (f : FileTree → Except FileTree.Fault FileTree) : Work Unit := do
  match f (← get) with
  | .ok t => set t
  | .error fault => throw (.files fault)

/-- Makes a directory with all that lead to it. -/
def makeDirs (path : String) : Work Unit := do
  let (made, t) := (← get).makeDirs path
  set t
  match made with
  | .ok () => return ()
  | .error fault => throw (.files fault)

/-- Where a path leads. -/
def resolve (path : String) : Work Location := do
  match (← get).resolve path with
  | .ok l => return l
  | .error fault => throw (.files fault)

end Work

/-! ## §1. What an archive holds. -/

/-- The daemon's name. -/
def daemonName : String := "boltzd"

/-- The name of the tool that comes with it. -/
def toolName : String := "boltzcli"

/-- The last name on a path, if it is one; single dots and slashes at the end
say nothing, and two dots lead back. -/
def fileName? (path : List UInt8) : Option (List UInt8) :=
  let names := (path.splitOn '/'.toUInt8).filter fun name => name != [] && name != ".".toUTF8.toList
  names.getLast?.filter (· != "..".toUTF8.toList)

/-- The program that a member of an archive is. -/
def program? (m : Archive.Tar.Member) : Option (String × List UInt8) :=
  if m.isRegular then
    ([daemonName, toolName].find? fun name => fileName? m.path == some name.toUTF8.toList).map
      (·, m.content)
  else none

structure Contents where
  /-- The programs met before the end or the first fault. -/
  programs : List (String × List UInt8)
  complete : Bool
  deriving DecidableEq, Repr

def contents (archive : List UInt8) : Contents :=
  let r := Archive.Tar.read (Archive.Gzip.unpack archive)
  ⟨r.members.filterMap program?, r.complete⟩

/-! ## §2. Writing it. -/

/-- Writes a program into a directory; everyone may run it.  A link in its place is followed. -/
def writeProgram (mount : FileTree.Mount) (dir : Location) (name : String)
    (content : List UInt8) : Work Unit := do
  Work.change (mount.write (dir ++ [name]) content)
  Work.change (mount.setExecutable (dir ++ [name]) true)

/-- Writes the programs of an archive into a directory that is made for them. -/
def extract (archive : List UInt8) (path : String) (mount : FileTree.Mount := {}) :
    Work Unit := do
  Work.makeDirs path
  let dir ← Work.resolve path
  let found := contents archive
  found.programs.forM fun (name, content) => writeProgram mount dir name content
  if !found.complete then throw .unreadable
  else if !found.programs.any (·.1 == daemonName) then throw (.missing daemonName)

/-- Writes the programs of an archive into a directory; gives the path of the daemon. -/
def extractDaemon (archive : List UInt8) (path : String) (mount : FileTree.Mount := {}) :
    Work String := do
  extract archive path mount
  return Path.join path daemonName

end SwapBridge.Release
