/-
  SwapBridge.Storage
  ──────────────────
  **STORE FILES.**

  A store lives in a file.  Opening it makes the directory where it belongs,
  and the file itself if it is not there yet; a file of another kind is left
  alone.  While a store is open two more files stand beside it, and what it
  holds is not all in its own file.

    • `Storage.openAt` — the store at a path,
    • `Storage.writeFile` — a file that is written by somebody else.
-/
import SwapBridge.FileTree
import SwapBridge.Store

namespace SwapBridge

namespace Storage

inductive Failure where
  | createDir (path : String) (fault : FileTree.Fault)
  /-- The path has a character that ends paths, so many bytes from its beginning. -/
  | unusablePath (path : String) (position : Nat)
  /-- The path leads to a directory, or is too long. -/
  | unopenable (path : String)
  /-- The file is not a store. -/
  | foreign
  /-- The files that stand beside the store cannot be made: the name is too long
  for them, or a directory has theirs. -/
  | noRoomBeside
  /-- The store is open and its file was emptied. -/
  | locked
  deriving DecidableEq, Repr

/-- The report of a failure while a store is made ready for use. -/
def configuring (what : String) (code : Nat) (meaning : String) : List String :=
  ["configure sqlite pragmas", what, "Error code " ++ Decimal.write code ++ ": " ++ meaning]

def Failure.layers : Failure → List String
  | .createDir path fault => ["create store dir " ++ path, fault.message]
  | .unusablePath path position =>
    let reason := "nul byte found in provided data at position: " ++ Decimal.write position
    ["open sqlite " ++ path, reason, reason]
  | .unopenable path =>
    ["open sqlite " ++ path, "unable to open database file: " ++ path,
      "Error code 14: Unable to open the database file"]
  | .foreign =>
    configuring "file is not a database" 26 "File opened that is not a database file"
  | .noRoomBeside =>
    configuring "unable to open database file" 14 "Unable to open the database file"
  | .locked => configuring "database is locked" 5 "The database file is locked"

end Storage

/-- Files, and the contents of those that are stores. -/
structure Storage where
  files : FileTree := {}
  stores : List (Location × Store) := []
  /-- The store that is open. -/
  opened : Option Location := none
  deriving DecidableEq, Repr

namespace Storage

/-! ## §1. Files of a store. -/

/-- What the file of a store begins with. -/
def signature : List UInt8 := "SQLite format 3\x00".toUTF8.toList

/-- What the ends of the names of the files beside an open store are. -/
def besides : List String := ["-wal", "-shm"]

/-- The longest end of a name that a store needs beside its own file. -/
def longestBeside : String := "-journal"

/-- The longest path of a store, in bytes, once nothing in it leads back. -/
def pathLimit : Nat := 504

/-- The longest path on the way to it. -/
def wayLimit : Nat := 511

/-- The location with something added to its name. -/
def extended (l : Location) (ending : String) : Location :=
  l.dropLast ++ [l.getLastD "" ++ ending]

/-- Keeps a store under a location. -/
def save (s : Storage) (l : Location) (store : Store) : Storage :=
  { s with stores := (l, store) :: s.stores.filter (·.1 != l) }

/-- Closes the store that is open: all that it holds is in its file again. -/
def close (s : Storage) : Storage :=
  match s.opened with
  | none => s
  | some l =>
    let files := besides.foldl (fun t ending => t.erase (extended l ending)) s.files
    { s with files := files.put l (.file signature false), opened := none }

/-- Marks a store as open, with the files beside it. -/
def enter (s : Storage) (l : Location) : Storage :=
  if s.opened = some l then s
  else
    let s := s.close
    let files := besides.foldl (fun t ending => t.put (extended l ending) (.file signature false))
      (s.files.put l (.file signature false))
    { s with files, opened := some l }

/-! ## §2. Opening. -/

/-- The content of the file at a location, if there is one. -/
def content? (s : Storage) (l : Location) : Option (List UInt8) :=
  match s.files.get? l with
  | some (.file content _) => some content
  | _ => none

/-- Whether a directory is where a file beside the store would be. -/
def isCrowded (s : Storage) (l : Location) : Bool :=
  ["-journal", "-wal"].any fun ending => s.files.get? (extended l ending) == some .directory

/-- How many bytes a location has as a path. -/
def pathLength (l : Location) : Nat := l.foldl (fun n name => n + name.utf8ByteSize + 1) 0

/-- Whether a path is too long where it leads, or anywhere on the way. -/
def isTooLong (path : String) : Bool :=
  let parts := Path.parts path
  let way := (List.range (parts.length + 1)).map fun n =>
    FileTree.locate ("/".intercalate (parts.take n))
  pathLimit < pathLength (FileTree.locate path) || way.any (wayLimit < pathLength ·)

/-- Whether a file counts as empty; a single byte is nothing. -/
def isEmpty (content : List UInt8) : Bool := content.length ≤ 1

/-- Why the store at a path cannot be opened, once its directory is there. -/
def obstacle? (s : Storage) (path : String) (l : Location) : Option Failure :=
  let name := l.getLastD ""
  let content := s.content? l
  if path.contains '\x00' then
    some (.unusablePath path (String.ofList (path.toList.takeWhile (· != '\x00'))).utf8ByteSize)
  else if isTooLong path || FileTree.nameLimit < name.utf8ByteSize ||
      s.files.get? l == some .directory then
    some (.unopenable path)
  else if s.opened = some l then
    if content.any isEmpty then some .locked else none
  else if content.any (!isEmpty ·) && (s.stores.lookup l).isNone then some .foreign
  else if FileTree.nameLimit < (name ++ longestBeside).utf8ByteSize || s.isCrowded l then
    some .noRoomBeside
  else none

/-- Opens the store at a path, a new one where there is none. -/
def openAt (s : Storage) (path : String) : Except Failure Store × Storage :=
  let dir := Path.parent path
  let (made, files) := if dir.isEmpty then (.ok (), s.files) else s.files.makeDirs dir
  let s := { s with files }
  let l := FileTree.locate path
  match made with
  | .error fault => (.error (.createDir dir fault), s)
  | .ok () =>
    match s.obstacle? path l with
    | some failure => (.error failure, s)
    | none =>
      -- a store that was opened before is found again with all it holds
      let store := (s.stores.lookup l).getD .empty
      (.ok store, (s.save l store).enter l)

/-! ## §3. Other files. -/

/-- Writes a file where that can be done.  A store that was there is gone, unless it is open. -/
def writeFile (s : Storage) (path : String) (content : List UInt8) : Storage :=
  let l := FileTree.locate path
  let files := s.files.provide path content
  let stores := if s.opened = some l then s.stores else s.stores.filter (·.1 != l)
  { s with files, stores }

end Storage

end SwapBridge
