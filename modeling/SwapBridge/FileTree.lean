/-
  SwapBridge.FileTree
  ───────────────────
  **FILES AND DIRECTORIES.**

  A tree is a list of entries by location, the names on the way from the root.
  Locations are compared name by name, so a directory stands before what it
  holds and everything below it stands together.

  A tree holds directories and files, and no links.  A path that leads through
  a link to a directory is taken as the path that it leads to.  Links to files,
  and files that belong to others, are what a `Mount` adds to a tree.

    • `FileTree.write` — a file in a directory that is there,
    • `FileTree.makeDirs` — a directory with all that lead to it, along a path,
    • `FileTree.move`, `FileTree.remove` — whole subtrees,
    • `FileTree.below` — what a directory holds, depth first and by name,
    • `FileTree.Mount` — operations that follow links and ask for permission.
-/
import SwapBridge.Path

namespace SwapBridge

/-- The names on the way from the root. -/
abbrev Location := List String

namespace FileTree

inductive Entry where
  | directory
  | file (content : List UInt8) (executable : Bool)
  deriving DecidableEq, Repr

def Entry.isDirectory : Entry → Bool
  | .directory => true
  | .file _ _ => false

/-- Why a file operation fails. -/
inductive Fault where
  | notFound
  | exists
  | notDirectory
  | isDirectory
  | notEmpty
  | nameTooLong
  /-- A name holds the character that ends names. -/
  | unusableName
  /-- Links lead to each other. -/
  | endlessLinks
  /-- The permissions of the file are not ours to change. -/
  | notPermitted
  deriving DecidableEq, Repr

def Fault.message : Fault → String
  | .notFound => "No such file or directory (os error 2)"
  | .exists => "File exists (os error 17)"
  | .notDirectory => "Not a directory (os error 20)"
  | .isDirectory => "Is a directory (os error 21)"
  | .notEmpty => "Directory not empty (os error 39)"
  | .nameTooLong => "File name too long (os error 36)"
  | .unusableName => "file name contained an unexpected NUL byte"
  | .endlessLinks => "Too many levels of symbolic links (os error 40)"
  | .notPermitted => "Operation not permitted (os error 1)"

/-- Puts an entry in its place; it takes the place of one with the same location. -/
def place (l : Location) (e : Entry) : List (Location × Entry) → List (Location × Entry)
  | [] => [(l, e)]
  | d :: ds =>
    if l = d.1 then (l, e) :: ds
    else if l < d.1 then (l, e) :: d :: ds
    else d :: place l e ds

end FileTree

structure FileTree where
  entries : List (Location × FileTree.Entry) := []
  deriving DecidableEq, Repr

namespace FileTree

/-- Where a path leads; two dots lead back. -/
def locate (path : String) : Location :=
  (Path.parts path).foldl (fun l name => if name = ".." then l.dropLast else l ++ [name]) []

/-- The locations on the way to one, from the root on, itself included. -/
def wayTo (l : Location) : List Location := (List.range (l.length + 1)).map l.take

/-! ## §1. Looking. -/

/-- The entry at a location; the root is a directory. -/
def get? (t : FileTree) (l : Location) : Option Entry :=
  if l = [] then some .directory else t.entries.lookup l

def isPresent (t : FileTree) (l : Location) : Bool := (t.get? l).isSome

/-- Whether a file stands on the way to a location. -/
def isBlocked (t : FileTree) (l : Location) : Bool :=
  (wayTo l).any fun m => (t.get? m).any (!·.isDirectory)

/-- The longest name, in bytes. -/
def nameLimit : Nat := 255

/-- The longest path, in bytes. -/
def pathLimit : Nat := 4095

/-- One step on the way along a path.  Two dots lead out of a directory that is there. -/
def follow (t : FileTree) (l : Location) (name : String) : Except Fault Location :=
  if name.contains '\x00' then .error .unusableName
  else if nameLimit < name.utf8ByteSize then .error .nameTooLong
  else if name = ".." then
    match t.get? l with
    | some .directory => .ok l.dropLast
    | some (.file _ _) => .error .notDirectory
    | none => .error .notFound
  else .ok (l ++ [name])

/-- Where a path leads in a tree. -/
def resolve (t : FileTree) (path : String) : Except Fault Location :=
  (Path.parts path).foldlM t.follow []

/-- The content of a file. -/
def read (t : FileTree) (l : Location) : Except Fault (List UInt8) :=
  match t.get? l with
  | some (.file content _) => .ok content
  | some .directory => .error .isDirectory
  | none =>
    if t.isBlocked l then .error .notDirectory else .error .notFound

/-- The entries below a location, seen from there. -/
def below (t : FileTree) (l : Location) : List (Location × Entry) :=
  t.entries.filterMap fun (m, e) =>
    if l.isPrefixOf m && m.length != l.length then some (m.drop l.length, e) else none

/-! ## §2. Changing. -/

def put (t : FileTree) (l : Location) (e : Entry) : FileTree := ⟨place l e t.entries⟩

/-- Whether a new entry may be put into a location's directory. -/
def checkParent (t : FileTree) (l : Location) : Except Fault Unit :=
  match t.get? l.dropLast with
  | some .directory => .ok ()
  | some (.file _ _) => .error .notDirectory
  | none =>
    if t.isBlocked l.dropLast then .error .notDirectory else .error .notFound

/-- Writes a file.  One that is there keeps its permissions. -/
def write (t : FileTree) (l : Location) (content : List UInt8) : Except Fault FileTree := do
  t.checkParent l
  match t.get? l with
  | some .directory => throw .isDirectory
  | some (.file _ executable) => return t.put l (.file content executable)
  | none => return t.put l (.file content false)

/-- Makes a file executable, or no longer so. -/
def setExecutable (t : FileTree) (l : Location) (executable : Bool) : FileTree :=
  match t.get? l with
  | some (.file content _) => t.put l (.file content executable)
  | _ => t

/-- Makes the directories on the way along `names` from a directory on.  `made`
says whether one was made before: then they are made one by one, and what stands in the
way stands there as a whole.  With `mustStand` the last of them must be there. -/
def makeAlong (mustStand : Bool) : Bool → Location → List String → FileTree →
    Except Fault Unit × FileTree
  | _, _, [], t => (.ok (), t)
  | made, l, name :: rest, t =>
    let isLast := rest.isEmpty
    if name = ".." then makeAlong mustStand made l.dropLast rest t
    else if nameLimit < name.utf8ByteSize then (.error .nameTooLong, t)
    else match t.get? (l ++ [name]) with
      | some .directory => makeAlong mustStand made (l ++ [name]) rest t
      | some (.file _ _) =>
        (.error (if isLast && mustStand || !isLast && !made then .notDirectory else .exists), t)
      | none =>
        if isLast && mustStand then (.error .notFound, t)
        else makeAlong mustStand true (l ++ [name]) rest (t.put (l ++ [name]) .directory)

/-- Makes a directory and all that lead to it.  Those that were made before a
fault stay. -/
def makeDirs (t : FileTree) (path : String) : Except Fault Unit × FileTree :=
  if path.contains '\x00' then (.error .unusableName, t)
  else if pathLimit < path.utf8ByteSize then (.error .nameTooLong, t)
  else makeAlong (Path.endsInDot path) false [] (Path.parts path) t

/-- Writes a file with the directories that lead to it, where that can be done. -/
def provide (t : FileTree) (path : String) (content : List UInt8) : FileTree :=
  let (made, t) := t.makeDirs (Path.parent path)
  let written := do
    made
    t.write (← t.resolve path) content
  written.toOption.getD t

/-- Removes whatever is at a location and below it. -/
def erase (t : FileTree) (l : Location) : FileTree := ⟨t.entries.filter fun e => !l.isPrefixOf e.1⟩

/-- Removes a directory with all it holds. -/
def removeDir (t : FileTree) (l : Location) : Except Fault FileTree :=
  match t.get? l with
  | some .directory => .ok (t.erase l)
  | some (.file _ _) => .error .notDirectory
  | none => .error .notFound

/-- Moves a file or a directory to a location.  A file there is replaced by a
file, an empty directory by a directory. -/
def move (t : FileTree) (source target : Location) : Except Fault FileTree := do
  t.checkParent target
  match t.get? source, t.get? target with
  | none, _ => throw .notFound
  | some (.file _ _), some .directory => throw .isDirectory
  | some .directory, some (.file _ _) => throw .notDirectory
  | some e, _ =>
    if e.isDirectory && !(t.below target).isEmpty then throw .notEmpty
    -- a subtree moves as a whole: its root first, then all below it
    let moved := t.below source
    let cleared := (t.erase target).erase source
    return moved.foldl (fun t (l, e) => t.put (target ++ l) e) (cleared.put target e)

/-! ## §3. Links and permissions. -/

/-- What a tree does not say of its files: which symbolic links stand in the places of files,
and which files belong to others.  Without links and others, all is as in the tree. -/
structure Mount where
  /-- Where the links at a location lead in the end: to the location itself where there is
  none, and nowhere where they lead to each other. -/
  leads : Location → Option Location := some
  /-- Whether the permissions of a file are ours to change. -/
  owns : Location → Bool := fun _ => true

namespace Mount

/-- Writes the file that a location leads to. -/
def write (mount : Mount) (l : Location) (content : List UInt8) (t : FileTree) :
    Except Fault FileTree :=
  match mount.leads l with
  | some l => t.write l content
  | none => .error .endlessLinks

/-- Makes the file that a location leads to executable, or no longer so. -/
def setExecutable (mount : Mount) (l : Location) (executable : Bool) (t : FileTree) :
    Except Fault FileTree :=
  match mount.leads l with
  | some l =>
    if !t.isPresent l then .error .notFound
    else if mount.owns l then .ok (t.setExecutable l executable)
    else .error .notPermitted
  | none => .error .endlessLinks

end Mount

end FileTree

end SwapBridge
