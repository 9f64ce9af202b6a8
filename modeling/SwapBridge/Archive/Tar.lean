/-
  SwapBridge.Archive.Tar
  ──────────────────────
  **READING TAR ARCHIVES.**

  An archive is a row of blocks of 512 bytes: a header, then the content of
  the member it describes.  Some members only describe the next one, by a long
  name or by extended attributes.  Reading ends at a block of zeros or with
  the data, and fails at the first thing that is wrong.

    • `Tar.Header` — the fields of a header,
    • `Tar.read` — the members met, and whether the end was a good one.
-/
import SwapBridge.Archive.Gzip
import SwapBridge.Text.Blank
import SwapBridge.Text.Decimal

namespace SwapBridge.Archive.Tar

/-! ## §1. Fields. -/

/-- The size of a block. -/
def blockSize : Nat := 512

/-- A size, filled up to whole blocks. -/
def filledUp (size : Nat) : Nat := (size + blockSize - 1) / blockSize * blockSize

def field (start length : Nat) (bs : List UInt8) : List UInt8 := (bs.drop start).take length

/-- The bytes before the first zero byte. -/
def untilZero (bs : List UInt8) : List UInt8 := bs.takeWhile (· != 0)

def textOf? (bs : List UInt8) : Option String := String.fromUTF8? (ByteArray.mk bs.toArray)

def isOctal (c : Char) : Bool := '0' ≤ c && c ≤ '7'

/-- A number below `2 ^ 64` in octal digits, after at most one plus sign. -/
def readOctal? (cs : List Char) : Option Nat :=
  let digits := if cs.head? = some '+' then cs.tail else cs
  let n := digits.foldl (fun n c => 8 * n + (c.toNat - '0'.toNat)) 0
  if !digits.isEmpty && digits.all isOctal && n < UInt64.size then some n else none

/-- A field with an octal number; blanks around it are dropped. -/
def octal? (bs : List UInt8) : Option Nat :=
  (textOf? (untilZero bs)).bind fun s => readOctal? (Text.trim s.toList)

/-- A field with a number: octal, or the last eight bytes where the first bit is set. -/
def number? (bs : List UInt8) : Option Nat :=
  if 128 ≤ bs.headD 0 then some (littleEndian (bs.reverse.take 8)) else octal? bs

/-! ## §2. Headers. -/

/-- The bytes of a header. -/
structure Header where
  bytes : List UInt8
  deriving DecidableEq, Repr

namespace Header

/-- What kind of member the header describes. -/
def kind (h : Header) : UInt8 := (h.bytes.drop 156).headD 0

def magic (h : Header) : List UInt8 := field 257 8 h.bytes

/-- The newer of the two standard forms. -/
def isStandard (h : Header) : Bool := h.magic == "ustar\x0000".toUTF8.toList

/-- The older form with its own additions. -/
def isExtended (h : Header) : Bool := h.magic == "ustar  \x00".toUTF8.toList

/-- The sum of all bytes, with blanks in place of the sum itself. -/
def sum (h : Header) : Nat :=
  (field 0 148 h.bytes ++ h.bytes.drop 156).foldl (fun n b => n + b.toNat) 0 + 8 * ' '.toNat

def isSound (h : Header) : Bool := octal? (field 148 8 h.bytes) == some h.sum

def name (h : Header) : List UInt8 := field 0 100 h.bytes

/-- The directory part of a name that is kept in two fields. -/
def directory (h : Header) : List UInt8 := untilZero (field 345 155 h.bytes)

/-- The path of the member, as the header has it. -/
def path (h : Header) : List UInt8 :=
  if h.isStandard && !h.directory.isEmpty then
    h.directory ++ '/'.toUInt8 :: untilZero h.name
  else untilZero h.name

def size? (h : Header) : Option Nat := number? (field 124 12 h.bytes)

/-- Whether the member is a file and nothing else. -/
def isRegular (h : Header) : Bool := h.kind == 0 || h.kind == '0'.toUInt8

/-- Whether the member is a description of others, in one of the forms there are. -/
def isDescription (h : Header) : Bool := "LKxg".toUTF8.toList.contains h.kind

def describesNext (h : Header) (kind : Char) : Bool :=
  (h.isStandard || h.isExtended) && h.kind == kind.toUInt8

end Header

/-! ## §3. Extended attributes. -/

/-- An attribute with its name: the length of the line, a blank, the name, an
equals sign and the value. -/
def attribute? (line : List UInt8) : Option (List UInt8 × List UInt8) := do
  let length := line.takeWhile (· != ' '.toUInt8)
  let rest ← (line.drop length.length).tail?
  let n ← (textOf? length).bind fun s => Decimal.readSignedBelow? UInt64.size s.toList
  -- the length counts the line with its end
  guard (line.length + 1 = n)
  let name := rest.takeWhile (· != '='.toUInt8)
  let value ← (rest.drop name.length).tail?
  return (name, value)

/-- The lines up to the first empty one. -/
def lines (bs : List UInt8) : List (List UInt8) :=
  (bs.splitOn '\n'.toUInt8).takeWhile (!·.isEmpty)

/-- The value of the first attribute of a name; other lines may be anything. -/
def lenient? (name : String) (bs : List UInt8) : Option (List UInt8) :=
  ((lines bs).filterMap attribute?).lookup name.toUTF8.toList

/-- The same, given up at the first line that is no attribute. -/
def strict? (name : String) (bs : List UInt8) : Option (List UInt8) :=
  (((lines bs).map attribute?).takeWhile (·.isSome)).reduceOption.lookup name.toUTF8.toList

/-- The size that attributes give a member. -/
def attributedSize? (bs : List UInt8) : Option Nat := do
  let s ← textOf? (← strict? "size" bs)
  Decimal.readSignedBelow? UInt64.size s.toList

/-! ## §4. Files with holes. -/

/-- The parts of a file with holes that were met: how far they reach, and how
much of the stored content is left. -/
structure Parts where
  reach : Nat := 0
  left : Nat
  deriving DecidableEq, Repr

/-- Adds a part, given by its offset and length. -/
def addPart? (size : Nat) (p : Parts) (bs : List UInt8) : Option Parts :=
  if bs.headD 0 = 0 || (bs.drop 12).headD 0 = 0 then some p
  else do
    let offset ← octal? (field 0 12 bs)
    let length ← octal? (field 12 12 bs)
    -- stored parts begin at whole blocks, and none reaches back over the one before it
    guard (length = 0 || (size - p.left) % blockSize = 0)
    guard (p.reach ≤ offset && offset + length < UInt64.size && length ≤ p.left)
    return ⟨offset + length, p.left - length⟩

/-- Adds `n` parts that stand one after the other. -/
def addParts? (size : Nat) : Nat → List UInt8 → Parts → Option Parts
  | 0, _, p => some p
  | n + 1, bs, p => (addPart? size p bs).bind (addParts? size n (bs.drop 24))

/-- Adds the parts in `n` further blocks at most; gives how many there were. -/
def furtherParts? (size : Nat) : Nat → List UInt8 → Parts → Option (Nat × Parts)
  | 0, _, _ => none
  | n + 1, bs, p =>
    if bs.length < blockSize then none
    else do
      let p ← addParts? size 21 bs p
      if (bs.drop 504).headD 0 = 1 then
        let (blocks, p) ← furtherParts? size n (bs.drop blockSize) p
        return (blocks + 1, p)
      else return (1, p)

/-- How many further blocks describe the parts of a file with holes, provided
that all parts together are the stored content and end where the file does. -/
def holes? (h : Header) (size : Nat) (body : List UInt8) : Option Nat := do
  guard h.isExtended
  let p ← addParts? size 4 (field 386 96 h.bytes) { left := size }
  let (blocks, p) ← if (h.bytes.drop 482).headD 0 = 1 then
    furtherParts? size (body.length / blockSize + 1) body p else some (0, p)
  guard (octal? (field 483 12 h.bytes) = some p.reach && p.left = 0)
  return blocks

/-! ## §5. Members. -/

structure Member where
  /-- Whether it is a file and nothing else. -/
  isRegular : Bool
  path : List UInt8
  content : List UInt8
  deriving DecidableEq, Repr

/-- What was said about the next member. -/
structure Pending where
  name : Option (List UInt8) := none
  link : Option (List UInt8) := none
  attributes : Option (List UInt8) := none
  deriving DecidableEq, Repr

namespace Pending

/-- Whether the archive may not end here. -/
def isOpen (p : Pending) : Bool := p.name.isSome || p.link.isSome || p.attributes.isSome

/-- Takes in what a member says about the next one; nothing may be said twice.
Gives nothing for a member that stands for itself. -/
def add? (p : Pending) (h : Header) (content : List UInt8) : Option (Option Pending) :=
  if h.describesNext 'L' then some (if p.name.isSome then none else some { p with name := content })
  else if h.describesNext 'K' then
    some (if p.link.isSome then none else some { p with link := content })
  else if h.describesNext 'x' then
    some (if p.attributes.isSome then none else some { p with attributes := content })
  else none

/-- A long name, without the zero byte at its end. -/
def longName (bs : List UInt8) : List UInt8 := if bs.getLast? = some 0 then bs.dropLast else bs

/-- The path of a member about which this was said. -/
def pathOf (p : Pending) (h : Header) : List UInt8 :=
  match p.name, p.attributes.bind (lenient? "path") with
  | some name, _ => longName name
  | none, some path => path
  | none, none => h.path

/-- The size of a member about which this was said; what is said is about no
other description. -/
def sizeOf? (p : Pending) (h : Header) : Option Nat :=
  h.size?.map fun size =>
    if h.isDescription then size else (p.attributes.bind attributedSize?).getD size

end Pending

/-- The members that were met, and whether the end was a good one. -/
structure Reading where
  members : List Member
  complete : Bool
  deriving DecidableEq, Repr

/-- How many further blocks belong to the header of a member. -/
def furtherBlocks? (h : Header) (size : Nat) (body : List UInt8) : Option Nat :=
  if h.kind = 'S'.toUInt8 then holes? h size body else some 0

/-- Reads the members from a header on that stands at `position`. -/
def readFrom (intact : Bool) (pending : Pending) (position : Nat) (bs : List UInt8) : Reading :=
  if _h : bs.length < blockSize then ⟨[], bs.isEmpty && intact && !pending.isOpen⟩
  else
    let header : Header := ⟨bs.take blockSize⟩
    let body := bs.drop blockSize
    -- a block of zeros is the end, whatever comes behind it
    if header.bytes.all (· == 0) then ⟨[], !pending.isOpen⟩
    else if !header.isSound then ⟨[], false⟩
    else match pending.sizeOf? header with
      | none => ⟨[], false⟩
      | some size =>
        let next := position + blockSize + filledUp size
        if UInt64.size ≤ next then ⟨[], false⟩
        else match pending.add? header (body.take size) with
          | some none => ⟨[], false⟩
          | some (some pending) =>
            -- a description must be there in full, since the next member hangs on it
            if body.length < filledUp size then ⟨[], false⟩
            else readFrom intact pending next (body.drop (filledUp size))
          | none =>
            match furtherBlocks? header size body with
            | none => ⟨[], false⟩
            | some blocks =>
              let member : Member := ⟨header.isRegular, pending.pathOf header, body.take size⟩
              let skipped := blocks * blockSize + filledUp size
              -- the last member may lack the end of its content where the stream ended well
              if body.length < skipped then
                ⟨if size ≤ body.length || intact then [member] else [], false⟩
              else
                let r := readFrom intact {} (next + blocks * blockSize) (body.drop skipped)
                ⟨member :: r.members, r.complete⟩
termination_by bs.length
decreasing_by
  all_goals
    simp only [body, blockSize, List.length_drop] at *
    omega

def read (s : Stream) : Reading := readFrom s.intact {} 0 s.content

end SwapBridge.Archive.Tar
