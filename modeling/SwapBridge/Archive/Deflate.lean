/-
  SwapBridge.Archive.Deflate
  ──────────────────────────
  **INFLATING COMPRESSED DATA.**

  Compressed data is a row of blocks.  A block holds bytes as they are, or
  tokens under two Huffman codes: a byte, a copy of earlier output, or the end
  of the block.  A copy may reach back beyond the first byte; zeros are there.

    • `Reader` of `Token` and `Block` — what the next bits say,
    • `inflate` — all output up to the end or the first fault.
-/
import SwapBridge.Archive.Huffman

namespace SwapBridge.Archive.Deflate

/-! ## §1. Tokens. -/

inductive Token where
  | literal (b : UInt8)
  | copy (length distance : Nat)
  | stop
  deriving DecidableEq, Repr

/-- Copy lengths by symbol: the least one, and how many bits are added. -/
def lengthClasses : List (Nat × Nat) :=
  [(3, 0), (4, 0), (5, 0), (6, 0), (7, 0), (8, 0), (9, 0), (10, 0), (11, 1), (13, 1), (15, 1),
    (17, 1), (19, 2), (23, 2), (27, 2), (31, 2), (35, 3), (43, 3), (51, 3), (59, 3), (67, 4),
    (83, 4), (99, 4), (115, 4), (131, 5), (163, 5), (195, 5), (227, 5), (258, 0)]

/-- Copy distances by symbol: the least one, and how many bits are added. -/
def distanceClasses : List (Nat × Nat) :=
  [(1, 0), (2, 0), (3, 0), (4, 0), (5, 1), (7, 1), (9, 2), (13, 2), (17, 3), (25, 3), (33, 4),
    (49, 4), (65, 5), (97, 5), (129, 6), (193, 6), (257, 7), (385, 7), (513, 8), (769, 8),
    (1025, 9), (1537, 9), (2049, 10), (3073, 10), (4097, 11), (6145, 11), (8193, 12),
    (12289, 12), (16385, 13), (24577, 13)]

/-- A number of a class. -/
def measure (classes : List (Nat × Nat)) (symbol : Nat) : Reader Nat :=
  match classes[symbol]? with
  | none => Reader.corrupt
  | some (least, added) => do return least + (← Reader.number added)

/-- The token that a symbol begins. -/
def token (distances : Code) (symbol : Nat) : Reader Token :=
  if symbol < 256 then pure (.literal symbol.toUInt8)
  else if symbol = 256 then pure .stop
  else do
    let length ← measure lengthClasses (symbol - 257)
    let distance ← distances.read >>= measure distanceClasses
    return .copy length distance

def nextToken (literals distances : Code) : Reader Token := literals.read >>= token distances

theorem takes_measure (classes : List (Nat × Nat)) (symbol : Nat) :
    Reader.Takes 0 (measure classes symbol) := by
  unfold measure
  split
  · exact Reader.takes_corrupt 0
  · exact (Reader.takes_bind (Reader.takes_number _) fun _ => Reader.takes_pure _).mono (by omega)

theorem takes_token (distances : Code) (symbol : Nat) :
    Reader.Takes 0 (token distances symbol) := by
  unfold token
  split
  · exact Reader.takes_pure _
  · split
    · exact Reader.takes_pure _
    · exact (Reader.takes_bind (takes_measure _ _) fun _ =>
        Reader.takes_bind (Reader.takes_bind distances.takes_read fun _ => takes_measure _ _)
          fun _ => Reader.takes_pure _).mono (by omega)

theorem takes_nextToken (literals distances : Code) :
    Reader.Takes 1 (nextToken literals distances) :=
  Reader.takes_bind literals.takes_read fun _ => takes_token _ _

/-! ## §2. Blocks. -/

inductive Block where
  /-- So many bytes as they are. -/
  | stored (length : Nat)
  | coded (literals distances : Code)
  deriving Repr

/-- The code with these lengths. -/
def code (lengths : List Nat) : Reader Code :=
  match Code.ofLengths? lengths with
  | some c => pure c
  | none => Reader.corrupt

/-- The code with these lengths, which must leave no gaps at all. -/
def fullCode (lengths : List Nat) : Reader Code :=
  if Code.isFull (Code.sorted lengths) then code lengths else Reader.corrupt

/-- A block of bytes: their number, and its complement as a check. -/
def storedBlock : Reader Block := do
  Reader.align
  let length ← Reader.number 16
  let complement ← Reader.number 16
  -- a number and its complement add up to all ones
  if length + complement = 0xFFFF then return .stored length else Reader.corrupt

/-- The lengths of the fixed code for literals. -/
def fixedLiterals : List Nat :=
  List.replicate 144 8 ++ List.replicate 112 9 ++ List.replicate 24 7 ++ List.replicate 8 8

/-- The lengths of the fixed code for distances. -/
def fixedDistances : List Nat := List.replicate 32 5

def fixedBlock : Reader Block := do
  return .coded (← code fixedLiterals) (← code fixedDistances)

/-- The order in which the lengths of the code for lengths are given. -/
def lengthOrder : List Nat :=
  [16, 17, 18, 0, 8, 7, 9, 6, 10, 5, 11, 4, 12, 3, 13, 2, 14, 1, 15]

/-- The lengths that a symbol adds to those before it, the last one first. -/
def moreLengths (before : List Nat) (symbol : Nat) : Reader (List Nat) :=
  if symbol < 16 then pure (symbol :: before)
  else if symbol = 16 then
    -- the length before it once more, so there must be one
    match before with
    | [] => Reader.corrupt
    | last :: _ => do return List.replicate (3 + (← Reader.number 2)) last ++ before
  -- a short and a long row of symbols without a codeword
  else if symbol = 17 then do return List.replicate (3 + (← Reader.number 3)) 0 ++ before
  else do return List.replicate (11 + (← Reader.number 7)) 0 ++ before

/-- Reads lengths until there are `total`; each symbol adds one at least. -/
def lengthsUpTo (c : Code) (total : Nat) : Nat → List Nat → Reader (List Nat)
  | 0, before => if before.length = total then pure before.reverse else Reader.corrupt
  | n + 1, before =>
    if before.length < total then do
      lengthsUpTo c total n (← moreLengths before (← c.read))
    else lengthsUpTo c total 0 before

/-- `n` numbers of three bits. -/
def shortLengths : Nat → Reader (List Nat)
  | 0 => pure []
  | n + 1 => do
    let length ← Reader.number 3
    return length :: (← shortLengths n)

def dynamicBlock : Reader Block := do
  let literals := 257 + (← Reader.number 5)
  let distances := 1 + (← Reader.number 5)
  let given := (← Reader.number 4) + 4
  if 286 < literals || 30 < distances then Reader.corrupt
  else
    -- first the code for lengths, then under it the lengths of both other codes in one row
    let short := lengthOrder.zip (← shortLengths given)
    let c ← fullCode ((List.range 19).map fun s => (short.lookup s).getD 0)
    let total := literals + distances
    let lengths ← lengthsUpTo c total total []
    return .coded (← code (lengths.take literals)) (← code (lengths.drop literals))

/-- A block of a kind. -/
def blockOf (kind : Nat) : Reader Block :=
  if kind = 0 then storedBlock
  else if kind = 1 then fixedBlock
  else if kind = 2 then dynamicBlock
  else Reader.corrupt

/-- Whether the block is the last one, and the block. -/
def nextBlock : Reader (Bool × Block) := do
  let final ← Reader.number 1
  let kind ← Reader.number 2
  return (final = 1, ← blockOf kind)

theorem takes_code (lengths : List Nat) : Reader.Takes 0 (code lengths) := by
  unfold code
  split
  · exact Reader.takes_pure _
  · exact Reader.takes_corrupt 0

theorem takes_fullCode (lengths : List Nat) : Reader.Takes 0 (fullCode lengths) := by
  unfold fullCode
  split
  · exact takes_code lengths
  · exact Reader.takes_corrupt 0

theorem takes_storedBlock : Reader.Takes 0 storedBlock := by
  refine (Reader.takes_bind Reader.takes_align fun _ =>
    Reader.takes_bind (Reader.takes_number 16) fun _ =>
      Reader.takes_bind (n := 0) (Reader.takes_number 16) fun _ => ?_).mono (by omega)
  split
  · exact Reader.takes_pure _
  · exact Reader.takes_corrupt 0

theorem takes_fixedBlock : Reader.Takes 0 fixedBlock :=
  (Reader.takes_bind (takes_code _) fun _ =>
    Reader.takes_bind (takes_code _) fun _ => Reader.takes_pure _).mono (by omega)

theorem takes_moreLengths (before : List Nat) (symbol : Nat) :
    Reader.Takes 0 (moreLengths before symbol) := by
  have repeated (k n : Nat) (l : Nat) :
      Reader.Takes 0 (do return List.replicate (k + (← Reader.number n)) l ++ before) :=
    (Reader.takes_bind (Reader.takes_number n) fun _ => Reader.takes_pure _).mono (by omega)
  unfold moreLengths
  split
  · exact Reader.takes_pure _
  · split
    · split
      · exact Reader.takes_corrupt 0
      · exact repeated 3 2 _
    · split
      · exact repeated 3 3 0
      · exact repeated 11 7 0

theorem takes_lengthsUpTo (c : Code) (total n : Nat) (before : List Nat) :
    Reader.Takes 0 (lengthsUpTo c total n before) := by
  have done (before : List Nat) : Reader.Takes 0 (lengthsUpTo c total 0 before) := by
    rw [lengthsUpTo]
    split
    · exact Reader.takes_pure _
    · exact Reader.takes_corrupt 0
  induction n generalizing before with
  | zero => exact done before
  | succ n ih =>
    rw [lengthsUpTo]
    split
    · exact (Reader.takes_bind c.takes_read fun _ =>
        Reader.takes_bind (takes_moreLengths _ _) fun _ => ih _).mono (by omega)
    · exact done before

theorem takes_shortLengths (n : Nat) : Reader.Takes 0 (shortLengths n) := by
  induction n with
  | zero => exact Reader.takes_pure _
  | succ n ih =>
    exact (Reader.takes_bind (Reader.takes_number 3) fun _ =>
      Reader.takes_bind ih fun _ => Reader.takes_pure _).mono (by omega)

theorem takes_dynamicBlock : Reader.Takes 0 dynamicBlock := by
  refine (Reader.takes_bind (Reader.takes_number 5) fun _ =>
    Reader.takes_bind (Reader.takes_number 5) fun _ =>
      Reader.takes_bind (n := 0) (Reader.takes_number 4) fun _ => ?_).mono (by omega)
  split
  · exact Reader.takes_corrupt 0
  · exact (Reader.takes_bind (takes_shortLengths _) fun _ =>
      Reader.takes_bind (takes_fullCode _) fun _ =>
        Reader.takes_bind (takes_lengthsUpTo _ _ _ _) fun _ =>
          Reader.takes_bind (takes_code _) fun _ =>
            Reader.takes_bind (takes_code _) fun _ => Reader.takes_pure _).mono (by omega)

theorem takes_blockOf (kind : Nat) : Reader.Takes 0 (blockOf kind) := by
  unfold blockOf
  split
  · exact takes_storedBlock
  · split
    · exact takes_fixedBlock
    · split
      · exact takes_dynamicBlock
      · exact Reader.takes_corrupt 0

theorem takes_nextBlock : Reader.Takes 1 nextBlock :=
  (Reader.takes_bind (Reader.takes_number 1) fun _ =>
    Reader.takes_bind (Reader.takes_number 2) fun _ =>
      Reader.takes_bind (takes_blockOf _) fun _ => Reader.takes_pure _).mono (by omega)

/-! ## §3. Output. -/

/-- The byte at a distance from the end of the output. -/
def earlier (out : Array UInt8) (distance : Nat) : UInt8 :=
  if distance ≤ out.size then out[out.size - distance]?.getD 0 else 0

/-- Adds earlier bytes, one by one, so that a copy may overlap itself. -/
def copyBack (distance : Nat) : Nat → Array UInt8 → Array UInt8
  | 0, out => out
  | n + 1, out => copyBack distance n (out.push (earlier out distance))

/-- Adds the whole bytes among `n` bits. -/
def pushBytes : Nat → List Bool → Array UInt8 → Array UInt8
  | 0, _, out => out
  | n + 1, bits, out =>
    let byte := bits.take 8
    if byte.length < 8 then out
    else pushBytes n (bits.drop 8) (out.push (ofBits byte).toUInt8)

/-- What stands at the present bits. -/
inductive Place where
  | betweenBlocks
  | inBlock (final : Bool) (literals distances : Code)
  deriving Repr

/-- The output, and the bits after the compressed data where it came to its end. -/
structure Inflated where
  output : Array UInt8
  rest : Except Fault (List Bool)

def run (place : Place) (bits : List Bool) (out : Array UInt8) : Inflated :=
  match place with
  | .betweenBlocks =>
    match h : nextBlock bits with
    | .error fault => ⟨out, .error fault⟩
    | .ok ((final, .stored n), rest) =>
      have : rest.length - 8 * n < bits.length := by
        have := takes_nextBlock bits _ rest h
        omega
      -- a block that is cut short still gives the bytes that are there
      let out := pushBytes n rest out
      if (rest.take (8 * n)).length < 8 * n then ⟨out, .error .truncated⟩
      else if final then ⟨out, .ok (rest.drop (8 * n))⟩
      else run .betweenBlocks (rest.drop (8 * n)) out
    | .ok ((final, .coded literals distances), rest) =>
      have : rest.length < bits.length := takes_nextBlock bits _ rest h
      run (.inBlock final literals distances) rest out
  | .inBlock final literals distances =>
    match h : nextToken literals distances bits with
    | .error fault => ⟨out, .error fault⟩
    | .ok (t, rest) =>
      have : rest.length < bits.length := takes_nextToken literals distances bits t rest h
      match t with
      | .literal b => run (.inBlock final literals distances) rest (out.push b)
      | .copy length distance =>
        run (.inBlock final literals distances) rest (copyBack distance length out)
      | .stop => if final then ⟨out, .ok rest⟩ else run .betweenBlocks rest out
termination_by bits.length

/-- Inflates what the bytes begin with. -/
def inflate (bs : List UInt8) : Inflated := run .betweenBlocks (bs.flatMap bitsOf) #[]

end SwapBridge.Archive.Deflate
