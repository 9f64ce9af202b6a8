/-
  SwapBridge.Archive.Huffman
  ──────────────────────────
  **CANONICAL HUFFMAN CODES.**

  A code is given by the length of each symbol's codeword.  Sorted by length
  and then by symbol, the codewords fill a binary tree from the left.

    • `Code.ofLengths?` — the tree, where the lengths fill it or name at most
      one symbol,
    • `Code.read` — the next symbol; at least one bit is taken.
-/
import SwapBridge.Archive.Bits

namespace SwapBridge.Archive

inductive Tree where
  /-- No codeword comes here. -/
  | absent
  | symbol (n : Nat)
  | branch (zero one : Tree)
  deriving Repr

namespace Tree

def read : Tree → Reader Nat
  | .absent, _ => .error .corrupt
  | .symbol n, bits => .ok (n, bits)
  | .branch _ _, [] => .error .truncated
  | .branch zero _, false :: bits => zero.read bits
  | .branch _ one, true :: bits => one.read bits

/-- The longest codeword. -/
def depth : Nat := 15

/-- Grows the tree at a place with `room` levels below it out of codewords, by
length and symbol, sorted; gives the tree and the codewords left over. -/
def grow : Nat → List (Nat × Nat) → Tree × List (Nat × Nat)
  | _, [] => (.absent, [])
  | 0, (_, s) :: rest => (.symbol s, rest)
  | room + 1, (length, s) :: rest =>
    if length + (room + 1) = depth then (.symbol s, rest)
    else
      -- the shorter codewords come first, so the left side is full before the right one grows
      let (zero, rest) := grow room ((length, s) :: rest)
      let (one, rest) := grow room rest
      (.branch zero one, rest)

theorem takes_read (t : Tree) : Reader.Takes 0 t.read := by
  intro bits n rest h
  induction t generalizing bits with
  | absent => simp [read] at h
  | symbol m =>
    simp only [read, Except.ok.injEq, Prod.mk.injEq] at h
    simp [h.2]
  | branch zero one ihz iho =>
    match bits with
    | [] => simp [read] at h
    | false :: bits =>
      have := ihz bits h
      simp only [List.length_cons]
      omega
    | true :: bits =>
      have := iho bits h
      simp only [List.length_cons]
      omega

end Tree

/-- A tree with at least one level. -/
structure Code where
  zero : Tree
  one : Tree
  deriving Repr

namespace Code

def read (c : Code) : Reader Nat
  | [] => .error .truncated
  | false :: bits => c.zero.read bits
  | true :: bits => c.one.read bits

theorem takes_read (c : Code) : Reader.Takes 1 c.read := by
  intro bits n rest h
  match bits with
  | [] => simp [read] at h
  | false :: bits => simpa using c.zero.takes_read bits n rest h
  | true :: bits => simpa using c.one.takes_read bits n rest h

/-- The symbols that have a codeword, with its length, as they fill the tree. -/
def sorted (lengths : List Nat) : List (Nat × Nat) :=
  (lengths.zipIdx.filter fun p => p.1 != 0).mergeSort fun p q => p.1 ≤ q.1

/-- How much of the tree codewords fill, in units of the longest ones. -/
def filled (codewords : List (Nat × Nat)) : Nat :=
  codewords.foldl (fun n p => n + Nat.pow 2 (Tree.depth - p.1)) 0

/-- Whether codewords fill the tree. -/
def isFull (codewords : List (Nat × Nat)) : Bool := filled codewords == Nat.pow 2 Tree.depth

/-- Whether codewords fill the tree; there may also be none, or one that is a single bit. -/
def isWhole (codewords : List (Nat × Nat)) : Bool :=
  isFull codewords || (codewords.map Prod.fst).isPrefixOf [1]

/-- The code with these lengths, none where they leave gaps or do not fit. -/
def ofLengths? (lengths : List Nat) : Option Code :=
  let codewords := sorted lengths
  if isWhole codewords then
    let (zero, rest) := Tree.grow (Tree.depth - 1) codewords
    some ⟨zero, (Tree.grow (Tree.depth - 1) rest).1⟩
  else none

end Code

end SwapBridge.Archive
