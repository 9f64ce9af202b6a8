/-
  SwapBridge.Shell.Interpreter
  ────────────────────────────
  **THE FIRST LINE OF A SCRIPT.**

  It names the program that the script is given to, and one word for that
  program.  Only the beginning of the file is looked at; a file that is shorter
  counts as if zeros followed.

    • `Interpreter.ofContent?` — the program that the first line names.
-/
import SwapBridge.Text.Utf8

namespace SwapBridge.Shell

/-- What the first line of a script says. -/
structure Interpreter where
  path : String
  /-- What the program is told besides the script. -/
  word : Option String := none
  deriving DecidableEq, Repr

namespace Interpreter

/-- How many bytes of a file are looked at. -/
def window : Nat := 256

/-- The bytes that a script begins with. -/
def mark : List UInt8 := "#!".toUTF8.toList

def isBlank (b : UInt8) : Bool := b == 0x20 || b == 0x09

/-- Takes a line apart: a path without blanks, and the rest as one word. -/
def ofLine (line : List UInt8) : Interpreter :=
  let line := line.dropWhile isBlank
  let rest := (line.dropWhile (!isBlank ·)).dropWhile isBlank
  let word := (rest.reverse.dropWhile isBlank).reverse
  { path := Utf8.read (line.takeWhile (!isBlank ·))
    word := if word.isEmpty then none else some (Utf8.read word) }

/-- The program that the first line of a script names.  A line that does not end
where the window does must have ended the path at least; a path of no bytes is
one only where a zero stands in its place. -/
def ofContent? (content : List UInt8) : Option Interpreter :=
  if !mark.isPrefixOf content then none
  else
    let seen := (content.take window).drop mark.length
    let line := seen.takeWhile fun b => b != 0 && b != 0x0A
    let path := line.dropWhile isBlank
    let endsInZero := line.length = seen.length && content.length < window ||
      seen[line.length]? == some 0
    let endsInLine := seen[line.length]? == some 0x0A
    if endsInZero || endsInLine && !path.isEmpty || path.any isBlank then some (ofLine line)
    else none

end Interpreter

end SwapBridge.Shell
