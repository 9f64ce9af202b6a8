/-
  SwapBridge.Json.Pretty
  ──────────────────────
  **A JSON VALUE ON SEVERAL LINES.**

  Items and members stand on lines of their own, two blanks further in than
  the value they belong to.  What holds nothing stays on one line.
-/
import SwapBridge.Json.Writer

namespace SwapBridge.Json

/-- A new line, so many levels in. -/
def newLine (depth : Nat) : List Char := '\n' :: List.replicate (2 * depth) ' '

mutual

/-- A value whose lines after the first are so many levels in. -/
def prettyChars (depth : Nat) : Json → List Char
  | .array (item :: items) =>
    '[' :: prettyItems (depth + 1) (item :: items) ++ newLine depth ++ [']']
  | .object (m :: members) =>
    '\x7b' :: prettyMembers (depth + 1) (m :: members) ++ newLine depth ++ ['\x7d']
  | .null => chars .null
  | .bool b => chars (.bool b)
  | .number ds => ds
  | .string text => quoted text
  | .array [] => ['[', ']']
  | .object [] => ['\x7b', '\x7d']

def prettyItems (depth : Nat) : List Json → List Char
  | [] => []
  | [v] => newLine depth ++ prettyChars depth v
  | v :: w :: rest => newLine depth ++ prettyChars depth v ++ ',' :: prettyItems depth (w :: rest)

def prettyMembers (depth : Nat) : List (JsonText × Json) → List Char
  | [] => []
  | [(k, v)] => newLine depth ++ quoted k ++ ':' :: ' ' :: prettyChars depth v
  | (k, v) :: m :: rest =>
    newLine depth ++ quoted k ++ ':' :: ' ' :: prettyChars depth v ++
      ',' :: prettyMembers depth (m :: rest)

end

def writePretty (v : Json) : String := String.ofList (prettyChars 0 v)

end SwapBridge.Json
