/-
  SwapBridge.Shell.Script
  ───────────────────────
  **SHELL SCRIPTS AS COMMANDS.**

  A line holds chains; a chain holds commands of which each runs or not by the
  outcome of those before it.  A line is read as a whole before it is run, so
  that a fault in a later line does not keep the earlier ones from running.

    • `Script.ofText` — the lines of a script up to the first that is faulty.
-/
import SwapBridge.Shell.Word

namespace SwapBridge.Shell

/-- When a command of a chain runs. -/
inductive Link where
  | always
  | onSuccess
  | onFailure
  deriving DecidableEq, Repr

structure Redirection where
  stream : Option String
  operator : String
  target : Word
  deriving DecidableEq, Repr

structure Command where
  line : Nat
  link : Link := .always
  negated : Bool := false
  words : List Word := []
  redirections : List Redirection := []
  deriving DecidableEq, Repr

abbrev Chain := List Command

/-- A fault in the text, with the line it is noticed in. -/
structure Fault where
  line : Nat
  message : String
  deriving DecidableEq, Repr

structure Script where
  lines : List (List Chain) := []
  fault : Option Fault := none
  deriving DecidableEq, Repr

namespace Script

def unexpected (what : String) : String := "Syntax error: " ++ what ++ " unexpected"

/-- An operator as a fault names it. -/
def quoted (operator : String) : String :=
  if operator = newline then "newline" else "\"" ++ operator ++ "\""

/-- A script that is being read; what comes last stands first. -/
structure Reading where
  script : Script := {}
  chains : List Chain := []
  chain : Chain := []
  command : Option Command := none
  /-- Whether the next command is joined to the one before. -/
  link : Link := .always
  /-- The redirection whose target comes next. -/
  pending : Option (Option String × String) := none

namespace Reading

/-- Whether a command may begin and nothing of it is there yet. -/
def isOpen (r : Reading) : Bool :=
  match r.command with
  | none => true
  | some c => c.words.isEmpty && c.redirections.isEmpty

def fail (line : Nat) (message : String) (r : Reading) : Reading :=
  { r with script := { r.script with fault := some ⟨line, message⟩ } }

/-- The command that is being read, begun if need be. -/
def present (line : Nat) (r : Reading) : Command := r.command.getD { line, link := r.link }

/-- Ends the command and says how the next one is joined. -/
def endCommand (next : Link) (r : Reading) : Reading :=
  { r with chain := r.command.toList ++ r.chain, command := none, link := next }

def endChain (r : Reading) : Reading :=
  let r := r.endCommand .always
  { r with chain := [], chains := if r.chain.isEmpty then r.chains else r.chain.reverse :: r.chains }

def endLine (r : Reading) : Reading :=
  let r := r.endChain
  { r with chains := [], script := { r.script with lines := r.chains.reverse :: r.script.lines } }

def isRedirection (operator : String) : Bool := [">", ">>", ">&", ">|", "<", "<&"].contains operator

def step (r : Reading) (t : Nat × Token) : Reading :=
  let (line, token) := t
  if r.script.fault.isSome then r
  else match token with
    | .unclosed => r.fail line "Syntax error: Unterminated quoted string"
    | .word w =>
      let c := r.present line
      match r.pending with
      | some (stream, operator) =>
        { r with
          command := some { c with redirections := c.redirections ++ [⟨stream, operator, w⟩] }
          pending := none }
      | none =>
        if r.isOpen && w == [⟨.text "!", false⟩] then
          { r with command := some { c with negated := !c.negated } }
        else { r with command := some { c with words := c.words ++ [w] } }
    | .operator stream operator =>
      if r.pending.isSome then r.fail line (unexpected (quoted operator))
      else if isRedirection operator then
        { r with command := some (r.present line), pending := some (stream, operator) }
      else if operator = newline then
        -- after a joining operator the line goes on
        if !r.isOpen then r.endLine
        else if r.link == .always && r.command.isNone then r.endLine
        else if r.command.isNone then r
        else r.fail line (unexpected (quoted operator))
      else if r.isOpen then r.fail line (unexpected (quoted operator))
      else match operator with
        | ";" => r.endChain
        | "&&" => r.endCommand .onSuccess
        | "||" => r.endCommand .onFailure
        | _ => r.fail line (unexpected (quoted operator))

/-- The end of the script, in a line. -/
def finish (line : Nat) (r : Reading) : Script :=
  let r :=
    if r.script.fault.isSome then r
    else if r.pending.isSome || r.isOpen && (r.link != .always || r.command.isSome) then
      r.fail line (unexpected "end of file")
    else r.endLine
  { r.script with lines := r.script.lines.reverse }

end Reading

/-- The lines of a script up to the first that is faulty. -/
def ofText (text : String) : Script :=
  let tokens := Token.ofText text
  (tokens.foldl Reading.step {}).finish ((tokens.getLast?.map (·.1)).getD 1)

end Script

end SwapBridge.Shell
