/-
  SwapBridge.Shell.External
  ─────────────────────────
  **PROGRAMS THAT EVERY MACHINE HAS.**

  Besides the shell there are a few programs that scripts run, or that a file
  is given to by its first line.  What they do is known from their words.

    • `External.run?` — what the program with a name does.
-/
import SwapBridge.Text.Decimal
import SwapBridge.Text.Split

namespace SwapBridge.Shell

/-- How a program that is run goes on. -/
inductive Fate where
  | goesOn
  | ends (status : Nat)
  /-- Killed by a signal. -/
  | dies (signal : Nat)
  /-- Stays until it is killed. -/
  | lasts
  deriving DecidableEq, Repr

/-- The status of a command that was given something impossible. -/
def misuse : Nat := 2

namespace External

/-- A pause in nanoseconds: a number of seconds, minutes, hours or days. -/
def pause? (word : String) : Option Nat :=
  let (number, factor) := match word.toList.reverse with
    | 's' :: ds => (ds.reverse, 1)
    | 'm' :: ds => (ds.reverse, 60)
    | 'h' :: ds => (ds.reverse, 3600)
    | 'd' :: ds => (ds.reverse, 86400)
    | _ => (word.toList, 1)
  let (whole, part) := (Text.cut? ['.'] number).getD (number, [])
  let digits := whole ++ part
  if Decimal.isNumeral digits then
    some (Decimal.value digits * factor * 1000000000 / Nat.pow 10 part.length)
  else none

/-- A pause without an end. -/
def endless : String := "infinity"

/-- The advice after a complaint about an option. -/
def advice (program : String) : String := "Try '" ++ program ++ " --help' for more information.\n"

/-- The first word that looks like an option. -/
def option? (words : List String) : Option String :=
  words.find? fun w => "--".toList.isPrefixOf w.toList && w != "--"

/-- The names that the shell has. -/
def shells : List String := ["sh", "dash", "bash"]

/-- What a program does. -/
structure Outcome where
  output : String := ""
  /-- What it says about something that is wrong. -/
  complaint : String := ""
  /-- How long it pauses, in nanoseconds. -/
  pause : Nat := 0
  fate : Fate
  deriving DecidableEq, Repr

/-- What a program does whose words are in order or not; nothing where there is none
of this name. -/
def runOne? (name : String) (program : String) (words : List String) : Option Outcome :=
  let refused (complaint : String) : Outcome :=
    { complaint := program ++ ": " ++ complaint ++ "\n" ++ advice program, fate := .ends 1 }
  let unknown (option : String) := refused ("unrecognized option '" ++ option ++ "'")
  match name with
  | "true" => some { fate := .ends 0 }
  | "false" => some { fate := .ends 1 }
  | "echo" => some { output := " ".intercalate words ++ "\n", fate := .ends 0 }
  | "cat" => some <| match option? words with
    | some option => unknown option
    | none => { fate := .ends 0 }
  | "sleep" => some <| match option? words, words with
    | some option, _ => unknown option
    | none, [] => refused "missing operand"
    | none, words =>
      match words.find? fun w => (pause? w).isNone && w != endless with
      | some word => refused ("invalid time interval '" ++ word ++ "'")
      | none =>
        { pause := (words.filterMap pause?).foldl (· + ·) 0
          fate := if words.contains endless then .lasts else .ends 0 }
  | _ =>
    if shells.contains name then some <| match option? words with
      | some _ => { complaint := program ++ ": 0: Illegal option --\n", fate := .ends misuse }
      | none => { fate := .ends 0 }
    else none

/-- The directories that programs are in. -/
def directories : List String := ["/bin/", "/usr/bin/"]

/-- The name of the program that a path or a bare word leads to. -/
def nameOf (word : String) : String :=
  match directories.find? fun d => d.toList.isPrefixOf word.toList with
  | some d => String.ofList (word.toList.drop d.length)
  | none => word

/-- The status where no program has the name. -/
def notFound : Nat := 127

/-- The same; `env` is there as well, which runs the program that it is given. -/
def run? (name : String) (program : String) (words : List String) : Option Outcome :=
  match name, words with
  | "env", [] => some { fate := .ends 0 }
  | "env", word :: words => some <| (runOne? (nameOf word) word words).getD
    { complaint := program ++ ": '" ++ word ++ "': No such file or directory\n"
      fate := .ends notFound }
  | _, _ => runOne? name program words

end External

end SwapBridge.Shell
