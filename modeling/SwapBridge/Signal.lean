/-
  SwapBridge.Signal
  ─────────────────
  **SIGNALS AND WHAT THEY DO TO A PROCESS.**

  A signal is a number.  The first thirty-one have names; then come two without
  a name, and the real-time ones, which are counted from both ends.

    • `Signal.number?` — the signal that a word names,
    • `Signal.effect` — what it does to a process that makes no arrangement,
    • `Signal.write` — the signal as it is reported.
-/
import SwapBridge.Text.Decimal

namespace SwapBridge.Signal

/-- The names of the signals, from the first on. -/
def names : List String :=
  ["HUP", "INT", "QUIT", "ILL", "TRAP", "ABRT", "BUS", "FPE", "KILL", "USR1", "SEGV", "USR2",
    "PIPE", "ALRM", "TERM", "STKFLT", "CHLD", "CONT", "STOP", "TSTP", "TTIN", "TTOU", "URG",
    "XCPU", "XFSZ", "VTALRM", "PROF", "WINCH", "IO", "PWR", "SYS"]

def kill : Nat := 9

def terminate : Nat := 15

/-- The first and the last of the real-time signals. -/
def realTime : Nat × Nat := (34, 64)

/-- The words for the real-time signals: the first sixteen are counted up, the
others down. -/
def realTimeNames : List (String × Nat) :=
  let (first, last) := realTime
  let half := (last - first + 1) / 2
  ("RTMIN", first) :: ("RTMAX", last) ::
    ((List.range (half + 1)).drop 1).map (fun n => ("RTMIN+" ++ Decimal.write n, first + n)) ++
    ((List.range half).drop 1).map (fun n => ("RTMAX-" ++ Decimal.write n, last - n))

/-- The one name that a word cannot be. -/
def unspoken : String := "STKFLT"

/-- The signal that a word names, by number or by name in any case.  Nought is
a signal that only asks whether the process is there. -/
def number? (word : String) : Option Nat :=
  match Decimal.readBelow? (realTime.2 + 1) word.toList with
  | some n => some n
  | none =>
    let name := word.toUpper
    match (names.idxOf? name).filter fun _ => name != unspoken with
    | some i => some (i + 1)
    | none => realTimeNames.lookup name

/-- What a signal does to a process. -/
inductive Effect where
  | ends
  | passes
  | halts
  deriving DecidableEq, Repr

/-- Those that a process does not notice. -/
def unnoticed : List Nat := [0, 17, 18, 23, 28]

/-- Those that halt a process, for another signal to end it. -/
def halting : List Nat := [19, 20, 21, 22]

def effect (n : Nat) : Effect :=
  if unnoticed.contains n then .passes else if halting.contains n then .halts else .ends

/-- A signal by number, with its name where it has one. -/
def write (n : Nat) : String :=
  match (if n = 0 then none else names[n - 1]?) with
  | some name => "signal: " ++ Decimal.write n ++ " (SIG" ++ name ++ ")"
  | none => "signal: " ++ Decimal.write n

end SwapBridge.Signal
