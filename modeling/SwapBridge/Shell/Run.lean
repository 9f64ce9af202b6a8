/-
  SwapBridge.Shell.Run
  ────────────────────
  **RUNNING SHELL SCRIPTS.**

  A script runs line by line until it ends, dies of a signal that it sends to
  itself, or comes to something that lasts.  All that it prints, complaints
  included, is one text, and all its pauses are one.

    • `State.fields` — the words that a word stands for when it is run,
    • `State.perform` — one command,
    • `Script.run` — what a script does.
-/
import SwapBridge.Shell.External
import SwapBridge.Shell.Script
import SwapBridge.Signal
import SwapBridge.Text.Blank

namespace SwapBridge.Shell

/-! ## §1. Words and their values. -/

/-- Whether anyone reads what is printed, and what is said about things that are wrong. -/
structure Readers where
  output : Bool := true
  complaints : Bool := true
  deriving DecidableEq, Repr

structure State where
  /-- What the script is called by. -/
  name : String
  arguments : List String
  /-- The variables that were set, the last one first. -/
  assigned : List (String × String) := []
  /-- How the last command ended. -/
  status : Nat := 0
  output : String := ""
  readers : Readers := {}
  /-- How long the script paused, in nanoseconds. -/
  pause : Nat := 0
  /-- Whether the first failure ends the script. -/
  strict : Bool := false
  deriving Repr

namespace State

/-- The number of the process.  There is no other, so any number serves. -/
def processNumber : String := "2"

def parameter (s : State) (name : String) : String :=
  match name with
  | "#" => Decimal.write s.arguments.length
  | "?" => Decimal.write s.status
  | "$" => processNumber
  | "0" => s.name
  | _ =>
    if Decimal.isNumeral name.toList then
      (s.arguments[Decimal.value name.toList - 1]?).getD ""
    else (s.assigned.lookup name).getD ""

/-- The words that a piece stands for. -/
def pieceFields (s : State) (p : Piece) : List String :=
  match p.content, p.quoted with
  | .text t, _ => [t]
  | .parameter "@", _ | .parameter "*", false => s.arguments
  | .parameter "*", true => [" ".intercalate s.arguments]
  | .parameter name, true => [s.parameter name]
  | .parameter name, false =>
    ((Text.pieces ' ' (s.parameter name).toList).map String.ofList).filter (· != "")

/-- Joins the last of the first words to the first of the others. -/
def joinFields (l r : List String) : List String :=
  match l.getLast?, r with
  | some a, b :: bs => l.dropLast ++ (a ++ b) :: bs
  | _, _ => l ++ r

/-- The words that a word stands for: one, or none or several where a parameter says so. -/
def fields (s : State) (w : Word) : List String :=
  w.foldl (fun l p => joinFields l (s.pieceFields p)) []

/-- The value of a word that stays one. -/
def value (s : State) (w : Word) : String := " ".intercalate (s.fields w)

/-- Adds to the output if it is read. -/
def put (isRead : Bool) (text : String) (s : State) : State :=
  if isRead then { s with output := s.output ++ text } else s

def print (text : String) (s : State) : State := s.put s.readers.output text

/-- Complains about a command in a line. -/
def complain (line : Nat) (text : String) (s : State) : State :=
  s.put s.readers.complaints (s.name ++ ": " ++ Decimal.write line ++ ": " ++ text ++ "\n")

def ended (status : Nat) (s : State) : State × Fate := ({ s with status }, .goesOn)

end State

/-! ## §2. Commands of the shell itself. -/

/-- Statuses have one byte. -/
def statusBound : Nat := 256

/-- A number of the shell: not negative, below two to the power of 31, blanks
around it allowed. -/
def number? (word : String) : Option Nat :=
  Decimal.readSignedBelow? (Nat.pow 2 31) (Text.trim word.toList)

/-- The text after a backslash that `echo` knows. -/
def escape? (c : Char) : Option Char :=
  match c with
  | 'a' => some '\x07'
  | 'b' => some '\x08'
  | 'f' => some '\x0c'
  | 'n' => some '\n'
  | 'r' => some '\x0d'
  | 't' => some '\t'
  | 'v' => some '\x0b'
  | '\\' => some '\\'
  | _ => none

/-- Puts the characters in place of the escapes.  Whether the text ends early
comes with it. -/
def unescape : List Char → List Char × Bool
  | '\\' :: 'c' :: _ => ([], true)
  | '\\' :: '0' :: a :: b :: c :: cs =>
    let ds := [a, b, c].takeWhile fun d => '0' ≤ d && d ≤ '7'
    let (rest, isShort) := unescape ([a, b, c].drop ds.length ++ cs)
    (Char.ofNat (Nat.ofDigitChars 8 ds 0 % 256) :: rest, isShort)
  | '\\' :: c :: cs =>
    let (rest, isShort) := unescape cs
    ((match escape? c with
      | some d => d :: rest
      | none => '\\' :: c :: rest), isShort)
  | c :: cs =>
    let (rest, isShort) := unescape cs
    (c :: rest, isShort)
  | [] => ([], false)
termination_by cs => cs.length
decreasing_by all_goals simp; try grind

/-- The text that `echo` prints. -/
def echoed (words : List String) : String :=
  let (words, isBare) := match words with
    | "-n" :: words => (words, true)
    | words => (words, false)
  let (text, isShort) := unescape (" ".intercalate words).toList
  String.ofList text ++ if isBare || isShort then "" else "\n"

/-- The signal and the processes that the words after `kill` name. -/
def killed? : List String → Except String (Nat × List String)
  | "-s" :: name :: targets =>
    match Signal.number? name with
    | some n => .ok (n, targets)
    | none => .error ("invalid signal number or name: " ++ name)
  | word :: targets =>
    match word.toList with
    | ['-', '-'] => .ok (Signal.terminate, targets)
    | ['-', 's'] => .error "No arg for -s option"
    | '-' :: name =>
      match Signal.number? (String.ofList name), name with
      | some n, _ => .ok (n, targets)
      | none, 's' :: name => .error ("invalid signal number or name: " ++ String.ofList name)
      | none, c :: _ => .error ("Illegal option -" ++ c.toString)
      | none, [] => .error "Illegal number: "
    | _ => .ok (Signal.terminate, word :: targets)
  | [] => .ok (Signal.terminate, [])

/-- How to use `kill`. -/
def killUsage : String :=
  "Usage: kill [-s sigspec | -signum | -sigspec] [pid | job]... or\nkill -l [exitstatus]"

namespace State

/-- Sends signals. -/
def kill (line : Nat) (words : List String) (s : State) : State × Fate :=
  let failed (status : Nat) (text : String) := (s.complain line ("kill: " ++ text)).ended status
  match killed? words with
  | .error text => failed misuse text
  | .ok (_, []) => failed misuse killUsage
  | .ok (signal, targets) =>
    -- a dash in front names a group of processes
    let named := targets.map fun t => if t.toList.head? = some '-' then String.ofList t.toList.tail else t
    match named.find? fun t => (number? t).isNone with
    | some t => failed misuse ("Illegal number: " ++ t)
    | none =>
      if targets.contains processNumber then
        match Signal.effect signal with
        | .ends => (s, .dies signal)
        | .halts => (s, .lasts)
        | .passes => s.ended 0
      else failed 1 "No such process\n"

/-- Ends the script with the status that a word names. -/
def exit (line : Nat) (words : List String) (s : State) : State × Fate :=
  match words with
  | [] => (s, .ends s.status)
  | word :: _ =>
    match number? word with
    | some n => (s, .ends (n % statusBound))
    | none => (s.complain line ("exit: Illegal number: " ++ word), .ends misuse)

/-- Takes over what a program printed and how long it paused. -/
def witness (o : External.Outcome) (s : State) : State :=
  { (s.print o.output).put s.readers.complaints o.complaint with pause := s.pause + o.pause }

/-- Runs a program that is not part of the shell. -/
def runExternal (line : Nat) (word : String) (words : List String) (s : State) :
    State × Fate :=
  match External.run? (External.nameOf word) word words with
  | some o =>
    let s := s.witness o
    match o.fate with
    | .ends status => s.ended status
    | fate => (s, fate)
  | none => (s.complain line (word ++ ": not found")).ended External.notFound

/-- Runs a command in place of the script. -/
def replace (line : Nat) (words : List String) (s : State) : State × Fate :=
  match words with
  | [] => s.ended 0
  | word :: words =>
    match External.run? (External.nameOf word) word words with
    | some o => (s.witness o, o.fate)
    | none => (s.complain line ("exec: " ++ word ++ ": not found"), .ends External.notFound)

/-- The variable that a word sets. -/
def assignment? (s : State) (w : Word) : Option (String × String) :=
  match w with
  | ⟨.text t, false⟩ :: rest => do
    let (name, value) ← Text.cut? ['='] t.toList
    let first ← name.head?
    if Scan.isNameStart first && name.all (fun c => Scan.isNameStart c || c.isDigit) then
      some (String.ofList name, s.value (⟨.text (String.ofList value), true⟩ :: rest))
    else none
  | _ => none

/-- Drops the first arguments. -/
def shift (line : Nat) (words : List String) (s : State) : State × Fate :=
  match number? (words.headD "1") with
  | none => (s.complain line ("shift: Illegal number: " ++ words.headD ""), .ends misuse)
  | some n =>
    if s.arguments.length < n then (s.complain line "shift: can't shift that many", .ends misuse)
    else { s with arguments := s.arguments.drop n }.ended 0

/-- Sets options: `e` makes the first failure the end. -/
def setOptions (words : List String) (s : State) : State :=
  words.foldl (fun s word => match word.toList with
    | '-' :: letters => { s with strict := s.strict || letters.contains 'e' }
    | '+' :: letters => { s with strict := s.strict && !letters.contains 'e' }
    | _ => s) s

/-- Runs a command that a name and words make up. -/
def perform (line : Nat) (name : String) (words : List String) (s : State) : State × Fate :=
  match name with
  | "echo" => (s.print (echoed words)).ended 0
  | "exit" | "return" => s.exit line words
  | "shift" => s.shift line words
  | "read" => s.ended 1
  | "wait" | "unset" => s.ended 0
  | "kill" => s.kill line words
  | "exec" => s.replace line words
  | "set" => (s.setOptions words).ended 0
  | ":" | "true" => s.ended 0
  | "false" => s.ended 1
  | _ => s.runExternal line name words

/-! ## §3. Running. -/

/-- Where output that nobody reads goes. -/
def nowhere : String := "/dev/null"

/-- Who reads a stream, by its number. -/
def readerOf (r : Readers) (stream : String) : Bool :=
  if stream = "2" then r.complaints else r.output

/-- The readers after a redirection; only streams that lead nowhere or to one another count. -/
def redirect (s : State) (r : Readers) (d : Redirection) : Readers :=
  let target := s.value d.target
  let isRead := match d.operator with
    | ">&" => some (readerOf r target)
    | ">" | ">>" | ">|" => if target = nowhere then some false else none
    | _ => none
  match isRead, d.stream.getD "1" with
  | some b, "1" => { r with output := b }
  | some b, "2" => { r with complaints := b }
  | _, _ => r

/-- Runs a command: first the variables that it sets, then what is left of it. -/
def runCommand (c : Command) (s : State) : State × Fate :=
  let settings := c.words.takeWhile fun w => (s.assignment? w).isSome
  match (c.words.drop settings.length).flatMap s.fields with
  | [] =>
    let assigned := (settings.filterMap s.assignment?).reverse ++ s.assigned
    { s with assigned }.ended 0
  | name :: words =>
    let readers := c.redirections.foldl s.redirect s.readers
    let (after, fate) := { s with readers }.perform c.line name words
    -- redirections of nothing but the shell itself stay
    ({ after with readers := if name = "exec" && words.isEmpty then readers else s.readers }, fate)

/-- Runs a chain.  With the state comes whether its last command had a failure
that nothing looked at. -/
def runChain : Chain → Bool → State → State × Fate × Bool
  | [], failed, s => (s, .goesOn, failed)
  | c :: rest, _, s =>
    let isRun := match c.link with
      | .always => true
      | .onSuccess => s.status = 0
      | .onFailure => s.status ≠ 0
    if !isRun then runChain rest false s
    else match s.runCommand c with
      | (s, .goesOn) =>
        let s := if c.negated then { s with status := if s.status = 0 then 1 else 0 } else s
        runChain rest (s.status ≠ 0 && !c.negated && rest.isEmpty) s
      | (s, fate) => (s, fate, false)

def runLine : List Chain → State → State × Fate
  | [], s => (s, .goesOn)
  | chain :: rest, s =>
    match runChain chain false s with
    | (s, .goesOn, failed) =>
      if failed && s.strict then (s, .ends s.status) else runLine rest s
    | (s, fate, _) => (s, fate)

def runLines (fault : Option Fault) : List (List Chain) → State → State × Fate
  | [], s =>
    match fault with
    | none => (s, .ends s.status)
    | some fault => (s.complain fault.line fault.message, .ends misuse)
  | line :: rest, s =>
    match runLine line s with
    | (s, .goesOn) => runLines fault rest s
    | (s, fate) => (s, fate)

end State

/-- What a script does, from a state on. -/
def Script.run (script : Script) (s : State) : External.Outcome :=
  let (s, fate) := s.runLines script.fault script.lines
  { output := s.output, pause := s.pause, fate }

end SwapBridge.Shell
