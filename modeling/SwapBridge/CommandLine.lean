/-
  SwapBridge.CommandLine
  ──────────────────────
  **WORDS ON A COMMAND LINE.**

  A word with two dashes in front names an option.  An option has its value
  behind an equals sign or in the next word, a switch has none, and neither is
  given twice.  All other words are operands.  Behind a word of two dashes and
  nothing else every word is an operand.  The first thing that is wrong decides,
  and a value in a word of its own is looked at when the line goes on with
  anything but a command.

    • `Line.read` — the options, switches and operands that a program knows,
    • `Line.text?`, `Line.word?`, … — the value of an option.
-/
import SwapBridge.Text.Decimal
import SwapBridge.Text.Split

namespace SwapBridge.CommandLine

/-! ## §1. Words. -/

/-- Why a command line is not carried out. -/
inductive Refusal where
  /-- Help was asked for. -/
  | help
  | misuse
  deriving DecidableEq, Repr

inductive Word where
  /-- Two dashes and nothing else. -/
  | divider
  | long (name : String) (value : Option String)
  /-- One dash and letters. -/
  | short (letters : List Char)
  | plain
  deriving DecidableEq, Repr

namespace Word

/-- What a word is by its dashes.  A dash alone is an operand. -/
def ofChars : List Char → Word
  | ['-', '-'] => .divider
  | '-' :: '-' :: cs =>
    match Text.cut? ['='] cs with
    | some (name, value) => .long (String.ofList name) (some (String.ofList value))
    | none => .long (String.ofList cs) none
  | '-' :: c :: cs => .short (c :: cs)
  | _ => .plain

def ofString (s : String) : Word := ofChars s.toList

end Word

/-! ## §2. Lines. -/

/-- What the value of an option is. -/
inductive Kind where
  | text
  /-- Text that is not empty. -/
  | path
  /-- A number below a bound. -/
  | number (bound : Nat)
  deriving DecidableEq, Repr

namespace Kind

/-- A number of 16 bits. -/
def word16 : Kind := .number UInt16.size

/-- A number of 64 bits. -/
def word64 : Kind := .number UInt64.size

def accepts (value : String) : Kind → Bool
  | .text => true
  | .path => value != ""
  | .number bound => (Decimal.readSignedBelow? bound value.toList).isSome

end Kind

/-- What a program knows. -/
structure Shape where
  switches : List String := []
  options : List (String × Kind) := []
  /-- How many operands there may be. -/
  operands : Nat := 0
  /-- The first operand is a command, and the words behind it are left to it. -/
  hasCommand : Bool := false

structure Line where
  switches : List String := []
  options : List (String × String) := []
  operands : List String := []
  /-- An option whose value was not looked at yet. -/
  unsettled : Option (String × String) := none
  /-- The command and the words behind it. -/
  command : List String := []
  deriving DecidableEq, Repr

namespace Line

def addOption (s : Shape) (name value : String) (l : Line) : Except Refusal Line :=
  if (l.options.lookup name).isSome then .error .misuse
  else if (s.options.lookup name).any (·.accepts value) then
    .ok { l with options := l.options ++ [(name, value)] }
  else .error .misuse

/-- Looks at the value that was left. -/
def settle (s : Shape) (l : Line) : Except Refusal Line :=
  match l.unsettled with
  | none => .ok l
  | some (name, value) => addOption s name value { l with unsettled := none }

def addSwitch (name : String) (l : Line) : Except Refusal Line :=
  if l.switches.contains name then .error .misuse
  else .ok { l with switches := l.switches ++ [name] }

def addOperands (s : Shape) (words : List String) (l : Line) : Except Refusal Line :=
  if s.operands < l.operands.length + words.length then .error .misuse
  else .ok { l with operands := l.operands ++ words }

/-- What a word is on a line that is settled. -/
inductive Step where
  | done (l : Line)
  | next (l : Line)
  /-- The next word is the value of an option. -/
  | valueOf (name : String)

/-- Takes one word, before `rest`. -/
def step (s : Shape) (rest : List String) (word : String) (l : Line) : Except Refusal Step :=
  match Word.ofString word with
  | .divider => (l.addOperands s rest).map .done
  | .short letters => .error (if letters.head? = some 'h' then .help else .misuse)
  | .plain => (l.addOperands s [word]).map .next
  | .long name value =>
    match s.options.lookup name, value with
    | some _, some value => (addOption s name value l).map .next
    | some _, none => .ok (.valueOf name)
    | none, some _ => .error .misuse
    | none, none =>
      if s.switches.contains name then (l.addSwitch name).map .next
      else .error (if name = "help" then .help else .misuse)

/-- Reads words after those that made `l`. -/
def readFrom (s : Shape) (l : Line) : List String → Except Refusal Line
  | [] => l.settle s
  | word :: rest =>
    -- what stands behind a command is read by the command
    if s.hasCommand && Word.ofString word == .plain then .ok { l with command := word :: rest }
    else match l.settle s with
      | .error r => .error r
      | .ok l =>
        match step s rest word l, rest with
        | .error r, _ => .error r
        | .ok (.done l), _ => .ok l
        | .ok (.next l), rest => readFrom s l rest
        | .ok (.valueOf name), value :: rest =>
          -- the next word is the value, unless it looks like an option itself
          if Word.ofString value == .plain then
            readFrom s { l with unsettled := some (name, value) } rest
          else .error .misuse
        | .ok (.valueOf _), [] => .error .misuse

def read (s : Shape) (words : List String) : Except Refusal Line := readFrom s {} words

/-! ## §3. Values. -/

def hasSwitch (l : Line) (name : String) : Bool := l.switches.contains name

def text? (l : Line) (name : String) : Option String := l.options.lookup name

/-- An option that must be given. -/
def text (l : Line) (name : String) : Except Refusal String :=
  match l.text? name with
  | some s => .ok s
  | none => .error .misuse

/-- The number that an option has. -/
def number? (l : Line) (name : String) : Option Nat :=
  (l.text? name).bind fun value => Decimal.readSignedBelow? UInt64.size value.toList

end Line

end SwapBridge.CommandLine
