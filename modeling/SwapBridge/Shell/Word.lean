/-
  SwapBridge.Shell.Word
  ─────────────────────
  **THE WORDS OF A SHELL SCRIPT.**

  A script is cut into words and operators.  A word is made of pieces: texts,
  and parameters whose values are put in when the command is run.  Quotes and
  backslashes take the meaning from the characters that they guard.

    • `Token.ofText` — the words and operators of a script, each with its line.
-/

namespace SwapBridge.Shell

/-- What a piece of a word stands for. -/
inductive Content where
  | text (s : String)
  | parameter (name : String)
  deriving DecidableEq, Repr

structure Piece where
  content : Content
  quoted : Bool
  deriving DecidableEq, Repr

abbrev Word := List Piece

inductive Token where
  | word (w : Word)
  /-- An operator, with the number that stands directly before a redirection. -/
  | operator (stream : Option String) (text : String)
  /-- The script ends inside quotes. -/
  | unclosed
  deriving DecidableEq, Repr

/-- The operator that the end of a line is. -/
def newline : String := "\n"

/-- Where the reader of a script stands. -/
inductive Mode where
  | plain
  | single
  | double
  | comment
  /-- After a backslash. -/
  | escaped (quoted : Bool)
  /-- After a dollar sign. -/
  | dollar (quoted : Bool)
  /-- In the name of a parameter. -/
  | named (quoted : Bool) (name : String)
  /-- In the name of a parameter between braces. -/
  | braced (quoted : Bool) (name : String)
  /-- After an operator of one character, which may have a second one. -/
  | operator (stream : Option String) (first : Char)
  deriving DecidableEq, Repr

/-- A script that is being cut; what comes last stands first. -/
structure Scan where
  tokens : List (Nat × Token) := []
  word : Option Word := none
  mode : Mode := .plain
  line : Nat := 1

namespace Scan

def back (quoted : Bool) : Mode := if quoted then .double else .plain

/-- Adds a piece to the word; texts of one kind grow together. -/
def push (p : Piece) (s : Scan) : Scan :=
  let word := match p.content, s.word with
    | .text t, some (⟨.text u, q⟩ :: ps) =>
      if q = p.quoted then ⟨.text (u ++ t), q⟩ :: ps else p :: ⟨.text u, q⟩ :: ps
    | _, ps => p :: ps.getD []
  { s with word := some word }

def pushText (quoted : Bool) (t : String) (s : Scan) : Scan := s.push ⟨.text t, quoted⟩

def pushParameter (quoted : Bool) (name : String) (s : Scan) : Scan :=
  { s.push ⟨.parameter name, quoted⟩ with mode := back quoted }

def emit (t : Token) (s : Scan) : Scan := { s with tokens := (s.line, t) :: s.tokens }

def endWord (s : Scan) : Scan :=
  match s.word with
  | none => s
  | some w => { s.emit (.word w.reverse) with word := none }

/-- The characters that operators are made of. -/
def isOperator (c : Char) : Bool := ['&', '|', ';', '<', '>', '(', ')'].contains c

/-- The operators of two characters. -/
def pairs : List String := ["&&", "||", ";;", ">>", "<<", ">&", "<&", "<>", ">|"]

/-- Begins an operator.  Digits before a redirection belong to it. -/
def beginOperator (c : Char) (s : Scan) : Scan :=
  match s.word with
  | some [⟨.text t, false⟩] =>
    if (c == '<' || c == '>') && t.all Char.isDigit then
      { s with word := none, mode := .operator (some t) c }
    else { s.endWord with mode := .operator none c }
  | _ => { s.endWord with mode := .operator none c }

/-- A character outside quotes. -/
def plain (s : Scan) (c : Char) : Scan :=
  let s := { s with mode := .plain }
  if c = '\n' then
    let s := s.endWord.emit (.operator none newline)
    { s with line := s.line + 1 }
  else if c = ' ' || c = '\t' then s.endWord
  else if isOperator c then s.beginOperator c
  else match c with
    | '\'' => { s.pushText true "" with mode := .single }
    | '"' => { s.pushText true "" with mode := .double }
    | '\\' => { s with mode := .escaped false }
    | '$' => { s with mode := .dollar false }
    | '#' => if s.word.isNone then { s with mode := .comment } else s.pushText false "#"
    | c => s.pushText false c.toString

def newLine (c : Char) (s : Scan) : Scan := if c = '\n' then { s with line := s.line + 1 } else s

/-- A character between double quotes. -/
def double (s : Scan) (c : Char) : Scan :=
  let s := newLine c { s with mode := .double }
  match c with
  | '"' => { s with mode := .plain }
  | '\\' => { s with mode := .escaped true }
  | '$' => { s with mode := .dollar true }
  | c => s.pushText true c.toString

def plainOrDouble (quoted : Bool) (s : Scan) (c : Char) : Scan :=
  if quoted then s.double c else s.plain c

/-- The parameters that one character names. -/
def isSpecial (c : Char) : Bool := c.isDigit || ['@', '*', '#', '?', '-', '$', '!'].contains c

def isNameStart (c : Char) : Bool := c.isAlpha || c = '_'

/-- The characters that a backslash guards between double quotes. -/
def isGuarded (c : Char) : Bool := ['$', '\x60', '"', '\\'].contains c

def step (s : Scan) (c : Char) : Scan :=
  match s.mode with
  | .plain => s.plain c
  | .double => s.double c
  | .single =>
    if c = '\'' then { s with mode := .plain } else newLine c (s.pushText true c.toString)
  | .comment => if c = '\n' then s.plain c else s
  | .escaped quoted =>
    let s := newLine c { s with mode := back quoted }
    if c = '\n' then s
    else s.pushText true (if quoted && !isGuarded c then "\\" ++ c.toString else c.toString)
  | .dollar quoted =>
    if isNameStart c then { s with mode := .named quoted c.toString }
    else if isSpecial c then s.pushParameter quoted c.toString
    else if c = '\x7b' then { s with mode := .braced quoted "" }
    else plainOrDouble quoted (s.pushText quoted "$") c
  | .named quoted name =>
    if isNameStart c || c.isDigit then { s with mode := .named quoted (name.push c) }
    else plainOrDouble quoted (s.pushParameter quoted name) c
  | .braced quoted name =>
    if c = '\x7d' then s.pushParameter quoted name
    else { s with mode := .braced quoted (name.push c) }
  | .operator stream first =>
    let pair := String.ofList [first, c]
    if pairs.contains pair then { s.emit (.operator stream pair) with mode := .plain }
    else (s.emit (.operator stream first.toString)).plain c

/-- The end of the script. -/
def finish (s : Scan) : Scan :=
  match s.mode with
  | .plain | .comment => s.endWord
  | .escaped quoted => if quoted then s.emit .unclosed else (s.pushText true "\\").endWord
  | .dollar quoted => if quoted then s.emit .unclosed else (s.pushText false "$").endWord
  | .named quoted name =>
    if quoted then s.emit .unclosed else (s.pushParameter false name).endWord
  | .operator stream first => s.emit (.operator stream first.toString)
  | .single | .double | .braced _ _ => s.emit .unclosed

end Scan

/-- The words and operators of a script with their lines.  Zeros count for nothing. -/
def Token.ofText (text : String) : List (Nat × Token) :=
  ((text.toList.filter (· != '\x00')).foldl Scan.step {}).finish.tokens.reverse

end SwapBridge.Shell
