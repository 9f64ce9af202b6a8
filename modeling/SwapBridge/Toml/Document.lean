/-
  SwapBridge.Toml.Document
  ────────────────────────
  **CONFIGURATION DOCUMENTS.**

  A document has entries at its top and sections with entries of their own.
  Texts are written as basic strings: quotes, backslashes and all control
  characters are escaped, so no value reaches beyond its line.
-/
import SwapBridge.Text.Blank
import SwapBridge.Text.Decimal

namespace SwapBridge.Toml

inductive Value where
  | text (s : String)
  | number (n : Nat)
  | flag (b : Bool)
  deriving DecidableEq, Repr

structure Entry where
  key : String
  value : Value
  deriving DecidableEq, Repr

structure Section where
  name : String
  entries : List Entry
  deriving DecidableEq, Repr

structure Document where
  top : List Entry
  sections : List Section
  deriving DecidableEq, Repr

/-! ## Writing -/

/-- Four digits to the base sixteen, in capitals. -/
def hex4 (n : Nat) : List Char :=
  let digit := fun k => (Nat.digitChar (n / Nat.pow 16 k % 16)).toUpper
  [digit 3, digit 2, digit 1, digit 0]

def escape (c : Char) : List Char :=
  if c = '"' then ['\\', '"']
  else if c = '\\' then ['\\', '\\']
  else if c = '\n' then ['\\', 'n']
  else if c = '\r' then ['\\', 'r']
  else if c = '\t' then ['\\', 't']
  else if Text.isControl c then '\\' :: 'u' :: hex4 c.toNat
  else [c]

def quoted (s : String) : List Char := '"' :: s.toList.flatMap escape ++ ['"']

def Value.chars : Value → List Char
  | .text s => quoted s
  | .number n => Decimal.digits n
  | .flag true => "true".toList
  | .flag false => "false".toList

def Entry.chars (e : Entry) : List Char := e.key.toList ++ " = ".toList ++ e.value.chars ++ ['\n']

def Section.chars (s : Section) : List Char :=
  '\n' :: '[' :: s.name.toList ++ [']', '\n'] ++ s.entries.flatMap Entry.chars

def Document.chars (d : Document) : List Char :=
  d.top.flatMap Entry.chars ++ d.sections.flatMap Section.chars

def Document.write (d : Document) : String := String.ofList d.chars

end SwapBridge.Toml
