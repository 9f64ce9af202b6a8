/-
  SwapBridge.Json.Token
  ─────────────────────
  **THE WORDS OF A JSON TEXT.**

  A text is read one character at a time by a machine whose state says which
  word it is in.  Numbers and names end at the first character that cannot go
  on, so that character is looked at again between words.

    • `Scan.step` — one character, and the words that it completes,
    • `Token.read` — all words of a text, or nothing where a word is malformed.
-/
import SwapBridge.Json.Basic

namespace SwapBridge.Json

inductive Token where
  | beginArray
  | endArray
  | beginObject
  | endObject
  | colon
  | comma
  | null
  | bool (b : Bool)
  | number (digits : List Char)
  | string (text : JsonText)
  deriving DecidableEq, Repr

/-! ## §1. Surrogate pairs. -/

def isHighSurrogate (n : Nat) : Bool := 0xD800 ≤ n && n ≤ 0xDBFF

def isLowSurrogate (n : Nat) : Bool := 0xDC00 ≤ n && n ≤ 0xDFFF

/-- Joins pairs of surrogates; one that is left alone has no text. -/
def joinSurrogates : List Nat → Option (List Char)
  | [] => some []
  | [n] => if isHighSurrogate n || isLowSurrogate n then none else some [Char.ofNat n]
  | n :: m :: rest =>
    if isHighSurrogate n then
      if isLowSurrogate m then
        (joinSurrogates rest).map (Char.ofNat (0x10000 + (n - 0xD800) * 0x400 + (m - 0xDC00)) :: ·)
      else none
    else if isLowSurrogate n then none
    else (joinSurrogates (m :: rest)).map (Char.ofNat n :: ·)

def textOfUnits (units : List Nat) : JsonText := (joinSurrogates units).map String.ofList

/-! ## §2. The machine. -/

/-- How far a number has come. -/
inductive NumberPart where
  /-- A minus sign and nothing else. -/
  | sign
  /-- A zero that stands for the whole part. -/
  | zero
  | whole
  /-- A point and no digit behind it. -/
  | point
  | fraction
  /-- The letter of the exponent and nothing behind it. -/
  | exponentMark
  /-- The sign of the exponent and no digit behind it. -/
  | exponentSign
  | exponent
  deriving DecidableEq, Repr

/-- Whether a number may end here. -/
def NumberPart.isComplete : NumberPart → Bool
  | .zero | .whole | .fraction | .exponent => true
  | _ => false

/-- Where a further character of a number leads, if it may stand here. -/
def NumberPart.next (p : NumberPart) (c : Char) : Option NumberPart :=
  let mark := c = 'e' || c = 'E'
  match p with
  | .sign => if c = '0' then some .zero else if c.isDigit then some .whole else none
  | .zero => if c = '.' then some .point else if mark then some .exponentMark else none
  | .whole =>
    if c.isDigit then some .whole
    else if c = '.' then some .point
    else if mark then some .exponentMark else none
  | .point => if c.isDigit then some .fraction else none
  | .fraction =>
    if c.isDigit then some .fraction else if mark then some .exponentMark else none
  | .exponentMark =>
    if c.isDigit then some .exponent
    else if c = '+' || c = '-' then some .exponentSign else none
  | .exponentSign | .exponent => if c.isDigit then some .exponent else none

/-- The word that the machine is in; what it has of it is kept backwards. -/
inductive Scan where
  | between
  | name (chars : List Char)
  | number (part : NumberPart) (digits : List Char)
  | string (units : List Nat)
  | escape (units : List Nat)
  | unicode (units : List Nat) (count value : Nat)
  deriving DecidableEq, Repr

namespace Scan

/-- The blanks that may stand between words. -/
def isSpace (c : Char) : Bool := c = ' ' || c = '\t' || c = '\n' || c = '\r'

def hexValue? (c : Char) : Option Nat :=
  if c.isDigit then some (c.toNat - '0'.toNat)
  else if 'a' ≤ c && c ≤ 'f' then some (c.toNat - 'a'.toNat + 10)
  else if 'A' ≤ c && c ≤ 'F' then some (c.toNat - 'A'.toNat + 10)
  else none

/-- The character that a one-letter escape stands for. -/
def escaped? (c : Char) : Option Nat :=
  if c = '"' || c = '\\' || c = '/' then some c.toNat
  else if c = 'b' then some 8
  else if c = 'f' then some 12
  else if c = 'n' then some 10
  else if c = 'r' then some 13
  else if c = 't' then some 9
  else none

def punctuation? (c : Char) : Option Token :=
  if c = '[' then some .beginArray
  else if c = ']' then some .endArray
  else if c = '{' then some .beginObject
  else if c = '}' then some .endObject
  else if c = ':' then some .colon
  else if c = ',' then some .comma
  else none

/-- The word for a name. -/
def named? (cs : List Char) : Option Token :=
  if cs = "null".toList then some .null
  else if cs = "true".toList then some (.bool true)
  else if cs = "false".toList then some (.bool false)
  else none

/-- A character between words. -/
def start (c : Char) : Option (List Token × Scan) :=
  if isSpace c then some ([], .between)
  else if c = '"' then some ([], .string [])
  else if c = '-' then some ([], .number .sign [c])
  else if c = '0' then some ([], .number .zero [c])
  else if c.isDigit then some ([], .number .whole [c])
  else if c.isLower then some ([], .name [c])
  else (punctuation? c).map fun t => ([t], .between)

/-- Ends the word that ended before `c`, then looks at `c` between words. -/
def finishThen (t : Option Token) (c : Char) : Option (List Token × Scan) :=
  t.bind fun t => (start c).map fun (ts, s) => (t :: ts, s)

def step (s : Scan) (c : Char) : Option (List Token × Scan) :=
  match s with
  | .between => start c
  | .name cs =>
    if c.isLower then some ([], .name (c :: cs)) else finishThen (named? cs.reverse) c
  | .number part ds =>
    match part.next c with
    | some part => some ([], .number part (c :: ds))
    | none => finishThen (if part.isComplete then some (.number ds.reverse) else none) c
  | .string units =>
    if c = '"' then some ([.string (textOfUnits units.reverse)], .between)
    else if c = '\\' then some ([], .escape units)
    -- control characters must be escaped
    else if c.toNat < 0x20 then none
    else some ([], .string (c.toNat :: units))
  | .escape units =>
    if c = 'u' then some ([], .unicode units 0 0)
    else (escaped? c).map fun n => ([], .string (n :: units))
  | .unicode units count value =>
    (hexValue? c).map fun d =>
      -- the fourth digit ends the escape
      if count = 3 then ([], .string ((value * 16 + d) :: units))
      else ([], .unicode units (count + 1) (value * 16 + d))

/-- The word that the end of the text completes. -/
def finish : Scan → Option (List Token)
  | .between => some []
  | .name cs => (named? cs.reverse).map ([·])
  | .number part ds => if part.isComplete then some [.number ds.reverse] else none
  | _ => none

/-- The words from here on; those of `done` come before them, backwards. -/
def run (done : List Token) (s : Scan) : List Char → Option (List Token)
  | [] => s.finish.map (done.reverse ++ ·)
  | c :: cs =>
    match s.step c with
    | none => none
    | some (ts, s) => run (ts.reverse ++ done) s cs

end Scan

/-- All words of a text. -/
def Token.read (cs : List Char) : Option (List Token) := Scan.run [] .between cs

end SwapBridge.Json
