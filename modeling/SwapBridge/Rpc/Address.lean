/-
  SwapBridge.Rpc.Address
  ──────────────────────
  **ADDRESSES OF DAEMONS.**

  An address is a URI: a path, an authority, or a scheme with an authority and
  perhaps a path and a query.  It is checked byte by byte before it is used.

    • `Address.check` — what is wrong with an address, if anything,
    • `Address.target?` — the part that says where to connect to.
-/
import SwapBridge.Text.Split

namespace SwapBridge.Rpc.Address

inductive Fault where
  | empty
  | tooLong
  | schemeTooLong
  | badCharacter
  | badAuthority
  | badFormat
  deriving DecidableEq, Repr

def Fault.message : Fault → String
  | .empty => "empty string"
  | .tooLong => "uri too long"
  | .schemeTooLong => "scheme too long"
  | .badCharacter => "invalid uri character"
  | .badAuthority => "invalid authority"
  | .badFormat => "invalid format"

/-! ## §1. Character classes. -/

/-- What may stand in an authority, percent signs apart. -/
def isAuthorityChar (c : Char) : Bool :=
  c.isAlphanum || "!#$&'()*+,-./:;=?@[]_~".toList.contains c

/-- What may stand in a scheme. -/
def isSchemeChar (c : Char) : Bool := c.isAlphanum || c == '+' || c == '-' || c == '.'

/-- What may stand in a path; all beyond ASCII may. -/
def isPathChar (c : Char) : Bool :=
  let n := c.toNat
  n == 0x21 || n == 0x22 || (0x24 ≤ n && n ≤ 0x3B) || n == 0x3D || (0x40 ≤ n && n ≤ 0x5F) ||
    (0x61 ≤ n && n ≤ 0x7E) || 0x80 ≤ n

/-- What may stand in a query; all beyond ASCII may. -/
def isQueryChar (c : Char) : Bool :=
  let n := c.toNat
  n == 0x21 || (0x24 ≤ n && n ≤ 0x3B) || n == 0x3D || (0x3F ≤ n && n ≤ 0x7E) || 0x80 ≤ n

/-! ## §2. Authorities. -/

/-- What the check of an authority has seen so far. -/
structure Seen where
  colons : Nat := 0
  bracketOpened : Bool := false
  bracketClosed : Bool := false
  percent : Bool := false
  /-- The last character was an at sign. -/
  endsInAt : Bool := false

/-- The most colons that may follow each other in a numeric address. -/
def maxColons : Nat := 8

/-- One character of an authority.  A closing bracket and an at sign forget
what was counted before them. -/
def Seen.step (s : Seen) (c : Char) : Except Fault Seen :=
  let s := { s with endsInAt := c == '@' }
  if c = ':' then
    if maxColons ≤ s.colons then .error .badAuthority else .ok { s with colons := s.colons + 1 }
  else if c = '[' then
    if s.percent || s.bracketOpened then .error .badAuthority
    else .ok { s with bracketOpened := true }
  else if c = ']' then
    if !s.bracketOpened || s.bracketClosed then .error .badAuthority
    else .ok { s with bracketClosed := true, colons := 0, percent := false }
  else if c = '@' then .ok { s with colons := 0, percent := false }
  else if c = '%' then .ok { s with percent := true }
  else if isAuthorityChar c then .ok s
  else .error .badCharacter

/-- Where an authority ends. -/
def endsAuthority (c : Char) : Bool := c == '/' || c == '?' || c == '#'

/-- Checks the authority at the start of a text and gives what follows it. -/
def readAuthority (cs : List Char) : Except Fault (List Char × List Char) := do
  let (authority, rest) := cs.span (!endsAuthority ·)
  let seen ← authority.foldlM Seen.step {}
  -- one colon is left for the port; what is in brackets was forgotten at their end
  if seen.bracketOpened != seen.bracketClosed then throw .badAuthority
  if 1 < seen.colons || seen.endsInAt || seen.percent then throw .badAuthority
  return (authority, rest)

/-! ## §3. Paths and schemes. -/

/-- Checks a path and a query; a fragment is not looked at. -/
def checkPath (cs : List Char) : Except Fault Unit :=
  let (path, rest) := cs.span fun c => c != '?' && c != '#'
  if !path.all isPathChar then .error .badCharacter
  else match rest with
    | '?' :: query =>
      if (query.takeWhile (· != '#')).all isQueryChar then .ok () else .error .badCharacter
    | _ => .ok ()

inductive Scheme where
  | none
  /-- A scheme, and what follows the two slashes behind it. -/
  | found (rest : List Char)
  | tooLong

/-- The longest scheme that may be used. -/
def maxScheme : Nat := 64

/-- Looks for a scheme.  The two for the web are found whatever follows; any
other needs more than three characters in all. -/
def readScheme (cs : List Char) : Scheme :=
  let lower := cs.map Char.toLower
  if "http://".toList.isPrefixOf lower then .found (cs.drop 7)
  else if "https://".toList.isPrefixOf lower then .found (cs.drop 8)
  else if cs.length ≤ 3 then .none
  else
    let (name, rest) := cs.span isSchemeChar
    if "://".toList.isPrefixOf rest then
      if maxScheme < name.length then .tooLong else .found (rest.drop 3)
    else .none

/-! ## §4. Addresses. -/

/-- The longest address, in bytes. -/
def maxBytes : Nat := 65534

/-- What an address says. -/
structure Reading where
  /-- Whether there is a scheme. -/
  hasScheme : Bool := false
  /-- Absent where the address is a bare path. -/
  authority : Option (List Char) := none
  deriving DecidableEq, Repr

/-- Reads an address that is in order. -/
def read (s : String) : Except Fault Reading := do
  if maxBytes < s.utf8ByteSize then throw .tooLong
  match s.toList with
  | [] => throw .empty
  | ['/'] | ['*'] => return {}
  -- a single character is a host or nothing at all
  | [c] =>
    let (authority, rest) ← readAuthority [c]
    if rest.isEmpty then return { authority } else throw .badCharacter
  | '/' :: cs =>
    checkPath ('/' :: cs)
    return {}
  | cs =>
    match readScheme cs with
    | .tooLong => throw .schemeTooLong
    | .none =>
      let (authority, rest) ← readAuthority cs
      if rest.isEmpty then return { authority } else throw .badFormat
    | .found [] => throw .empty
    | .found cs =>
      let (authority, rest) ← readAuthority cs
      if authority.isEmpty then throw .badFormat
      checkPath rest
      return { hasScheme := true, authority }

/-- What is wrong with an address. -/
def check (s : String) : Except Fault Unit := (read s).map fun _ => ()

/-- Where an address says to connect to, in small letters.  Without a scheme it
does not say how, so that there is nothing to connect to. -/
def target? (s : String) : Option (List Char) :=
  match read s with
  | .ok ⟨true, some authority⟩ => some (authority.map Char.toLower)
  | _ => none

end SwapBridge.Rpc.Address
