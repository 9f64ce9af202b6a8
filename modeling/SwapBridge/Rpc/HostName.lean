/-
  SwapBridge.Rpc.HostName
  ───────────────────────
  **HOSTS IN AN AUTHORITY.**

  A host is a number or a name.  Numbers lead to a machine as they are; of the
  names only that of the machine itself is known here.

    • `HostName.ofAuthority` — the host without user and port,
    • `HostName.isKnown` — whether it leads to a machine.
-/
import SwapBridge.Text.Decimal
import SwapBridge.Text.Hex
import SwapBridge.Text.Split

namespace SwapBridge.Rpc.HostName

/-- The host of an authority; brackets around a number belong to it. -/
def ofAuthority (authority : List Char) : List Char :=
  let place := ((Text.cutLast? '@' authority).map (·.2)).getD authority
  if place.head? = some '[' then place.takeWhile (· != ']') ++ [']']
  else place.takeWhile (· != ':')

/-! ## §1. Numbers of four bytes. -/

/-- The value of digits to a base. -/
def valueIn (base : Nat) (cs : List Char) : Option Nat :=
  let digits := cs.map fun c => (Hex.digit? c).filter (· < base)
  if cs.isEmpty || digits.contains none then none
  else some (digits.reduceOption.foldl (fun n d => base * n + d) 0)

/-- A part of a number: to the base 16 after `0x`, to the base 8 after another zero. -/
def part? : List Char → Option Nat
  | '0' :: x :: cs => if x == 'x' || x == 'X' then valueIn 16 cs else valueIn 8 (x :: cs)
  | cs => valueIn 10 cs

/-- Whether the parts between dots make four bytes; the last part may be for several of them. -/
def isShortNumber (cs : List Char) : Bool :=
  let parts := (Text.pieces '.' cs).map part?
  let values := parts.reduceOption
  parts.length ≤ 4 && values.length == parts.length &&
    values.dropLast.all (· < 256) && values.getLast?.any (· < Nat.pow 256 (5 - parts.length))

/-! ## §2. Numbers of sixteen bytes. -/

/-- How many groups of two bytes the pieces between colons are; four decimal
bytes at the end are two. -/
def groups? : List (List Char) → Option Nat
  | [] => some 0
  | [last] =>
    let bytes := Text.pieces '.' last
    if bytes.length = 4 then
      if bytes.all fun b => (Decimal.readBelow? 256 b).isSome && b.length ≤ 3 then some 2 else none
    else if last.length ≤ 4 && (valueIn 16 last).isSome then some 1 else none
  | group :: rest =>
    if group.length ≤ 4 && (valueIn 16 group).isSome then (groups? rest).map (· + 1) else none

/-- The pieces between colons; nothing has none. -/
def colonPieces (cs : List Char) : List (List Char) :=
  if cs.isEmpty then [] else Text.pieces ':' cs

/-- Whether groups of two bytes make sixteen; two colons stand for those left out. -/
def isLongNumber (cs : List Char) : Bool :=
  match Text.cut? "::".toList cs with
  | none => groups? (colonPieces cs) == some 8
  | some (before, after) =>
    match groups? (colonPieces before), groups? (colonPieces after) with
    | some m, some n => !before.contains '.' && m + n < 8
    | _, _ => false

/-! ## §3. Known hosts. -/

/-- The name of the machine itself. -/
def ownName : String := "localhost"

def isKnown (host : List Char) : Bool :=
  match host with
  | '[' :: cs => isLongNumber cs.dropLast
  | cs => isShortNumber cs || cs == ownName.toList

end SwapBridge.Rpc.HostName
