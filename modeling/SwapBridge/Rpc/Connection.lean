/-
  SwapBridge.Rpc.Connection
  ─────────────────────────
  **CONNECTIONS TO A DAEMON.**

  A connection has an address, the token that every call presents, and the
  tenant that the calls are made for, if it is not the administrator.  The
  channels behind connections are shared by address.

    • `Rpc.Error.ofStatus` — what a bad answer means to the caller,
    • `Status.SaysNotConfigured`, `Error.isBenign_ofStatus_iff` — the answers
      that callers expect,
    • `Pool.connect` — a connection, by way of the channel for its address.
-/
import SwapBridge.Rpc.Address
import SwapBridge.Rpc.Status
import SwapBridge.Text.Blank
import SwapBridge.Text.Decimal

namespace SwapBridge.Rpc

inductive Error where
  /-- The feature was never set up at the daemon. -/
  | notConfigured (message : String)
  | unavailable (message : String)
  | remote (status : Status)
  | invalidAddress (fault : Address.Fault)
  /-- The token cannot be sent along with a call. -/
  | invalidCredential
  deriving DecidableEq, Repr

namespace Error

/-- Features that were never set up are reported with this phrase. -/
def isAboutSetup (message : String) : Bool :=
  Text.occurs "not configured".toList (Text.lowerAscii message.toList)

def ofStatus (s : Status) : Error :=
  match s.code with
  | .unavailable => .unavailable s.message
  | .notFound | .failedPrecondition | .unknown =>
    if isAboutSetup s.message then .notConfigured s.message else .remote s
  | _ => .remote s

/-- Whether the answer is one that callers expect. -/
def isBenign : Error → Bool
  | .notConfigured _ => true
  | _ => false

def isNotFound : Error → Bool
  | .remote s => s.code == .notFound
  | _ => false

def isAlreadyExists : Error → Bool
  | .remote s => s.code == .alreadyExists
  | _ => false

def message : Error → String
  | .notConfigured m => "not configured: " ++ m
  | .unavailable m => "daemon unavailable: " ++ m
  | .remote s => "daemon returned " ++ s.code.name ++ ": " ++ s.message
  | .invalidAddress _ => "invalid daemon address: invalid URI"
  | .invalidCredential => "credential is not valid metadata"

/-- The error and its causes. -/
def layers (e : Error) : List String :=
  e.message :: match e with
    | .invalidAddress fault => ["invalid URI", fault.message]
    | _ => []

end Error

/-! ## What callers expect -/

/-- A status says that a feature was never set up: one of three codes, and the
phrase "not configured" anywhere in the message, in letters of either case. -/
structure Status.SaysNotConfigured (s : Status) : Prop where
  code : s.code = .notFound ∨ s.code = .failedPrecondition ∨ s.code = .unknown
  phrase : "not configured".toList <:+: Text.lowerAscii s.message.toList

namespace Error

theorem isAboutSetup_iff (message : String) :
    isAboutSetup message = true ↔
      "not configured".toList <:+: Text.lowerAscii message.toList :=
  Text.occurs_iff (by decide)

/-- What `ofStatus` makes of a status: the code decides unless it is one of the
three that stand for many things, where the message does. -/
theorem ofStatus_eq (s : Status) :
    (s.SaysNotConfigured → ofStatus s = .notConfigured s.message)
      ∧ (¬ s.SaysNotConfigured →
          ofStatus s = if s.code = .unavailable then .unavailable s.message else .remote s) := by
  obtain ⟨code, message⟩ := s
  -- only the three codes look at the message
  cases code
  case notFound | failedPrecondition | unknown =>
    refine ⟨fun h => if_pos ((isAboutSetup_iff message).2 h.phrase), fun h => if_neg fun hset => ?_⟩
    exact h ⟨by simp, (isAboutSetup_iff message).1 hset⟩
  all_goals exact ⟨fun h => by simpa using h.code, fun _ => rfl⟩

/-- **The answers that callers expect** are those of a feature that was never set up. -/
theorem isBenign_ofStatus_iff (s : Status) :
    (ofStatus s).isBenign = true ↔ s.SaysNotConfigured := by
  obtain ⟨hunset, hother⟩ := ofStatus_eq s
  constructor
  · refine fun hbenign => Classical.byContradiction fun hnot => ?_
    rw [hother hnot] at hbenign
    split at hbenign <;> cases hbenign
  · intro h
    rw [hunset h]
    rfl

end Error

/-! ## Connections -/

structure Connection where
  address : String
  token : String
  /-- Absent for the administrator. -/
  tenant : Option UInt64
  deriving DecidableEq, Repr

/-- Whether a token can be sent along with a call: tabs and all from the blank
on, without the delete character. -/
def isSendable (token : String) : Bool :=
  token.toList.all fun c => (0x20 ≤ c.toNat && c.toNat != 0x7F) || c == '\t'

/-- The tenant as the daemon sees it. -/
def tenantHeader (tenant : Option UInt64) : Option String :=
  tenant.map fun id => Decimal.write id.toNat

/-- The size that all headers of a call stay below, in bytes. -/
def headerLimit : Nat := 16384

/-- What each header takes besides its name and value. -/
def headerMargin : Nat := 32

/-- What the headers of a call take that say nothing about its caller. -/
def usualHeaders : Nat := 360

/-- What a header takes. -/
def headerSize (name value : String) : Nat :=
  name.utf8ByteSize + value.utf8ByteSize + headerMargin

/-- Whether the headers of a call are too large for the daemon to look at. -/
def Connection.isOversized (c : Connection) : Bool :=
  headerLimit ≤ usualHeaders + headerSize "macaroon" c.token +
    ((tenantHeader c.tenant).map (headerSize "tenant")).getD 0

/-- The addresses that a channel is kept for. -/
structure Pool where
  channels : List String := []
  deriving DecidableEq, Repr

namespace Pool

def size (p : Pool) : Nat := p.channels.length

def clear (_ : Pool) : Pool := {}

/-- The channel is kept before the token is looked at. -/
def connect (p : Pool) (address token : String) (tenant : Option UInt64) :
    Except Error Connection × Pool :=
  let connection : Except Error Connection :=
    if isSendable token then .ok ⟨address, token, tenant⟩ else .error .invalidCredential
  if p.channels.contains address then (connection, p)
  else match Address.check address with
    | .error fault => (.error (.invalidAddress fault), p)
    | .ok () => (connection, ⟨address :: p.channels⟩)

end Pool

end SwapBridge.Rpc
