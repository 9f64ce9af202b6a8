/-
  SwapBridge.Rpc.Status
  ─────────────────────
  **HOW A CALL CAN END BADLY.**

  The daemon answers a call that it does not serve with a code and a message.
  On its way the message is taken for text with percent signs in it.

    • `Status.received` — what the caller gets.
-/
import SwapBridge.Text.Percent
import SwapBridge.Text.Utf8

namespace SwapBridge.Rpc

inductive Code where
  | ok
  | cancelled
  | unknown
  | invalidArgument
  | deadlineExceeded
  | notFound
  | alreadyExists
  | permissionDenied
  | resourceExhausted
  | failedPrecondition
  | aborted
  | outOfRange
  | unimplemented
  | internal
  | unavailable
  | dataLoss
  | unauthenticated
  deriving DecidableEq, Repr

namespace Code

def name : Code → String
  | .ok => "Ok"
  | .cancelled => "Cancelled"
  | .unknown => "Unknown"
  | .invalidArgument => "InvalidArgument"
  | .deadlineExceeded => "DeadlineExceeded"
  | .notFound => "NotFound"
  | .alreadyExists => "AlreadyExists"
  | .permissionDenied => "PermissionDenied"
  | .resourceExhausted => "ResourceExhausted"
  | .failedPrecondition => "FailedPrecondition"
  | .aborted => "Aborted"
  | .outOfRange => "OutOfRange"
  | .unimplemented => "Unimplemented"
  | .internal => "Internal"
  | .unavailable => "Unavailable"
  | .dataLoss => "DataLoss"
  | .unauthenticated => "Unauthenticated"

def all : List Code :=
  [.ok, .cancelled, .unknown, .invalidArgument, .deadlineExceeded, .notFound, .alreadyExists,
    .permissionDenied, .resourceExhausted, .failedPrecondition, .aborted, .outOfRange,
    .unimplemented, .internal, .unavailable, .dataLoss, .unauthenticated]

def ofName? (s : String) : Option Code := all.find? (·.name == s)

end Code

structure Status where
  code : Code
  message : String
  deriving DecidableEq, Repr

/-- A status as the caller gets it.  The code is lost with a message that is no text. -/
def Status.received (s : Status) : Status :=
  match Utf8.readStrict (Percent.decode s.message.toUTF8.toList) with
  | .ok message => { s with message }
  | .error fault =>
    ⟨.unknown, "Error deserializing status message header: " ++ fault.message⟩

end SwapBridge.Rpc
