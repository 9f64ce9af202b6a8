/-
  SwapBridge.Invoice
  ──────────────────
  **INVOICES OF THE PLATFORM.**

  An invoice shows one or more prompts, each a way to pay it.  The bridge
  looks after the prompts of one payment method and reads of an invoice only
  what is kept here.
-/

namespace SwapBridge

namespace Invoice

inductive Status where
  | new
  | processing
  | settled
  | invalid
  | expired
  deriving DecidableEq, Repr

def Status.name : Status → String
  | .new => "New"
  | .processing => "Processing"
  | .settled => "Settled"
  | .invalid => "Invalid"
  | .expired => "Expired"

def Status.ofName? (s : String) : Option Status :=
  [.new, .processing, .settled, .invalid, .expired].find? (·.name == s)

/-- What is out of the ordinary about an invoice. -/
inductive Exception where
  | none
  | paidPartial
  | paidOver
  | paidLate
  | marked
  deriving DecidableEq, Repr

def Exception.name : Exception → String
  | .none => "None"
  | .paidPartial => "PaidPartial"
  | .paidOver => "PaidOver"
  | .paidLate => "PaidLate"
  | .marked => "Marked"

def Exception.ofName? (s : String) : Option Exception :=
  [.none, .paidPartial, .paidOver, .paidLate, .marked].find? (·.name == s)

/-- A way to pay an invoice. -/
structure Prompt where
  method : String
  destination : Option String
  active : Bool
  deriving DecidableEq, Repr

end Invoice

structure Invoice where
  id : String
  store : String
  status : Invoice.Status
  exception : Invoice.Exception
  /-- What is still to be paid, in satoshis. -/
  due : UInt64
  prompts : List Invoice.Prompt
  deriving DecidableEq, Repr

/-- The payment method of the prompts that show swap addresses. -/
def boltzMethod : String := "BTC-BOLTZ"

namespace Invoice

/-- The first prompt of a method. -/
def prompt? (i : Invoice) (method : String) : Option Prompt :=
  i.prompts.find? (·.method == method)

/-- Where the first prompt of a method asks to pay to. -/
def destination? (i : Invoice) (method : String) : Option String :=
  (i.prompt? method).bind (·.destination)

/-- Whether the first prompt of a method is active. -/
def isActive (i : Invoice) (method : String) : Bool :=
  match i.prompt? method with
  | some p => p.active
  | none => false

/-- Changes every prompt of a method. -/
def mapPrompts (i : Invoice) (method : String) (f : Prompt → Prompt) : Invoice :=
  { i with prompts := i.prompts.map fun p => if p.method = method then f p else p }

def activate (i : Invoice) (method destination : String) : Invoice :=
  i.mapPrompts method fun p => { p with destination := some destination, active := true }

def deactivate (i : Invoice) (method : String) : Invoice :=
  i.mapPrompts method fun p => { p with active := false }

/-- What the platform says about an invoice. -/
inductive Event where
  | paymentReceived (invoice method : String)
  | dataChanged (invoice : String) (status : Status) (exception : Exception)
  deriving DecidableEq, Repr

def Event.invoice : Event → String
  | .paymentReceived invoice _ => invoice
  | .dataChanged invoice _ _ => invoice

end Invoice

end SwapBridge
