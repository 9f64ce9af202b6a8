/-
  SwapBridge.Swap.Report
  ──────────────────────
  **SWAPS AS THE DAEMON REPORTS THEM.**

  The daemon knows three kinds of swaps and describes each by a record of its
  own.  A report on one swap has a slot per kind; a listing has a list per
  kind.  Only what the bridge reads is kept here.
-/

namespace SwapBridge.Swap

inductive Kind where
  /-- Pays a Lightning invoice from the chain. -/
  | submarine
  /-- Pays out on the chain from Lightning. -/
  | reverse
  /-- Moves coins between two chains. -/
  | chain
  deriving DecidableEq, Repr

def Kind.name : Kind → String
  | .submarine => "submarine"
  | .reverse => "reverse"
  | .chain => "chain"

inductive State where
  | pending
  | successful
  | error
  | serverError
  | refunded
  | abandoned
  deriving DecidableEq, Repr

def State.name : State → String
  | .pending => "pending"
  | .successful => "successful"
  | .error => "error"
  | .serverError => "server_error"
  | .refunded => "refunded"
  | .abandoned => "abandoned"

/-- The state behind the daemon's number; a number without a state is pending. -/
def State.ofNumber : Int → State
  | 1 => .successful
  | 2 => .error
  | 3 => .serverError
  | 4 => .refunded
  | 5 => .abandoned
  | _ => .pending

/-- The status of an automated swap that was just made. -/
def statusCreated : String := "swap.created"

/-- The status of a lockup transaction that waits for its first block. -/
def statusMempool : String := "transaction.mempool"

structure SubmarineInfo where
  id : String := ""
  state : State := .pending
  status : String := ""
  lockupAddress : String := ""
  expectedAmount : UInt64 := 0
  lockupTx : Option String := none
  refundTx : Option String := none
  refundAddress : Option String := none
  automated : Bool := false
  tenantId : UInt64 := 0
  deriving DecidableEq, Repr

structure ReverseInfo where
  id : String := ""
  state : State := .pending
  status : String := ""
  lockupAddress : String := ""
  claimAddress : String := ""
  onchainAmount : UInt64 := 0
  lockupTx : Option String := none
  automated : Bool := false
  tenantId : UInt64 := 0
  deriving DecidableEq, Repr

/-- One side of a chain swap. -/
structure ChainSide where
  amount : UInt64 := 0
  lockupAddress : String := ""
  lockupTx : Option String := none
  address : Option String := none
  deriving DecidableEq, Repr

structure ChainInfo where
  id : String := ""
  state : State := .pending
  status : String := ""
  source : Option ChainSide := none
  target : Option ChainSide := none
  refundAddress : Option String := none
  refundTx : Option String := none
  automated : Bool := false
  tenantId : UInt64 := 0
  deriving DecidableEq, Repr

/-- What the daemon says about one swap id. -/
structure Report where
  submarine : Option SubmarineInfo := none
  reverse : Option ReverseInfo := none
  chain : Option ChainInfo := none
  deriving DecidableEq, Repr

/-- What the daemon lists, each kind in its own order. -/
structure Listing where
  submarine : List SubmarineInfo := []
  reverse : List ReverseInfo := []
  chain : List ChainInfo := []
  deriving DecidableEq, Repr

namespace Listing

/-- The swaps of one tenant. -/
def ofTenant (l : Listing) (tenant : UInt64) : Listing where
  submarine := l.submarine.filter (·.tenantId == tenant)
  reverse := l.reverse.filter (·.tenantId == tenant)
  chain := l.chain.filter (·.tenantId == tenant)

/-- The first swap of each kind that has the id. -/
def find (l : Listing) (id : String) : Report where
  submarine := l.submarine.find? (·.id == id)
  reverse := l.reverse.find? (·.id == id)
  chain := l.chain.find? (·.id == id)

end Listing

end SwapBridge.Swap
