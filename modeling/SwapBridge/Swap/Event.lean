/-
  SwapBridge.Swap.Event
  ─────────────────────
  **SWAP EVENTS.**

  An event is one report of the daemon in a form that is the same for all
  three kinds.

    • `Event.ofReport?` — the event in a report, submarine before reverse before chain,
    • `Event.ofListing` — the events of a listing, kind by kind in the same order,
    • `Event.destination` — the address that an automated swap pays out to.
-/
import SwapBridge.Swap.Report

namespace SwapBridge.Swap

structure Event where
  id : String
  kind : Kind
  status : String
  state : State
  automated : Bool
  tenantId : UInt64
  lockupAddress : Option String
  claimAddress : Option String
  toAddress : Option String
  lockupTx : Option String
  refundTx : Option String
  refundAddress : Option String
  amount : UInt64
  deriving DecidableEq, Repr

/-- An address is present where its text is not empty. -/
def presentAddress (s : String) : Option String := if s.isEmpty then none else some s

theorem presentAddress_eq_some {a b : String} : presentAddress a = some b ↔ a = b ∧ b ≠ "" := by
  unfold presentAddress
  by_cases h : a = ""
  · rw [if_pos (String.isEmpty_iff.2 h)]
    refine ⟨fun heq => (by cases heq), ?_⟩
    rintro ⟨rfl, hne⟩
    exact absurd h hne
  · rw [if_neg fun hempty => h (String.isEmpty_iff.1 hempty), Option.some_inj]
    exact ⟨fun hab => ⟨hab, hab ▸ h⟩, And.left⟩

namespace Event

def ofSubmarine (s : SubmarineInfo) : Event where
  id := s.id
  kind := .submarine
  status := s.status
  state := s.state
  automated := s.automated
  tenantId := s.tenantId
  lockupAddress := presentAddress s.lockupAddress
  claimAddress := none
  toAddress := none
  lockupTx := s.lockupTx
  refundTx := s.refundTx
  refundAddress := s.refundAddress
  amount := s.expectedAmount

def ofReverse (s : ReverseInfo) : Event where
  id := s.id
  kind := .reverse
  status := s.status
  state := s.state
  automated := s.automated
  tenantId := s.tenantId
  lockupAddress := presentAddress s.lockupAddress
  claimAddress := presentAddress s.claimAddress
  toAddress := none
  lockupTx := s.lockupTx
  refundTx := none
  refundAddress := none
  amount := s.onchainAmount

/-- The lockup is on the source side, the payout on the target side. -/
def ofChain (s : ChainInfo) : Event where
  id := s.id
  kind := .chain
  status := s.status
  state := s.state
  automated := s.automated
  tenantId := s.tenantId
  lockupAddress := s.source.bind fun side => presentAddress side.lockupAddress
  claimAddress := none
  toAddress := s.target.bind (·.address)
  lockupTx := s.source.bind (·.lockupTx)
  refundTx := s.refundTx
  refundAddress := s.refundAddress
  amount := (s.source.map (·.amount)).getD 0

def ofReport? (r : Report) : Option Event :=
  (r.submarine.map ofSubmarine).or ((r.reverse.map ofReverse).or (r.chain.map ofChain))

def ofListing (l : Listing) : List Event :=
  l.submarine.map ofSubmarine ++ l.reverse.map ofReverse ++ l.chain.map ofChain

/-- Where the swap pays out, for the kinds that run automatically. -/
def destination (e : Event) : Option String :=
  match e.kind with
  | .chain => e.toAddress
  | .reverse => e.claimAddress
  | .submarine => none

end Event

end SwapBridge.Swap
