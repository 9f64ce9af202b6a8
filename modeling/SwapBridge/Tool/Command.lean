/-
  SwapBridge.Tool.Command
  ───────────────────────
  **WHAT THE ADMINISTRATOR'S TOOL CAN BE TOLD.**

  A command line names the daemon and the store file, then a command with
  options of its own.
-/
import SwapBridge.CommandLine
import SwapBridge.Settings

namespace SwapBridge.Tool

open CommandLine

inductive Command where
  | info
  /-- All swaps, or those of a store's tenant. -/
  | swaps (store : Option String)
  | onboard (store : String) (mode : Mode) (wallet : Option WalletRef)
  | disable (store : String)
  | swap (id : String) (store : Option String)
  | wallets (store : Option String)
  | autoswapConfig (store : String)
  | autoswapStatus (store : String)
  | recommendations (store : String)
  deriving DecidableEq, Repr

structure Invocation where
  address : String := "http://127.0.0.1:9002"
  /-- The daemon's data directory, with the administrator's macaroon. -/
  dataDir : String
  storePath : String := "boltz-bridge.sqlite"
  command : Command
  deriving DecidableEq, Repr

/-! ## §1. Commands. -/

def commandNames : List String :=
  ["info", "swaps", "onboard", "disable", "swap", "wallets", "autoswap-config", "autoswap-status",
    "recommendations"]

/-- Reads the words of a command that knows the option of a store. -/
def ofStore (words : List String) (operands : Nat := 0) : Except Refusal Line :=
  Line.read { options := [("store-id", .text)], operands } words

/-- A command for a store that must be named. -/
def forStore (f : String → Command) (words : List String) : Except Refusal Command := do
  return f (← (← ofStore words).text "store-id")

/-- The wallet of an onboarded store; its id asks for its name. -/
def walletOf (l : Line) : Except Refusal (Option WalletRef) :=
  match l.number? "wallet-id", l.text? "wallet-name" with
  | some id, some name => .ok (some ⟨UInt64.ofNat id, name⟩)
  | some _, none => .error .misuse
  | none, _ => .ok none

def readOnboard (words : List String) : Except Refusal Command := do
  let l ← Line.read
    { switches := ["rebalance"]
      options := [("store-id", .text), ("wallet-id", .word64), ("wallet-name", .text)] } words
  let mode := if l.hasSwitch "rebalance" then .rebalance else .standalone
  return .onboard (← l.text "store-id") mode (← walletOf l)

def readSwap (words : List String) : Except Refusal Command := do
  let l ← ofStore words 1
  match l.operands with
  | [id] => return .swap id (l.text? "store-id")
  | _ => throw .misuse

/-- Help is asked for by name too, for all commands or for one of them. -/
def readHelp : List String → Refusal
  | [] => .help
  | [name] => if name = "help" || commandNames.contains name then .help else .misuse
  | _ => .misuse

def Command.read : List String → Except Refusal Command
  | "info" :: words => (Line.read {} words).map fun _ => .info
  | "swaps" :: words => (ofStore words).map fun l => .swaps (l.text? "store-id")
  | "onboard" :: words => readOnboard words
  | "disable" :: words => forStore .disable words
  | "swap" :: words => readSwap words
  | "wallets" :: words => (ofStore words).map fun l => .wallets (l.text? "store-id")
  | "autoswap-config" :: words => forStore .autoswapConfig words
  | "autoswap-status" :: words => forStore .autoswapStatus words
  | "recommendations" :: words => forStore .recommendations words
  | "help" :: words => .error (readHelp words)
  | _ => .error .misuse

/-! ## §2. The whole line. -/

def shape : Shape :=
  { options := [("grpc-url", .text), ("data-dir", .path), ("store-path", .path)]
    hasCommand := true }

/-- Reads the words behind the name of the tool.  What is wrong with the words
of the command comes before what is wrong with the last value in front of it. -/
def Invocation.read (words : List String) : Except Refusal Invocation := do
  let l ← Line.read shape words
  let command ← Command.read l.command
  let l ← l.settle shape
  let usual : Invocation := { dataDir := ← l.text "data-dir", command }
  return { usual with
    address := (l.text? "grpc-url").getD usual.address
    storePath := (l.text? "store-path").getD usual.storePath }

end SwapBridge.Tool
