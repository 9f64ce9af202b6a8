/-
  SwapBridge.Daemon.Message
  ─────────────────────────
  **WHAT IS SAID TO A DAEMON AND WHAT IT ANSWERS.**

  Answers hold what the bridge and its tools read.  Requests are kept whole,
  since a daemon that logs its calls shows them.
-/
import SwapBridge.Swap.Report
import SwapBridge.Tenant
import SwapBridge.Text.Decimal

namespace SwapBridge.Daemon

/-! ## §1. General answers. -/

structure Info where
  version : String := "2.3.0"
  network : String := "regtest"
  blockHeight : Nat := 101
  node : Option String := none
  pendingSwaps : List String := []
  pendingReverseSwaps : List String := []
  pendingChainSwaps : List String := []
  deriving DecidableEq, Repr

inductive Currency where
  | bitcoin
  | liquid
  | unknown (number : Int)
  deriving DecidableEq, Repr

def Currency.ofNumber : Int → Currency
  | 0 => .bitcoin
  | 1 => .liquid
  | n => .unknown n

def Currency.number : Currency → Int
  | .bitcoin => 0
  | .liquid => 1
  | .unknown n => n

def Currency.name : Currency → String
  | .bitcoin => "BTC"
  | .liquid => "LBTC"
  | .unknown _ => "UNKNOWN"

structure Wallet where
  id : UInt64
  name : String
  currency : Currency
  readonly : Bool
  /-- All that the wallet holds, in satoshis, where the daemon says so. -/
  total : Option UInt64
  tenantId : UInt64
  deriving DecidableEq, Repr

/-! ## §2. Automatic swaps. -/

/-- A percentage as a decimal number: `units` of `10 ^ -decimals`. -/
structure Percent where
  units : Int := 0
  decimals : Nat := 0
  deriving DecidableEq, Repr

namespace Percent

/-- The percentage with a point and at least one digit behind it. -/
def chars (p : Percent) : List Char :=
  let n := p.units.natAbs
  let sign := if p.units < 0 then ['-'] else []
  let fraction :=
    if p.decimals = 0 then [] else
      ((Decimal.padded p.decimals (n % Nat.pow 10 p.decimals)).reverse.dropWhile (· == '0')).reverse
  sign ++ Decimal.digits (n / Nat.pow 10 p.decimals) ++
    '.' :: (if fraction.isEmpty then ['0'] else fraction)

end Percent

structure ChainConfig where
  enabled : Bool := false
  fromWallet : String := ""
  toWallet : String := ""
  toAddress : String := ""
  maxBalance : UInt64 := 0
  reserveBalance : UInt64 := 0
  budget : UInt64 := 0
  budgetInterval : UInt64 := 0
  maxFeePercent : Percent := {}
  deriving DecidableEq, Repr

structure LightningConfig where
  enabled : Bool := false
  currency : String := ""
  swapType : String := ""
  inboundBalancePercent : Percent := {}
  outboundBalancePercent : Percent := {}
  budget : UInt64 := 0
  budgetInterval : UInt64 := 0
  maxFeePercent : Percent := {}
  staticAddress : String := ""
  wallet : String := ""
  deriving DecidableEq, Repr

/-- The configuration of automatic swaps. -/
structure AutoswapConfig where
  lightning : Option LightningConfig := none
  chain : Option ChainConfig := none
  deriving DecidableEq, Repr

structure AutoswapState where
  running : Bool
  description : String
  error : Option String
  deriving DecidableEq, Repr

structure AutoswapStatus where
  lightning : Option AutoswapState := none
  chain : Option AutoswapState := none
  deriving DecidableEq, Repr

/-- A swap that would be made now. -/
structure Recommendation where
  type : String
  amount : UInt64
  feeEstimate : UInt64
  dismissedReasons : List String
  deriving DecidableEq, Repr

structure Recommendations where
  lightning : List Recommendation := []
  chain : List Recommendation := []
  deriving DecidableEq, Repr

/-! ## §3. Requests. -/

/-- What a macaroon allows. -/
inductive Action where
  | read
  | write
  deriving DecidableEq, Repr

structure Pair where
  source : Currency
  target : Currency
  deriving DecidableEq, Repr

structure ChainSwapRequest where
  amount : Option UInt64 := none
  pair : Option Pair := none
  toAddress : Option String := none
  toWalletId : Option UInt64 := none
  /-- The coins are sent by somebody outside. -/
  externalPay : Bool := false
  deriving DecidableEq, Repr

inductive Method where
  | getInfo
  | listSwaps
  | getSwapInfo
  | getSwapInfoStream
  | createChainSwap
  | getWallets
  | getTenant
  | createTenant
  | bakeMacaroon
  | stop
  | getConfig
  | getStatus
  | getRecommendations
  | updateChainConfig
  | updateLightningConfig
  deriving DecidableEq, Repr

namespace Method

def name : Method → String
  | .getInfo => "GetInfo"
  | .listSwaps => "ListSwaps"
  | .getSwapInfo => "GetSwapInfo"
  | .getSwapInfoStream => "GetSwapInfoStream"
  | .createChainSwap => "CreateChainSwap"
  | .getWallets => "GetWallets"
  | .getTenant => "GetTenant"
  | .createTenant => "CreateTenant"
  | .bakeMacaroon => "BakeMacaroon"
  | .stop => "Stop"
  | .getConfig => "GetConfig"
  | .getStatus => "GetStatus"
  | .getRecommendations => "GetRecommendations"
  | .updateChainConfig => "UpdateChainConfig"
  | .updateLightningConfig => "UpdateLightningConfig"

def all : List Method :=
  [.getInfo, .listSwaps, .getSwapInfo, .getSwapInfoStream, .createChainSwap, .getWallets,
    .getTenant, .createTenant, .bakeMacaroon, .stop, .getConfig, .getStatus, .getRecommendations,
    .updateChainConfig, .updateLightningConfig]

def ofName? (s : String) : Option Method := all.find? (·.name == s)

end Method

inductive Request where
  | getInfo
  /-- All swaps: no filter is ever set. -/
  | listSwaps
  | getSwapInfo (id : String)
  /-- The id is empty when all swaps are wanted. -/
  | getSwapInfoStream (id : String)
  | createChainSwap (r : ChainSwapRequest)
  /-- Wallets of all currencies, those that only watch included. -/
  | getWallets
  | getTenant (name : String)
  | createTenant (name : String)
  | bakeMacaroon (tenant : UInt64) (actions : List Action)
  | stop
  | getConfig
  | getStatus
  | getRecommendations
  | updateChainConfig (config : ChainConfig) (paths : List String)
  | updateLightningConfig (config : LightningConfig) (paths : List String)
  deriving DecidableEq, Repr

def Request.method : Request → Method
  | .getInfo => .getInfo
  | .listSwaps => .listSwaps
  | .getSwapInfo _ => .getSwapInfo
  | .getSwapInfoStream _ => .getSwapInfoStream
  | .createChainSwap _ => .createChainSwap
  | .getWallets => .getWallets
  | .getTenant _ => .getTenant
  | .createTenant _ => .createTenant
  | .bakeMacaroon _ _ => .bakeMacaroon
  | .stop => .stop
  | .getConfig => .getConfig
  | .getStatus => .getStatus
  | .getRecommendations => .getRecommendations
  | .updateChainConfig _ _ => .updateChainConfig
  | .updateLightningConfig _ _ => .updateLightningConfig

/-- A call as the daemon sees it. -/
structure Call where
  token : String
  tenant : Option String
  request : Request
  deriving DecidableEq, Repr

end SwapBridge.Daemon
