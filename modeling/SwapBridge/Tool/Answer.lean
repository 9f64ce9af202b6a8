/-
  SwapBridge.Tool.Answer
  ──────────────────────
  **WHAT THE ADMINISTRATOR'S TOOL PRINTS.**

  Each command prints one JSON object with its members in alphabetical order.
  Numbers are numbers here, whatever their size.
-/
import SwapBridge.Daemon.Message
import SwapBridge.Settings
import SwapBridge.Swap.Event

namespace SwapBridge.Tool

open Json

def ofNat (n : Nat) : Json := .number (Decimal.digits n)

def ofTexts (texts : List String) : Json := .array (texts.map ofString)

def swapAnswer (e : Swap.Event) : Json :=
  .record [("amount_sat", ofUInt64 e.amount), ("is_auto", .bool e.automated),
    ("kind", ofString e.kind.name), ("lockup_address", ofOption ofString e.lockupAddress),
    ("lockup_transaction_id", ofOption ofString e.lockupTx), ("state", ofString e.state.name),
    ("status", ofString e.status), ("swap_id", ofString e.id), ("tenant_id", ofUInt64 e.tenantId)]

def swapsAnswer (events : List Swap.Event) : Json :=
  .record [("swaps", .array (events.map swapAnswer))]

def infoAnswer (i : Daemon.Info) : Json :=
  .record [("block_height", ofNat i.blockHeight), ("network", ofString i.network),
    ("node", ofOption ofString i.node), ("pending_chain_swaps", ofTexts i.pendingChainSwaps),
    ("pending_reverse_swaps", ofTexts i.pendingReverseSwaps),
    ("pending_swaps", ofTexts i.pendingSwaps), ("version", ofString i.version)]

def onboardAnswer (store : String) (s : Settings) : Json :=
  .record [("grpc_url", ofString s.address), ("mode", JsonCodec.encode s.mode),
    ("standalone_wallet", JsonCodec.encode s.wallet), ("store_id", ofString store),
    ("tenant_id", ofUInt64 s.credential.tenantId)]

def disableAnswer (store : String) : Json :=
  .record [("disabled", .bool true), ("store_id", ofString store)]

def walletAnswer (w : Daemon.Wallet) : Json :=
  .record [("balance_sat", ofOption ofUInt64 w.total), ("currency", ofString w.currency.name),
    ("id", ofUInt64 w.id), ("name", ofString w.name), ("readonly", .bool w.readonly),
    ("tenant_id", ofUInt64 w.tenantId)]

def walletsAnswer (wallets : List Daemon.Wallet) : Json :=
  .record [("wallets", .array (wallets.map walletAnswer))]

/-! ## Automatic swaps -/

def chainConfigAnswer (c : Daemon.ChainConfig) : Json :=
  .record [("enabled", .bool c.enabled), ("from_wallet", ofString c.fromWallet),
    ("max_balance", ofUInt64 c.maxBalance), ("reserve_balance", ofUInt64 c.reserveBalance),
    ("to_address", ofString c.toAddress), ("to_wallet", ofString c.toWallet)]

def lightningConfigAnswer (c : Daemon.LightningConfig) : Json :=
  .record [("enabled", .bool c.enabled),
    ("inbound_balance_percent", .number c.inboundBalancePercent.chars),
    ("outbound_balance_percent", .number c.outboundBalancePercent.chars),
    ("static_address", ofString c.staticAddress), ("wallet", ofString c.wallet)]

def configAnswer (store : String) (c : Daemon.AutoswapConfig) : Json :=
  .record [("chain", ofOption chainConfigAnswer c.chain),
    ("lightning", ofOption lightningConfigAnswer c.lightning), ("store_id", ofString store)]

/-- The answer where automatic swaps were never set up. -/
def unconfiguredAnswer (store : String) : Json :=
  .record [("configured", .bool false), ("store_id", ofString store)]

def stateAnswer (s : Daemon.AutoswapState) : Json :=
  .record [("description", ofString s.description), ("error", ofOption ofString s.error),
    ("running", .bool s.running)]

def statusAnswer (store : String) (s : Daemon.AutoswapStatus) : Json :=
  .record [("chain", ofOption stateAnswer s.chain),
    ("lightning", ofOption stateAnswer s.lightning), ("store_id", ofString store)]

def recommendationAnswer (r : Daemon.Recommendation) : Json :=
  .record [("amount_sat", ofUInt64 r.amount), ("dismissed_reasons", ofTexts r.dismissedReasons),
    ("fee_estimate_sat", ofUInt64 r.feeEstimate), ("type", ofString r.type)]

def recommendationsAnswer (store : String) (r : Daemon.Recommendations) : Json :=
  .record [("chain", .array (r.chain.map recommendationAnswer)),
    ("lightning", .array (r.lightning.map recommendationAnswer)), ("store_id", ofString store)]

end SwapBridge.Tool
