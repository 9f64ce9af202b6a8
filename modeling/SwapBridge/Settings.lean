/-
  SwapBridge.Settings
  ───────────────────
  **SETTINGS OF A STORE.**

  A store that uses the bridge has a mode, the address of the daemon, a
  credential for it and perhaps a wallet of the daemon to receive into.  The
  credential belongs to a tenant of the daemon; tenant one is its
  administrator.
-/
import SwapBridge.Json.Codec

namespace SwapBridge

/-- What a credential may be used for. -/
structure Scope where
  read : Bool
  write : Bool
  deriving DecidableEq, Repr

def Scope.readWrite : Scope := ⟨true, true⟩

structure Credential where
  tenantId : UInt64
  /-- The macaroon, in hexadecimal. -/
  token : String
  scope : Scope
  deriving DecidableEq, Repr

/-- The tenant that the daemon's own macaroon belongs to. -/
def adminTenant : UInt64 := 1

def Credential.isAdmin (c : Credential) : Bool := c.tenantId == adminTenant

structure WalletRef where
  id : UInt64
  name : String
  deriving DecidableEq, Repr

inductive Mode where
  /-- The store has no node of its own; the daemon takes its Lightning payments. -/
  | standalone
  /-- The daemon balances the channels of the platform's own node. -/
  | rebalance
  deriving DecidableEq, Repr

structure Settings where
  mode : Mode
  address : String
  credential : Credential
  wallet : Option WalletRef
  deriving DecidableEq, Repr

/-! ## JSON forms -/

open Json

instance : JsonCodec Scope where
  encode s := record [("read", .bool s.read), ("write", .bool s.write)]
  decode v := do
    let fs ← fields ["read", "write"] v
    return ⟨← required fs "read", ← required fs "write"⟩

instance : JsonCodec Credential where
  encode c := record [("tenant_id", ofUInt64 c.tenantId), ("token", ofString c.token),
    ("scope", JsonCodec.encode c.scope)]
  decode v := do
    let fs ← fields ["tenant_id", "token", "scope"] v
    return ⟨← required fs "tenant_id", ← required fs "token", ← required fs "scope"⟩

instance : JsonCodec WalletRef where
  encode w := record [("id", ofUInt64 w.id), ("name", ofString w.name)]
  decode v := do
    let fs ← fields ["id", "name"] v
    return ⟨← required fs "id", ← required fs "name"⟩

def Mode.name : Mode → String
  | .standalone => "standalone"
  | .rebalance => "rebalance"

instance : JsonCodec Mode where
  encode m := ofString m.name
  decode := decodeChoice [("standalone", .standalone), ("rebalance", .rebalance)]

instance : JsonCodec Settings where
  encode s := record [("mode", JsonCodec.encode s.mode), ("grpc_url", ofString s.address),
    ("credential", JsonCodec.encode s.credential), ("standalone_wallet", JsonCodec.encode s.wallet)]
  decode v := do
    let fs ← fields ["mode", "grpc_url", "credential", "standalone_wallet"] v
    return ⟨← required fs "mode", ← required fs "grpc_url", ← required fs "credential",
      ← optional fs "standalone_wallet"⟩

end SwapBridge
