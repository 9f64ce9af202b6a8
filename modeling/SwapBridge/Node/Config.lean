/-
  SwapBridge.Node.Config
  ──────────────────────
  **THE DAEMON'S CONFIGURATION FILE.**

  What the daemon is told: its network and data directory, where it answers
  calls, and the node it is attached to.  Every call needs a macaroon, and
  none is encrypted on the way.
-/
import SwapBridge.Node.Lightning
import SwapBridge.Path
import SwapBridge.Toml.Document

namespace SwapBridge

/-- What is written for every node. -/
structure DaemonSettings where
  network : String
  rpcHost : String
  rpcPort : UInt16
  dataDir : String
  deriving DecidableEq, Repr

/-- Where the daemon keeps the macaroon of its administrator. -/
def adminMacaroonPath (dataDir : String) : String :=
  Path.join (Path.join dataDir "macaroons") "admin.macaroon"

namespace LightningNode

open Toml in
/-- The section for a node; there is none without a node. -/
def sections : LightningNode → List Section
  | .standalone => []
  | .lnd host port macaroon certificate =>
    [⟨"LND", [⟨"host", .text host⟩, ⟨"port", .number port.toNat⟩, ⟨"macaroon", .text macaroon⟩] ++
      (certificate.toList.map fun c => ⟨"certificate", .text c⟩)⟩]
  | .cln host port dir =>
    [⟨"CLN", [⟨"host", .text host⟩, ⟨"port", .number port.toNat⟩,
      ⟨"rootCert", .text (Path.join dir "ca.pem")⟩,
      ⟨"privateKey", .text (Path.join dir "client-key.pem")⟩,
      ⟨"certChain", .text (Path.join dir "client.pem")⟩]⟩]

end LightningNode

namespace DaemonSettings

open Toml in
def document (s : DaemonSettings) (node : LightningNode) : Document where
  top := [⟨"network", .text s.network⟩, ⟨"datadir", .text s.dataDir⟩,
    ⟨"standalone", .flag node.isStandalone⟩]
  sections := ⟨"RPC", [⟨"host", .text s.rpcHost⟩, ⟨"port", .number s.rpcPort.toNat⟩,
    ⟨"noTls", .flag true⟩, ⟨"noMacaroons", .flag false⟩,
    ⟨"adminMacaroonPath", .text (adminMacaroonPath s.dataDir)⟩]⟩ :: node.sections

/-- The text of the configuration file. -/
def render (s : DaemonSettings) (node : LightningNode) : String := (s.document node).write

end DaemonSettings

end SwapBridge
