/-
  SwapBridge.Proofs.Node.Config
  ─────────────────────────────
  **WHAT THE DAEMON READS IN ITS CONFIGURATION FILE.**

  Hosts, paths and the network are texts that somebody else chose.  Whatever
  stands in them, the file is a document with the keys of its node and with
  exactly these texts behind them.

    • `document_writable` — the names of the document are plain and distinct,
    • `config_reads_back` — the file says what was to be said, and nothing else.
-/
import SwapBridge.Node.Config
import SwapBridge.Proofs.Toml.Reader

namespace SwapBridge

open Toml

variable {key : String}

/-! ## §1. Entries under bare keys. -/

namespace Toml

theorem writable_nil : ∀ e ∈ ([] : List Entry), e.IsWritable :=
  fun _ h => absurd h List.not_mem_nil

/-- Entries are writable one by one: a bare key, and a value that `Value.Fits`. -/
theorem writable_cons {es : List Entry} {v : Value} (hkey : IsBare key) (hv : v.Fits)
    (h : ∀ e ∈ es, e.IsWritable) : ∀ e ∈ (⟨key, v⟩ :: es : List Entry), e.IsWritable := by
  intro e he
  rcases List.mem_cons.1 he with rfl | he
  · exact ⟨hkey, hv⟩
  · exact h e he

/-- A port is far below the largest integer of a document. -/
theorem port_fits (port : UInt16) : Value.Fits (.number port.toNat) :=
  Nat.lt_of_lt_of_le port.toNat_lt (by decide)

end Toml

/-! ## §2. The document of a node. -/

/-- The sections of every kind of `LightningNode` can be written, whatever texts they hold.
-/
theorem LightningNode.sections_writable (node : LightningNode) :
    ∀ s ∈ node.sections, s.IsWritable := by
  intro s hs
  cases node with
  | standalone => cases hs
  | lnd host port macaroon certificate =>
    obtain rfl := List.mem_singleton.1 hs
    have hname : IsBare "LND" := by decide
    cases certificate with
    | none =>
      exact ⟨hname, writable_cons (by decide) trivial <|
        writable_cons (by decide) (port_fits port) <|
        writable_cons (by decide) trivial writable_nil⟩
    | some certificate =>
      exact ⟨hname, writable_cons (by decide) trivial <|
        writable_cons (by decide) (port_fits port) <| writable_cons (by decide) trivial <|
        writable_cons (by decide) trivial writable_nil⟩
  | cln host port dir =>
    obtain rfl := List.mem_singleton.1 hs
    have hname : IsBare "CLN" := by decide
    exact ⟨hname, writable_cons (by decide) trivial <| writable_cons (by decide) (port_fits port) <|
      writable_cons (by decide) trivial <| writable_cons (by decide) trivial <|
      writable_cons (by decide) trivial writable_nil⟩

namespace DaemonSettings

/-- No name stands twice in the document, so that `Document` says one thing of each. -/
theorem document_distinct (s : DaemonSettings) (node : LightningNode) :
    (s.document node).HasDistinctNames := by
  unfold Document.HasDistinctNames document LightningNode.sections
  cases node with
  | standalone => simp
  | lnd host port macaroon certificate => cases certificate <;> simp
  | cln host port dir => simp

/-- All that `DaemonSettings.document` is made of can be written: bare keys, and ports that
fit. -/
theorem document_writable (s : DaemonSettings) (node : LightningNode) :
    (s.document node).IsWritable where
  top_writable :=
    writable_cons (by decide) trivial <| writable_cons (by decide) trivial <|
      writable_cons (by decide) trivial writable_nil
  sections_writable := by
    intro t ht
    rcases List.mem_cons.1 ht with rfl | ht
    · have hname : IsBare "RPC" := by decide
      exact ⟨hname, writable_cons (by decide) trivial <|
        writable_cons (by decide) (port_fits s.rpcPort) <| writable_cons (by decide) trivial <|
        writable_cons (by decide) trivial <| writable_cons (by decide) trivial writable_nil⟩
    · exact node.sections_writable t ht
  distinct := document_distinct s node

/-- **The configuration file says what was to be said, and nothing else.**  It
is a document for any network, hosts and paths; no text of theirs adds, hides
or alters a key or a table. -/
theorem config_reads_back (s : DaemonSettings) (node : LightningNode) :
    Document.read (s.render node) = some
      { top := [⟨"network", .text s.network⟩, ⟨"datadir", .text s.dataDir⟩,
          ⟨"standalone", .flag (node = .standalone)⟩]
        sections :=
          ⟨"RPC", [⟨"host", .text s.rpcHost⟩, ⟨"port", .number s.rpcPort.toNat⟩,
            ⟨"noTls", .flag true⟩, ⟨"noMacaroons", .flag false⟩,
            ⟨"adminMacaroonPath",
              .text (Path.join (Path.join s.dataDir "macaroons") "admin.macaroon")⟩]⟩
          :: match node with
            | .standalone => []
            | .lnd host port macaroon none =>
              [⟨"LND", [⟨"host", .text host⟩, ⟨"port", .number port.toNat⟩,
                ⟨"macaroon", .text macaroon⟩]⟩]
            | .lnd host port macaroon (some certificate) =>
              [⟨"LND", [⟨"host", .text host⟩, ⟨"port", .number port.toNat⟩,
                ⟨"macaroon", .text macaroon⟩, ⟨"certificate", .text certificate⟩]⟩]
            | .cln host port dir =>
              [⟨"CLN", [⟨"host", .text host⟩, ⟨"port", .number port.toNat⟩,
                ⟨"rootCert", .text (Path.join dir "ca.pem")⟩,
                ⟨"privateKey", .text (Path.join dir "client-key.pem")⟩,
                ⟨"certChain", .text (Path.join dir "client.pem")⟩]⟩] } := by
  have hread : Document.read (s.render node) = some (s.document node) :=
    Document.read_write (document_writable s node)
  rw [hread]
  cases node with
  | standalone => rfl
  | lnd host port macaroon certificate => cases certificate <;> rfl
  | cln host port dir => rfl

end DaemonSettings

end SwapBridge
