/-
  SwapBridge.Store
  ────────────────
  **WHAT THE BRIDGE KEEPS.**

  A store file holds the settings of the stores, as JSON text by store id, and
  the ledger of payments.  Settings are decoded whenever they are read, in the
  order of the store ids; one text that cannot be decoded fails the reading.
-/
import SwapBridge.Ledger
import SwapBridge.Settings

namespace SwapBridge

namespace Store

inductive Fault where
  /-- A store's settings are not what they should be. -/
  | undecodableSettings (store : String)
  | unreadablePayment (invoice payment : String) (fault : Ledger.RowFault)
  /-- A row met while the payments of an invoice were listed. -/
  | unreadableRow (fault : Ledger.RowFault)
  | missingPayment (invoice payment : String)
  deriving DecidableEq, Repr

def Fault.layers : Fault → List String
  | .undecodableSettings store => ["decode settings " ++ store, "<json>"]
  | .unreadablePayment invoice payment fault =>
    ("get payment " ++ invoice ++ "/" ++ payment) :: fault.layers
  | .unreadableRow fault => "read payment row" :: fault.layers
  | .missingPayment invoice payment => ["payment not found: " ++ invoice ++ "/" ++ payment]

end Store

structure Store where
  settings : Table String
  ledger : Ledger
  deriving DecidableEq, Repr

namespace Store

def empty : Store := ⟨.empty, .empty⟩

instance : Inhabited Store := ⟨empty⟩

/-! ## §1. Settings. -/

def decodeSettings (store text : String) : Except Fault Settings :=
  match JsonCodec.read text with
  | some s => .ok s
  | none => .error (.undecodableSettings store)

/-- All settings, by ascending store id. -/
def allSettings (s : Store) : Except Fault (List (String × Settings)) :=
  s.settings.entries.mapM fun (id, text) => (decodeSettings id text).map (id, ·)

def putSettings (s : Store) (store : String) (settings : Settings) : Store :=
  { s with settings := s.settings.insert store (JsonCodec.write settings) }

/-- Forgets the settings of a store; says whether there were any. -/
def deleteSettings (s : Store) (store : String) : Bool × Store :=
  (s.settings.contains store, { s with settings := s.settings.erase store })

def settingsOf (s : Store) (store : String) : Except Fault (Option Settings) :=
  s.allSettings.map (·.lookup store)

/-- The first store whose credential belongs to a tenant. -/
def ofTenant (s : Store) (tenant : UInt64) : Except Fault (Option (String × Settings)) :=
  s.allSettings.map (·.find? fun (_, settings) => settings.credential.tenantId == tenant)

/-- The first store that balances the platform's channels. -/
def rebalanceStore (s : Store) : Except Fault (Option String) :=
  s.allSettings.map fun all =>
    (all.find? fun (_, settings) => settings.mode == .rebalance).map (·.1)

/-! ## §2. Payments. -/

def payment (s : Store) (invoice payment : String) : Except Fault (Option Payment) :=
  (s.ledger.get invoice payment).mapError (.unreadablePayment invoice payment)

def payments (s : Store) (invoice : String) : Except Fault (List Payment) :=
  (s.ledger.list invoice).mapError .unreadableRow

def insertPayment (s : Store) (invoice : String) (p : Payment) : Bool × Store :=
  let (fresh, ledger) := s.ledger.insert invoice p
  (fresh, { s with ledger })

def updatePayment (s : Store) (invoice : String) (p : Payment) : Except Fault Store :=
  match s.ledger.update invoice p with
  | (true, ledger) => .ok { s with ledger }
  | (false, _) => .error (.missingPayment invoice p.id)

end Store

end SwapBridge
