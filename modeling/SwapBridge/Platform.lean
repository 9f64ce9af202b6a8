/-
  SwapBridge.Platform
  ───────────────────
  **THE PAYMENT PLATFORM.**

  The platform holds the invoices and their prompts, takes notifications and
  log entries, and hands out addresses of its wallets.  Each of its methods
  may refuse to work for a while.
-/
import SwapBridge.Invoice
import SwapBridge.Swap.Report
import SwapBridge.Table
import SwapBridge.Text.Decimal

namespace SwapBridge

namespace Platform

/-- What the bridge can ask of the platform. -/
inductive Method where
  | invoice
  | invoiceForAddress
  | monitoredInvoices
  | activatePrompt
  | deactivatePrompt
  | markInvalid
  | log
  | notify
  | freshAddress
  deriving DecidableEq, Repr

def Method.name : Method → String
  | .invoice => "invoice"
  | .invoiceForAddress => "invoice_for_address"
  | .monitoredInvoices => "monitored_invoices"
  | .activatePrompt => "activate_prompt"
  | .deactivatePrompt => "deactivate_prompt"
  | .markInvalid => "mark_invalid"
  | .log => "log"
  | .notify => "notify"
  | .freshAddress => "fresh_address"

def Method.ofName? (s : String) : Option Method :=
  [.invoice, .invoiceForAddress, .monitoredInvoices, .activatePrompt, .deactivatePrompt,
    .markInvalid, .log, .notify, .freshAddress].find? (·.name == s)

inductive Fault where
  | refused (message : String)
  | unknownInvoice (id : String)
  deriving DecidableEq, Repr

def Fault.message : Fault → String
  | .refused m => m
  | .unknownInvoice id => "invoice " ++ id ++ " not found"

inductive Notification where
  /-- A payment was seen for the first time. -/
  | paymentReceived (invoice payment : String)
  /-- A payment changed, so the invoice must be looked at again. -/
  | needsUpdate (invoice : String)
  deriving DecidableEq, Repr

structure LogEntry where
  invoice : String
  message : String
  deriving DecidableEq, Repr

end Platform

structure Platform where
  invoices : Table Invoice := .empty
  /-- What a method that does not work says, by method. -/
  refusals : List (Platform.Method × String) := []
  notifications : List Platform.Notification := []
  logs : List Platform.LogEntry := []
  /-- The addresses that the wallets hand out next; they make up others afterwards. -/
  prepared : List String := []
  /-- How many addresses were made up. -/
  addresses : Nat := 0
  deriving DecidableEq, Repr

namespace Platform

/-! ## §1. Refusals. -/

def refuse (p : Platform) (m : Method) (message : String) : Platform :=
  { p with refusals := (m, message) :: p.refusals.filter (·.1 != m) }

def allow (p : Platform) (m : Method) : Platform :=
  { p with refusals := p.refusals.filter (·.1 != m) }

/-- Whether a method works at the moment. -/
def permit (p : Platform) (m : Method) : Except Fault Unit :=
  match p.refusals.lookup m with
  | some message => .error (.refused message)
  | none => .ok ()

/-! ## §2. Reading. -/

def invoice (p : Platform) (id : String) : Except Fault (Option Invoice) :=
  (p.permit .invoice).map fun _ => p.invoices.get? id

/-- The first invoice whose prompt of the method shows the address. -/
def invoiceForAddress (p : Platform) (method address : String) : Except Fault (Option Invoice) :=
  (p.permit .invoiceForAddress).map fun _ =>
    p.invoices.values.find? (·.destination? method == some address)

/-- The new invoices whose prompt of the method is active. -/
def monitoredInvoices (p : Platform) (method : String) : Except Fault (List Invoice) :=
  (p.permit .monitoredInvoices).map fun _ =>
    p.invoices.values.filter fun i => i.status == .new && i.isActive method

/-! ## §3. Writing. -/

def putInvoice (p : Platform) (i : Invoice) : Platform :=
  { p with invoices := p.invoices.insert i.id i }

/-- Changes an invoice that must be there. -/
def changeInvoice (p : Platform) (m : Method) (id : String) (f : Invoice → Invoice) :
    Except Fault Platform := do
  p.permit m
  match p.invoices.get? id with
  | none => throw (.unknownInvoice id)
  | some i => return { p with invoices := p.invoices.insert id (f i) }

def activatePrompt (p : Platform) (id method destination : String) : Except Fault Platform :=
  p.changeInvoice .activatePrompt id (·.activate method destination)

def deactivatePrompt (p : Platform) (id method : String) : Except Fault Platform :=
  p.changeInvoice .deactivatePrompt id (·.deactivate method)

def markInvalid (p : Platform) (id : String) (exception : Invoice.Exception) :
    Except Fault Platform :=
  p.changeInvoice .markInvalid id fun i => { i with status := .invalid, exception }

def log (p : Platform) (id message : String) : Except Fault Platform :=
  (p.permit .log).map fun _ => { p with logs := p.logs ++ [⟨id, message⟩] }

def notify (p : Platform) (n : Notification) : Except Fault Platform :=
  (p.permit .notify).map fun _ => { p with notifications := p.notifications ++ [n] }

/-- The `n`th address that is made up, for a store's wallet and a kind of swap. -/
def madeUpAddress (store : String) (kind : Swap.Kind) (n : Nat) : String :=
  "fresh-" ++ store ++ "-" ++ kind.name ++ "-" ++ Decimal.write n

/-- A receiving address of a store's wallet. -/
def freshAddress (p : Platform) (store : String) (kind : Swap.Kind) :
    Except Fault (String × Platform) :=
  (p.permit .freshAddress).map fun _ =>
    match p.prepared with
    | address :: rest => (address, { p with prepared := rest })
    | [] =>
      let n := p.addresses + 1
      (madeUpAddress store kind n, { p with addresses := n })

end Platform

end SwapBridge
