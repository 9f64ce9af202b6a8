/-
  SwapBridge.Proofs.PartialPayment
  ────────────────────────────────
  **WHAT AN INVOICE EVENT CAN DO.**

  An event concerns an invoice that is paid in part and still shows its swap
  address, or it does nothing.  Otherwise the daemon is asked for a swap over
  what is due, once at most; its address is shown, or the prompt is given up.

    • `PaidInPart` — the invoices that an event concerns,
    • `Offers` — what store, broker and daemon have to say for a new address,
    • `provision_cases` — one call at most, and an address exactly if it is offered,
    • `Reactivates`, `GivesUp` — the two ways in which an event that is taken up ends,
    • `handle_outcomes` — the outcomes of an event and all that each changes.
-/
import SwapBridge.PartialPayment
import SwapBridge.Proofs.Broker.Connection
import SwapBridge.Proofs.Daemon
import SwapBridge.Proofs.Platform
import SwapBridge.Proofs.Sample

namespace SwapBridge.PartialPayment

variable {e : Invoice.Event} {w : World} {i : Invoice}

/-! ## §1. Invoices that are paid in part. -/

/-- An event tells of an invoice that is paid in part and still shows its swap
address. -/
structure PaidInPart (e : Invoice.Event) (p : Platform) (i : Invoice) : Prop where
  /-- A payment came in, or the invoice became new and paid in part. -/
  told : (∃ id method, e = .paymentReceived id method)
    ∨ ∃ id, e = .dataChanged id .new .paidPartial
  stored : p.invoices.get? e.invoice = some i
  status_eq : i.status = .new
  exception_eq : i.exception = .paidPartial
  due_pos : 0 < i.due
  /-- The first prompt of the swap method is active. -/
  active : ∃ prompt, i.prompt? boltzMethod = some prompt ∧ prompt.active = true

/-- Events that concern an invoice tell of a payment or of a change to "paid in part". -/
theorem concerns_iff (e : Invoice.Event) :
    concerns e = true ↔ (∃ id method, e = .paymentReceived id method)
      ∨ ∃ id, e = .dataChanged id .new .paidPartial := by
  cases e with
  | paymentReceived id method => simp [concerns]
  | dataChanged id status exception =>
    cases status <;> cases exception <;> simp [concerns]

/-- An invoice is open for another payment while it is new and paid in part, something is
due, and the method is active. -/
theorem isOpen_iff (i : Invoice) :
    isOpen i = true ↔ i.status = .new ∧ i.exception = .paidPartial ∧ 0 < i.due
      ∧ ∃ prompt, i.prompt? boltzMethod = some prompt ∧ prompt.active = true := by
  unfold isOpen
  simp only [Bool.and_eq_true, beq_iff_eq, bne_iff_ne, Invoice.isActive_iff,
    UInt64.pos_iff_ne_zero, and_assoc]

/-- **The handler takes up an event exactly if an invoice is paid in part.** -/
theorem openInvoice_eq_some {p : Platform} (hp : p.permit .invoice = .ok ()) :
    openInvoice e p = some i ↔ PaidInPart e p i := by
  -- reading the invoice cannot fail here, so only the two guards are left to compare
  have hread : p.invoice e.invoice = .ok (p.invoices.get? e.invoice) := by
    unfold Platform.invoice
    rw [hp]
    rfl
  unfold openInvoice
  rw [hread]
  constructor
  · intro h
    split at h
    · rename_i hc
      cases hi : p.invoices.get? e.invoice with
      | none => simp [hi] at h
      | some j =>
        simp only [hi] at h
        split at h
        · rename_i ho
          injection h with h
          subst h
          obtain ⟨hs, he, hd, ha⟩ := (isOpen_iff j).1 ho
          exact ⟨(concerns_iff e).1 hc, hi, hs, he, hd, ha⟩
        · exact absurd h (by simp)
    · exact absurd h (by simp)
  · intro h
    have ho : isOpen i = true :=
      (isOpen_iff i).2 ⟨h.status_eq, h.exception_eq, h.due_pos, h.active⟩
    rw [if_pos ((concerns_iff e).2 h.told), h.stored]
    show (if isOpen i = true then some i else none) = some i
    rw [if_pos ho]

/-! ## §2. Provisioning. -/

/-- The call for the swap of an invoice: its due, from Bitcoin to Liquid, into
the wallet of the store, over the connection of the store. -/
def callFor (s : Settings) (wallet : WalletRef) (due : UInt64) : Daemon.Call where
  token := s.credential.token
  tenant := Rpc.tenantHeader (Broker.tenantHeader s.credential)
  request := .createChainSwap
    { amount := some due
      pair := some ⟨.bitcoin, .liquid⟩
      toWalletId := some wallet.id
      externalPay := true }

/-- Of two worlds the daemon of the later one was asked once more, for the swap
of an invoice. -/
def Asks (i : Invoice) (w w' : World) : Prop :=
  ∃ s wallet, w.store.settingsOf i.store = .ok (some s) ∧ s.wallet = some wallet
    ∧ w'.daemon.calls = w.daemon.calls ++ [callFor s wallet i.due]

/-- The store has settings with a wallet, they lead to a connection, and the
daemon answers there with a swap that has a lockup address. -/
def Offers (i : Invoice) (w : World) (address : String) : Prop :=
  ∃ s wallet c swap side, w.store.settingsOf i.store = .ok (some s) ∧ s.wallet = some wallet
    ∧ (Broker.connect s w.pool).1 = .ok c
    ∧ (w.daemon.createChainSwap c (swapRequest i.due wallet)).1 = .ok swap
    ∧ swap.source = some side ∧ side.lockupAddress = address ∧ address ≠ ""

/-- Preparing stops short of an order where settings, wallet or connection are
missing, and changes nothing but the pool of channels. -/
theorem prepare_cases (i : Invoice) (w : World) :
    (∃ f pool, prepare i w = (.error f, { w with pool })
      ∧ ∀ s wallet c, w.store.settingsOf i.store = .ok (some s) → s.wallet = some wallet →
          (Broker.connect s w.pool).1 ≠ .ok c)
    ∨ ∃ s wallet c, w.store.settingsOf i.store = .ok (some s) ∧ s.wallet = some wallet
      ∧ (Broker.connect s w.pool).1 = .ok c
      ∧ prepare i w
        = (.ok ⟨c, swapRequest i.due wallet⟩, { w with pool := (Broker.connect s w.pool).2 }) := by
  unfold prepare walletOf
  -- the settings, the wallet and the connection in the order in which they are asked for
  cases hs : w.store.settingsOf i.store with
  | error fault => exact .inl ⟨_, w.pool, rfl, fun _ _ _ h => by cases h⟩
  | ok found =>
    cases found with
    | none => exact .inl ⟨_, w.pool, rfl, fun _ _ _ h => by cases h⟩
    | some s =>
      cases hwallet : s.wallet with
      | none =>
        refine .inl ⟨_, w.pool, by simp only [hwallet]; rfl, fun s' wallet c h h' => ?_⟩
        injection h with h
        injection h with h
        rw [← h, hwallet] at h'
        cases h'
      | some wallet =>
        cases hc : (Broker.connect s w.pool) with
        | mk connection pool =>
          cases connection with
          | error err =>
            refine .inl ⟨.connection err, pool, by simp only [hwallet, hc], fun s' _ c h _ => ?_⟩
            injection h with h
            injection h with h
            rw [← h, hc]
            simp
          | ok c =>
            exact .inr ⟨s, wallet, c, rfl, hwallet, by rw [hc], by simp only [hwallet, hc]⟩

/-- A swap has a lockup address if it has a side to pay to, and an address there. -/
theorem lockupAddress_eq_some {swap : Swap.ChainInfo} {address : String} :
    lockupAddress swap = some address
      ↔ ∃ side, swap.source = some side ∧ side.lockupAddress = address ∧ address ≠ "" := by
  unfold lockupAddress
  rw [Option.bind_eq_some_iff]
  simp only [Swap.presentAddress_eq_some]

/-- Placing an order makes one call at most, and gives an address exactly if
the daemon's answer has one. -/
theorem place_cases (o : Order) (w : World) :
    (∃ daemon, (place o w).2 = { w with daemon })
    ∧ (((place o w).2.daemon.calls = w.daemon.calls ∧ ∃ f, (place o w).1 = .error f)
      ∨ (place o w).2.daemon.calls
        = w.daemon.calls ++ [Daemon.entry o.connection (.createChainSwap o.request)])
    ∧ ∀ address, (place o w).1 = .ok address ↔
      ∃ swap, (w.daemon.createChainSwap o.connection o.request).1 = .ok swap
        ∧ lockupAddress swap = some address := by
  -- the daemon may refuse before it notes the call, hence the first alternative
  have hcalls := Daemon.calls_createChainSwap o.connection o.request w.daemon
  unfold place
  cases hd : w.daemon.createChainSwap o.connection o.request with
  | mk answer daemon =>
    rw [hd] at hcalls
    cases answer with
    | error s =>
      exact ⟨⟨daemon, rfl⟩, hcalls.imp_left fun h => ⟨h.1, _, rfl⟩, by simp⟩
    | ok swap =>
      have hasked := hcalls.resolve_left (fun h => by obtain ⟨_, _, h⟩ := h; cases h)
      cases ha : lockupAddress swap <;> simp only [ha]
      · exact ⟨⟨daemon, rfl⟩, .inr hasked, by simp [ha]⟩
      · exact ⟨⟨daemon, rfl⟩, .inr hasked, by simp [ha]⟩

/-- A store with a wallet is connected and asks for its swap. -/
theorem provision_of_wallet {i : Invoice} {w : World} {s : Settings} {wallet : WalletRef}
    (hs : w.store.settingsOf i.store = .ok (some s)) (hwallet : s.wallet = some wallet) :
    provision i w = match Broker.connect s w.pool with
      | (.error e, pool) => (.error (.connection e), { w with pool })
      | (.ok c, pool) => place ⟨c, swapRequest i.due wallet⟩ { w with pool } := by
  unfold provision prepare walletOf
  rw [hs]
  dsimp only
  rw [hwallet]
  dsimp only
  cases Broker.connect s w.pool with
  | mk connection pool => cases connection <;> rfl

/-- **Provisioning makes one call at most, for the invoice and over the
connection of its store, and gives exactly the address that is offered.** -/
theorem provision_cases (i : Invoice) (w : World) :
    (∃ pool daemon, (provision i w).2 = { w with pool, daemon })
    ∧ (((provision i w).2.daemon.calls = w.daemon.calls ∧ ∃ f, (provision i w).1 = .error f)
      ∨ Asks i w (provision i w).2)
    ∧ ∀ address, (provision i w).1 = .ok address ↔ Offers i w address := by
  unfold provision
  -- nothing is asked of the daemon before the order stands
  rcases prepare_cases i w with ⟨f, pool, hp, hnone⟩ | ⟨s, wallet, c, hs, hwallet, hc, hp⟩
  · rw [hp]
    refine ⟨⟨pool, w.daemon, rfl⟩, .inl ⟨rfl, f, rfl⟩, fun address => ⟨fun h => (by cases h), ?_⟩⟩
    rintro ⟨s, wallet, c, _, _, hs, hwallet, hc, _⟩
    exact absurd hc (hnone s wallet c hs hwallet)
  · rw [hp]
    obtain ⟨⟨daemon, hw⟩, hcalls, haddress⟩ := place_cases ⟨c, swapRequest i.due wallet⟩
      { w with pool := (Broker.connect s w.pool).2 }
    refine ⟨⟨_, daemon, hw⟩, hcalls.imp_right fun h => ⟨s, wallet, hs, hwallet, ?_⟩,
      fun address => (haddress address).trans ?_⟩
    · rw [Broker.connect_eq_ok hc] at h
      rw [Broker.connect_eq_ok hc]
      exact h
    · constructor
      · rintro ⟨swap, hswap, ha⟩
        obtain ⟨side, hside, ha⟩ := lockupAddress_eq_some.1 ha
        exact ⟨s, wallet, c, swap, side, hs, hwallet, hc, hswap, hside, ha⟩
      · rintro ⟨s', wallet', c', swap, side, hs', hwallet', hc', hswap, hside, ha⟩
        -- the offer names its own settings, wallet and connection: they are the prepared ones
        injection hs.symm.trans hs' with h
        injection h with h
        subst h
        injection hwallet.symm.trans hwallet' with h
        subst h
        injection hc.symm.trans hc' with h
        subst h
        exact ⟨swap, hswap, lockupAddress_eq_some.2 ⟨side, hside, ha⟩⟩

/-! ## §3. Outcomes. -/

/-- The platform does what the handling of an event asks of it. -/
def Serves (p : Platform) : Prop :=
  ∀ m ∈ [Platform.Method.invoice, .activatePrompt, .deactivatePrompt, .markInvalid, .log],
    p.permit m = .ok ()

/-- `onlyMethod` looks at the prompts by their method; whether they are active is no matter
to it. -/
theorem onlyMethod_iff (i : Invoice) :
    onlyMethod i = true ↔ ∀ p ∈ i.prompts, p.method = boltzMethod := by
  unfold onlyMethod
  simp

/-- Where the platform `Serves`, an invoice that was just written has a log to write to. -/
theorem log_putInvoice {p : Platform} (hp : Serves p) (i : Invoice) (id message : String) :
    (p.putInvoice i).log id message
      = .ok { p.putInvoice i with logs := p.logs ++ [⟨id, message⟩] } := by
  unfold Platform.log
  rw [show (p.putInvoice i).permit .log = p.permit .log from rfl, hp .log (by simp)]
  rfl

/-- **Giving up the only method** makes the invoice invalid. -/
theorem abandon_of_only {p : Platform} (hp : Serves p) (hi : p.invoices.get? i.id = some i)
    (f : Failure) (h : ∀ prompt ∈ i.prompts, prompt.method = boltzMethod) :
    abandon i f p =
      (.invalidated,
        { p.putInvoice
            { i.deactivate boltzMethod with status := .invalid, exception := .paidPartial } with
          logs := p.logs ++
            [⟨i.id, "Invoice paid partially and no payment method remains: "
              ++ Report.line f.layers⟩] }) := by
  have hoff : p.deactivatePrompt i.id boltzMethod = .ok (p.putInvoice (i.deactivate boltzMethod)) :=
    Platform.changeInvoice_of_get (hp _ (by simp)) hi rfl
  -- the second change finds the invoice that the first one put back
  have hmark : (p.putInvoice (i.deactivate boltzMethod)).markInvalid i.id .paidPartial
      = .ok (p.putInvoice
        { i.deactivate boltzMethod with status := .invalid, exception := .paidPartial }) :=
    Platform.changeInvoice_putInvoice (i := i.deactivate boltzMethod) (hp _ (by simp)) rfl
  unfold abandon
  simp only [hoff, attempt, (onlyMethod_iff i).2 h, if_true, hmark, log_putInvoice hp]

/-- **Giving up one method of several** leaves the invoice to the others. -/
theorem abandon_of_other {p : Platform} (hp : Serves p) (hi : p.invoices.get? i.id = some i)
    (f : Failure) (h : ¬ ∀ prompt ∈ i.prompts, prompt.method = boltzMethod) :
    abandon i f p =
      (.deactivated,
        { p.putInvoice (i.deactivate boltzMethod) with
          logs := p.logs ++
            [⟨i.id, "Boltz payment method deactivated: " ++ Report.line f.layers⟩] }) := by
  have hoff : p.deactivatePrompt i.id boltzMethod = .ok (p.putInvoice (i.deactivate boltzMethod)) :=
    Platform.changeInvoice_of_get (hp _ (by simp)) hi rfl
  unfold abandon
  rw [if_neg (fun ho => h ((onlyMethod_iff i).1 ho))]
  simp only [hoff, attempt, log_putInvoice hp]

/-- Showing a new address, on a platform that lets prompts be activated. -/
theorem resolve_ok (hp : w.platform.permit .activatePrompt = .ok ())
    (hi : w.platform.invoices.get? i.id = some i) (d : String) :
    resolve i (.ok d) w =
      (.reactivated d,
        { w with platform := w.platform.putInvoice (i.activate boltzMethod d) }) := by
  have hon : w.platform.activatePrompt i.id boltzMethod d
      = .ok (w.platform.putInvoice (i.activate boltzMethod d)) :=
    Platform.changeInvoice_of_get hp hi rfl
  unfold resolve
  simp only [hon]

/-- An attempt that failed is resolved by giving the method up. -/
theorem resolve_error (i : Invoice) (f : Failure) (w : World) :
    resolve i (.error f) w
      = ((abandon i f w.platform).1, { w with platform := (abandon i f w.platform).2 }) := rfl

/-- The prompt of an invoice was given an address: it is active and shows the
address, and nothing else of the platform has changed. -/
structure Reactivates (i : Invoice) (d : String) (w w' : World) (o : Outcome) : Prop where
  outcome_eq : o = .reactivated d
  platform_eq : w'.platform = w.platform.putInvoice (i.activate boltzMethod d)
  prompt_eq : (i.activate boltzMethod d).prompt? boltzMethod = some ⟨boltzMethod, some d, true⟩
  others_eq : (i.activate boltzMethod d).prompts.filter (·.method ≠ boltzMethod)
    = i.prompts.filter (·.method ≠ boltzMethod)

/-- The prompt of an invoice was given up: it is off, and the log says why.
The invoice is invalid if no prompt of another method is left to it. -/
structure GivesUp (i : Invoice) (f : Failure) (w w' : World) (o : Outcome) : Prop where
  inactive : (i.deactivate boltzMethod).isActive boltzMethod = false
  others_eq : (i.deactivate boltzMethod).prompts.filter (·.method ≠ boltzMethod)
    = i.prompts.filter (·.method ≠ boltzMethod)
  of_only : (∀ p ∈ i.prompts, p.method = boltzMethod) → o = .invalidated
    ∧ w'.platform =
      { w.platform.putInvoice
          { i.deactivate boltzMethod with status := .invalid, exception := .paidPartial } with
        logs := w.platform.logs ++
          [⟨i.id, "Invoice paid partially and no payment method remains: "
            ++ Report.line f.layers⟩] }
  of_other : (¬ ∀ p ∈ i.prompts, p.method = boltzMethod) → o = .deactivated
    ∧ w'.platform =
      { w.platform.putInvoice (i.deactivate boltzMethod) with
        logs := w.platform.logs ++
          [⟨i.id, "Boltz payment method deactivated: " ++ Report.line f.layers⟩] }

/-- To write the invoice with its method activated `Reactivates` it. -/
theorem reactivates_activate {prompt : Invoice.Prompt} (h : i.prompt? boltzMethod = some prompt)
    (d : String) (w : World) (pool : Rpc.Pool) (daemon : Daemon) :
    Reactivates i d w
      { w with pool, daemon, platform := w.platform.putInvoice (i.activate boltzMethod d) }
      (.reactivated d) where
  outcome_eq := rfl
  platform_eq := rfl
  prompt_eq := Invoice.prompt?_activate h d
  others_eq := Invoice.filter_mapPrompts i boltzMethod fun _ => rfl

/-- `abandon` on a platform that serves all that it asks for `GivesUp` the method. -/
theorem givesUp_abandon (hp : Serves w.platform) (hi : w.platform.invoices.get? i.id = some i)
    (f : Failure) (pool : Rpc.Pool) (daemon : Daemon) :
    GivesUp i f w { w with pool, daemon, platform := (abandon i f w.platform).2 }
      (abandon i f w.platform).1 where
  inactive := Invoice.isActive_deactivate i boltzMethod
  others_eq := Invoice.filter_mapPrompts i boltzMethod fun _ => rfl
  of_only h := by
    rw [abandon_of_only hp hi f h]
    exact ⟨rfl, rfl⟩
  of_other h := by
    rw [abandon_of_other hp hi f h]
    exact ⟨rfl, rfl⟩

/-- An event is resolved at the platform alone. -/
theorem resolve_frame (i : Invoice) (r : Except Failure String) (w : World) :
    (resolve i r w).2 = { w with platform := (resolve i r w).2.platform } := by
  unfold resolve
  cases r with
  | error f => rfl
  | ok d =>
    dsimp only
    split <;> rfl

/-- The settings and the ledger are left alone. -/
theorem resolve_store (i : Invoice) (r : Except Failure String) (w : World) :
    (resolve i r w).2.store = w.store := by
  rw [resolve_frame]

/-- The invoice that an event is about is one of the platform's. -/
theorem storeOf_openInvoice {p : Platform} (h : openInvoice e p = some i) :
    p.storeOf e.invoice = some i.store := by
  have hstored : p.invoices.get? e.invoice = some i := by
    unfold openInvoice Platform.invoice at h
    cases hp : p.permit .invoice with
    | error fault => simp [hp, Except.map] at h
    | ok u =>
      cases hi : p.invoices.get? e.invoice with
      | none => simp [hp, hi, Except.map] at h
      | some j =>
        simp only [hp, hi, Except.map, Option.ite_none_right_eq_some, Option.some.injEq] at h
        rw [h.2.2]
  rw [Platform.storeOf, hstored]
  rfl

/-- An attempt leaves invoices with their stores if what it attempts does. -/
theorem storeOf_attempt {p : Platform} {r : Except Platform.Fault Platform}
    (h : ∀ after, r = .ok after → after.storeOf = p.storeOf) :
    (attempt r p).storeOf = p.storeOf := by
  cases r with
  | error fault => rfl
  | ok after => exact h after rfl

theorem storeOf_log {p p' : Platform} {id message : String} (h : p.log id message = .ok p') :
    p'.storeOf = p.storeOf := by
  unfold Platform.log at h
  cases hp : p.permit .log with
  | error fault =>
    rw [hp] at h
    cases h
  | ok u =>
    rw [hp] at h
    cases h
    rfl

/-- **Whatever an event ends with, invoices stay with their stores.** -/
theorem storeOf_resolve (i : Invoice) (r : Except Failure String) (w : World) :
    (resolve i r w).2.platform.storeOf = w.platform.storeOf := by
  -- a refused activation ends as a refused provision does
  have habandon : ∀ f, (abandon i f w.platform).2.storeOf = w.platform.storeOf := by
    intro f
    have hoff : (attempt (w.platform.deactivatePrompt i.id boltzMethod) w.platform).storeOf
        = w.platform.storeOf :=
      storeOf_attempt fun _ h =>
        Platform.storeOf_changeInvoice (f := (·.deactivate boltzMethod)) (fun _ => rfl) h
    unfold abandon
    dsimp only
    split
    · refine (storeOf_attempt fun _ h => storeOf_log h).trans (Eq.trans ?_ hoff)
      exact storeOf_attempt fun _ h => Platform.storeOf_changeInvoice
        (f := fun i => { i with status := .invalid, exception := .paidPartial }) (fun _ => rfl) h
    · exact (storeOf_attempt fun _ h => storeOf_log h).trans hoff
  unfold resolve
  cases r with
  | error f => exact habandon f
  | ok d =>
    dsimp only
    split
    · rename_i platform hshown
      exact Platform.storeOf_changeInvoice (f := (·.activate boltzMethod d)) (fun _ => rfl) hshown
    · exact habandon _

/-- Before the daemon is asked, channels are opened and the platform is told;
an order that waits for the daemon was prepared for the invoice of the event. -/
theorem start_cases (p : Provisioner) (e : Invoice.Event) (w : World) :
    (∃ pool platform, (start p e w).2 = { w with pool, platform }
        ∧ platform.storeOf = w.platform.storeOf)
      ∧ ∀ i o, (start p e w).1 = .waiting i o →
        (prepare i w).1 = .ok o ∧ w.platform.storeOf e.invoice = some i.store := by
  -- every provisioner but the chain swap concludes at once
  have hconclude : ∀ i r (w : World), ∃ o platform,
      conclude i r w = (.finished o, { w with platform })
        ∧ platform.storeOf = w.platform.storeOf := fun i r w =>
    ⟨_, _, Prod.ext rfl (resolve_frame i r w), storeOf_resolve i r w⟩
  unfold start
  cases hopen : openInvoice e w.platform with
  | none => exact ⟨⟨w.pool, w.platform, rfl, rfl⟩, fun _ _ h => by cases h⟩
  | some i =>
    cases p with
    | crashing => exact ⟨⟨w.pool, w.platform, rfl, rfl⟩, fun _ _ h => by cases h⟩
    | fixed address =>
      obtain ⟨o, platform, h, hstores⟩ := hconclude i (.ok address) w
      dsimp only
      rw [h]
      exact ⟨⟨w.pool, platform, rfl, hstores⟩, fun _ _ h => by cases h⟩
    | failing message =>
      obtain ⟨o, platform, h, hstores⟩ := hconclude i (.error (.refused message)) w
      dsimp only
      rw [h]
      exact ⟨⟨w.pool, platform, rfl, hstores⟩, fun _ _ h => by cases h⟩
    | chainSwap =>
      dsimp only
      rcases prepare_cases i w with ⟨f, pool, hp, _⟩ | ⟨s, wallet, c, _, _, _, hp⟩
      · obtain ⟨o, platform, h, hstores⟩ := hconclude i (.error f) { w with pool }
        rw [hp]
        dsimp only
        rw [h]
        exact ⟨⟨pool, platform, rfl, hstores⟩, fun _ _ h => by cases h⟩
      · rw [hp]
        refine ⟨⟨_, w.platform, rfl, rfl⟩, fun j o h => ?_⟩
        cases h
        rw [hp]
        exact ⟨rfl, storeOf_openInvoice hopen⟩

/-- What comes after the daemon was asked is between the bridge and the platform. -/
theorem finish_waiting (i : Invoice) (o : Order) (w : World) :
    ∃ platform, (finish (.waiting i o) w).2 = { (place o w).2 with platform } :=
  ⟨_, resolve_frame i (place o w).1 (place o w).2⟩

/-- An event that is taken up is resolved with what provisioning gave. -/
theorem handle_of_open (h : openInvoice e w.platform = some i) :
    handle .chainSwap e w
      = (some (resolve i (provision i w).1 (provision i w).2).1,
          (resolve i (provision i w).1 (provision i w).2).2) := by
  unfold handle start provision
  rw [h]
  dsimp only
  cases prepare i w with
  | mk r after => cases r <;> rfl

/-- An event without an open invoice is not applicable, and changes nothing. -/
theorem handle_of_closed (h : openInvoice e w.platform = none) :
    handle .chainSwap e w = (some .notApplicable, w) := by
  unfold handle start
  rw [h]
  rfl

/-- **The handling of an event writes nothing to the store**, wherever new
addresses come from. -/
theorem handle_store (p : Provisioner) (e : Invoice.Event) (w : World) :
    (handle p e w).2.store = w.store := by
  cases h : openInvoice e w.platform with
  | none =>
    unfold handle start
    rw [h]
    rfl
  | some i =>
    cases p with
    | chainSwap =>
      obtain ⟨⟨pool, daemon, hw⟩, _⟩ := provision_cases i w
      rw [handle_of_open h]
      show (resolve i _ _).2.store = _
      rw [resolve_store, hw]
    | fixed address =>
      unfold handle start
      rw [h]
      exact resolve_store i (.ok address) w
    | failing message =>
      unfold handle start
      rw [h]
      exact resolve_store i (.error (.refused message)) w
    | crashing =>
      unfold handle start
      rw [h]
      rfl

/-- **THE OUTCOMES OF AN INVOICE EVENT**, on a platform that serves.  Without
an invoice that is paid in part nothing happens.  With one the daemon is asked
once at most, for a swap over the due of the invoice into the wallet of its
store.  If an address is offered, the prompt shows it and nothing else of the
platform changes.  In every other case the prompt is off, the log says why, and
the invoice is invalid exactly if it had no prompt of another method. -/
theorem handle_outcomes (e : Invoice.Event) (w : World) (hkeyed : w.platform.IsKeyed)
    (hserves : Serves w.platform) :
    ((∀ i, ¬ PaidInPart e w.platform i) → handle .chainSwap e w = (some .notApplicable, w))
    ∧ ∀ i, PaidInPart e w.platform i →
      ∃ o w', handle .chainSwap e w = (some o, w') ∧ w'.store = w.store ∧ w'.health = w.health
        ∧ (w'.daemon.calls = w.daemon.calls ∨ Asks i w w')
        ∧ (∀ d, Offers i w d → Asks i w w' ∧ Reactivates i d w w' o)
        ∧ ((∀ d, ¬ Offers i w d) → ∃ f, (provision i w).1 = .error f ∧ GivesUp i f w w' o) := by
  -- the claim's condition and the code's own look-up pick the same invoice
  have hopen := fun i => openInvoice_eq_some (e := e) (i := i) (hserves .invoice (by simp))
  refine ⟨fun hnone => handle_of_closed ?_, fun i hi => ?_⟩
  · cases h : openInvoice e w.platform with
    | none => rfl
    | some i => exact absurd ((hopen i).1 h) (hnone i)
  · have hstored : w.platform.invoices.get? i.id = some i :=
      (hkeyed _ i hi.stored).symm ▸ hi.stored
    obtain ⟨prompt, hprompt, _⟩ := hi.active
    obtain ⟨⟨pool, daemon, hw⟩, hcalls, haddress⟩ := provision_cases i w
    have heq := handle_of_open ((hopen i).2 hi)
    -- an address is handed out exactly when the wallet and the daemon make an offer
    -- (`haddress`)
    cases hr : (provision i w).1 with
    | ok d =>
      have hoffer := (haddress d).1 hr
      have hasks : Asks i w (provision i w).2 :=
        hcalls.resolve_left fun ⟨_, f, hf⟩ => by rw [hr] at hf; cases hf
      rw [hr, hw, resolve_ok (w := { w with pool, daemon }) (hserves _ (by simp)) hstored] at heq
      rw [hw] at hasks
      refine ⟨_, _, heq, rfl, rfl, .inr hasks, fun d' hd' => ⟨hasks, ?_⟩, fun hnone => ?_⟩
      · have hd : d = d' := by
          have := hr.symm.trans ((haddress d').2 hd')
          injection this
        subst hd
        exact reactivates_activate hprompt d w pool daemon
      · exact absurd hoffer (hnone d)
    | error f =>
      rw [hr, hw, resolve_error] at heq
      rw [hw] at hcalls
      refine ⟨_, _, heq, rfl, rfl, hcalls.imp_left And.left, fun d hd => ?_, fun _ => ?_⟩
      · have := hr.symm.trans ((haddress d).2 hd)
        cases this
      · exact ⟨f, rfl, givesUp_abandon hserves hstored f pool daemon⟩

/-- An invoice of the shop that was paid in part. -/
def partlyPaid : Invoice := { Sample.invoice "inv" "A" with exception := .paidPartial }

/-- The daemon makes up an answer where none was prepared. -/
theorem offers_partlyPaid : Offers partlyPaid (Sample.shop partlyPaid) "lockup-1" :=
  ⟨Sample.settings, ⟨20, "liquid"⟩, ⟨"http://localhost:9002", "aa", some 2⟩,
    Daemon.newChainSwap 1 (swapRequest 4000 ⟨20, "liquid"⟩),
    { amount := 4000, lockupAddress := "lockup-1" }, Sample.settingsOf_store, rfl,
    by decide +kernel, by decide +kernel, by decide +kernel, rfl, by decide⟩

theorem handle_outcomes_partlyPaid :
    (Sample.shop partlyPaid).platform.IsKeyed ∧ Serves (Sample.shop partlyPaid).platform
    ∧ ∃ w', handle .chainSwap (.dataChanged "inv" .new .paidPartial) (Sample.shop partlyPaid)
        = (some (.reactivated "lockup-1"), w')
      ∧ w'.daemon.calls = [callFor Sample.settings ⟨20, "liquid"⟩ 4000]
      ∧ w'.platform = (Sample.shop partlyPaid).platform.putInvoice
        (partlyPaid.activate boltzMethod "lockup-1") := by
  have hkeyed : (Sample.shop partlyPaid).platform.IsKeyed :=
    Platform.isKeyed_empty.putInvoice partlyPaid
  have hserves : Serves (Sample.shop partlyPaid).platform := fun _ _ => rfl
  have hpaid : PaidInPart (.dataChanged "inv" .new .paidPartial)
      (Sample.shop partlyPaid).platform partlyPaid :=
    ⟨.inr ⟨_, rfl⟩, by decide, rfl, rfl, by decide, _, rfl, rfl⟩
  obtain ⟨o, w', heq, _, _, _, hoffered, _⟩ :=
    (handle_outcomes _ (Sample.shop partlyPaid) hkeyed hserves).2 partlyPaid hpaid
  obtain ⟨⟨s, wallet, hs, hwallet, hcalls⟩, hshown⟩ := hoffered "lockup-1" offers_partlyPaid
  have hsettings : s = Sample.settings :=
    (Option.some.inj (Except.ok.inj (Sample.settingsOf_store.symm.trans hs))).symm
  subst hsettings
  have hwallet : (⟨20, "liquid"⟩ : WalletRef) = wallet := Option.some.inj hwallet
  exact ⟨hkeyed, hserves, w', hshown.outcome_eq ▸ heq, hwallet ▸ hcalls, hshown.platform_eq⟩

end SwapBridge.PartialPayment
