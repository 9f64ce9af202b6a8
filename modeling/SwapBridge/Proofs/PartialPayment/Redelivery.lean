/-
  SwapBridge.Proofs.PartialPayment.Redelivery
  ───────────────────────────────────────────
  **SEVERAL EVENTS ABOUT ONE PARTIAL PAYMENT.**

  The platform tells of a partial payment more than once, and nothing keeps a
  record of what was done about it but the prompt.  A prompt that was given a
  new address is active, so the next event makes another swap and shows that
  one's address.  Only a prompt that was given up ends the matter.

    • `leftOf` — what giving up leaves of an invoice, on a platform that may refuse,
    • `Visit.treats` — what one event makes of the invoice that it finds,
    • `Visits` — events of one invoice, whatever else happens in between,
    • `swaps_of_visits` — which of them make a swap, and what the prompt shows.
-/
import SwapBridge.Proofs.PartialPayment

namespace SwapBridge.PartialPayment

variable {id : String} {i j k l : Invoice} {w : World}

/-! ## §1. Giving up, on a platform that may refuse. -/

/-- An invoice is new, and paid in part only. -/
def InPart (i : Invoice) : Prop :=
  i.status = .new ∧ i.exception = .paidPartial ∧ 0 < i.due

/-- `isOpen` asks for an invoice that was paid in part, and for the method to be active. -/
theorem isOpen_iff_inPart (i : Invoice) :
    isOpen i = true ↔ InPart i ∧ i.isActive boltzMethod = true := by
  rw [isOpen_iff, Invoice.isActive_iff]
  unfold InPart
  simp only [and_assoc]

/-- A change of an invoice that the platform may refuse. -/
theorem stored_attempt {p : Platform} {m : Platform.Method} {f : Invoice → Invoice}
    (hi : p.invoices.get? id = some i) (hid : i.id = id) (hf : (f i).id = i.id) :
    (attempt (p.changeInvoice m id f) p).invoices.get? id
        = some (if p.permit m = .ok () then f i else i)
      ∧ ∀ n, (attempt (p.changeInvoice m id f) p).permit n = p.permit n := by
  subst hid
  -- a refused change leaves the whole platform, a permitted one is an insertion under the same
  -- id
  by_cases hp : p.permit m = .ok ()
  · rw [Platform.changeInvoice_of_get hp hi hf, if_pos hp]
    refine ⟨?_, fun _ => rfl⟩
    show (p.invoices.insert (f i).id (f i)).get? i.id = _
    rw [Table.get?_insert, if_pos hf.symm]
  · have hrefused : attempt (p.changeInvoice m i.id f) p = p := by
      unfold Platform.changeInvoice
      cases h : p.permit m with
      | ok u => exact absurd h hp
      | error fault => rfl
    rw [hrefused, if_neg hp]
    exact ⟨hi, fun _ => rfl⟩

/-- The attempt to write to an invoice's log leaves the invoices alone. -/
theorem invoices_log (p : Platform) (id message : String) :
    (attempt (p.log id message) p).invoices = p.invoices := by
  unfold Platform.log
  cases p.permit .log <;> rfl

/-- The invoice after its prompt was switched off, if the platform let it be. -/
def switchedOff (p : Platform) (i : Invoice) : Invoice :=
  if p.permit .deactivatePrompt = .ok () then i.deactivate boltzMethod else i

/-- The invoice after it was marked, if the platform let it be. -/
def markedInvalid (p : Platform) (i : Invoice) : Invoice :=
  if p.permit .markInvalid = .ok () then { i with status := .invalid, exception := .paidPartial }
  else i

/-- What giving up leaves of an invoice. -/
def leftOf (p : Platform) (i : Invoice) : Invoice :=
  if onlyMethod i then markedInvalid p (switchedOff p i) else switchedOff p i

theorem id_switchedOff (p : Platform) (i : Invoice) : (switchedOff p i).id = i.id := by
  unfold switchedOff
  split <;> rfl

/-- Marking an invoice leaves its prompts as they are. -/
theorem prompt?_leftOf (p : Platform) (i : Invoice) (method : String) :
    (leftOf p i).prompt? method = (switchedOff p i).prompt? method := by
  unfold leftOf markedInvalid
  split
  · split <;> rfl
  · rfl

/-- A prompt that is given up keeps its address. -/
theorem destination?_leftOf (p : Platform) (i : Invoice) :
    (leftOf p i).destination? boltzMethod = i.destination? boltzMethod := by
  have hprompt : (i.deactivate boltzMethod).prompt? boltzMethod
      = (i.prompt? boltzMethod).map fun p => { p with active := false } :=
    Invoice.prompt?_mapPrompts i boltzMethod fun _ => rfl
  unfold Invoice.destination?
  rw [prompt?_leftOf]
  unfold switchedOff
  split
  · rw [hprompt]
    cases i.prompt? boltzMethod <;> rfl
  · rfl

/-- What is left of an invoice has the method active only where it could not be switched
off. -/
theorem isActive_leftOf (p : Platform) (i : Invoice) :
    (leftOf p i).isActive boltzMethod = true
      ↔ i.isActive boltzMethod = true ∧ ¬ p.permit .deactivatePrompt = .ok () := by
  rw [show (leftOf p i).isActive boltzMethod = (switchedOff p i).isActive boltzMethod by
    unfold Invoice.isActive; rw [prompt?_leftOf]]
  unfold switchedOff
  by_cases hp : p.permit .deactivatePrompt = .ok ()
  · rw [if_pos hp, Invoice.isActive_deactivate]
    simp [hp]
  · rw [if_neg hp]
    simp [hp]

/-- It is still paid in part, unless it was the only method and could be marked invalid. -/
theorem inPart_leftOf (p : Platform) (i : Invoice) :
    InPart (leftOf p i)
      ↔ InPart i ∧ ¬ (onlyMethod i = true ∧ p.permit .markInvalid = .ok ()) := by
  -- switching a prompt off touches neither the status nor the amount due
  have hoff : InPart (switchedOff p i) ↔ InPart i := by
    unfold switchedOff
    split <;> exact Iff.rfl
  unfold leftOf markedInvalid
  by_cases ho : onlyMethod i = true
  · rw [if_pos ho]
    by_cases hm : p.permit .markInvalid = .ok ()
    · rw [if_pos hm]
      simp [InPart, ho, hm]
    · rw [if_neg hm, hoff]
      simp [hm]
  · rw [if_neg ho, hoff]
    simp [ho]

/-- **What is left of an invoice when its prompt is given up.** -/
theorem stored_abandon {p : Platform} (hi : p.invoices.get? i.id = some i) (f : Failure) :
    (abandon i f p).2.invoices.get? i.id = some (leftOf p i) := by
  obtain ⟨hoff, hpermit⟩ :=
    stored_attempt (m := .deactivatePrompt) (f := (·.deactivate boltzMethod)) hi rfl rfl
  unfold abandon leftOf
  cases ho : onlyMethod i with
  | false =>
    show (attempt (Platform.log _ _ _) _).invoices.get? i.id = _
    rw [invoices_log]
    exact hoff
  | true =>
    have hmark := (stored_attempt (m := .markInvalid) (i := switchedOff p i)
      (f := fun i => { i with status := .invalid, exception := .paidPartial }) hoff
      (id_switchedOff p i) rfl).1
    -- the same methods are refused as before the prompt was switched off
    rw [hpermit] at hmark
    show (attempt (Platform.log _ _ _) _).invoices.get? i.id = _
    rw [invoices_log]
    exact hmark

/-! ## §2. One visit. -/

/-- An event of an invoice, and the world that it meets. -/
structure Visit where
  event : Invoice.Event
  world : World

namespace Visit

variable {v : Visit}

def outcome (v : Visit) : Option Outcome := (handle .chainSwap v.event v.world).1

def after (v : Visit) : World := (handle .chainSwap v.event v.world).2

/-- The address that a visit makes the prompt show: that of the swap it made. -/
def shows (v : Visit) : Option String :=
  match v.outcome with
  | some (.reactivated d) => some d
  | _ => none

/-- The event tells of a partial payment, and the platform lets the invoice be read. -/
def Tells (v : Visit) : Prop :=
  ((∃ id method, v.event = .paymentReceived id method)
    ∨ ∃ id, v.event = .dataChanged id .new .paidPartial)
  ∧ v.world.platform.permit .invoice = .ok ()

/-- A swap of the invoice would be made and its address shown. -/
def Gets (v : Visit) (j : Invoice) (d : String) : Prop :=
  Offers j v.world d ∧ v.world.platform.permit .activatePrompt = .ok ()

/-- The visit gave the prompt up, and the platform let it be switched off. -/
def SwitchedOff (v : Visit) : Prop :=
  (v.outcome = some .deactivated ∨ v.outcome = some .invalidated)
  ∧ v.world.platform.permit .deactivatePrompt = .ok ()

/-- The visit gave the only prompt up, and the platform let the invoice be marked. -/
def MarkedInvalid (v : Visit) : Prop :=
  v.outcome = some .invalidated ∧ v.world.platform.permit .markInvalid = .ok ()

/-- The daemon was asked once at most, for the swap of the invoice. -/
def AsksOnce (v : Visit) (j : Invoice) : Prop :=
  v.after.daemon.calls = v.world.daemon.calls ∨ Asks j v.world v.after

/-- What a visit makes of the invoice `j` that it finds, leaving `k`. -/
structure Treats (v : Visit) (j k : Invoice) : Prop where
  asks_once : v.AsksOnce j
  /-- An address that it shows is of a swap that the daemon was asked for. -/
  asks_of_shows : ∀ d, v.shows = some d → Asks j v.world v.after
  /-- It makes a swap and shows the address of it, or it does not. -/
  shows_iff : ∀ d, v.shows = some d ↔ isOpen j = true ∧ v.Tells ∧ v.Gets j d
  of_idle : ¬ (v.Tells ∧ isOpen j = true) → v.outcome = some .notApplicable ∧ v.after = v.world
  destination_eq : k.destination? boltzMethod = v.shows.or (j.destination? boltzMethod)
  isActive_iff : k.isActive boltzMethod = true ↔ j.isActive boltzMethod = true ∧ ¬ v.SwitchedOff
  inPart_iff : InPart k ↔ InPart j ∧ ¬ v.MarkedInvalid

end Visit

/-- `openInvoice` finds the invoice of an event that concerns it, while it `isOpen` and may
be read. -/
theorem openInvoice_eq (e : Invoice.Event) {p : Platform}
    (hj : p.invoices.get? e.invoice = some j) :
    openInvoice e p = if p.permit .invoice = .ok () ∧ concerns e = true ∧ isOpen j = true
      then some j else none := by
  unfold openInvoice Platform.invoice
  rw [hj]
  cases p.permit .invoice with
  | error fault => simp [Except.map]
  | ok u => cases hc : concerns e <;> cases ho : isOpen j <;> simp [Except.map, ho]

/-- A platform that does not let the prompt be activated leaves it to be given up. -/
theorem resolve_refused (hp : w.platform.permit .activatePrompt ≠ .ok ()) (j : Invoice)
    (d : String) : ∃ f, resolve j (.ok d) w
      = ((abandon j f w.platform).1, { w with platform := (abandon j f w.platform).2 }) := by
  unfold resolve Platform.activatePrompt Platform.changeInvoice
  cases h : w.platform.permit .activatePrompt with
  | ok u => exact absurd h hp
  | error fault => exact ⟨.prompt fault, rfl⟩

/-- How giving an invoice up is reported. -/
def givenUp (j : Invoice) : Outcome := if onlyMethod j then .invalidated else .deactivated

/-- `abandon` answers `givenUp`, whatever the platform refuses it meanwhile. -/
theorem abandon_outcome (j : Invoice) (f : Failure) (p : Platform) :
    (abandon j f p).1 = givenUp j := by
  unfold abandon givenUp
  cases onlyMethod j <;> rfl

/-- What a visit makes of a closed or unread invoice: nothing. -/
theorem visit_of_closed {v : Visit} (hj : v.world.platform.invoices.get? v.event.invoice = some j)
    (h : ¬ (v.Tells ∧ isOpen j = true)) :
    v.outcome = some .notApplicable ∧ v.after = v.world := by
  have hclosed : openInvoice v.event v.world.platform = none := by
    rw [openInvoice_eq v.event hj, if_neg]
    rintro ⟨hread, hc, ho⟩
    exact h ⟨⟨(concerns_iff v.event).1 hc, hread⟩, ho⟩
  have heq := handle_of_closed hclosed
  exact ⟨congrArg Prod.fst heq, congrArg Prod.snd heq⟩

/-- What a visit makes of an open invoice: it asks for a swap once at most, and
then shows the new address or gives the prompt up. -/
theorem visit_of_open {v : Visit} (hj : v.world.platform.invoices.get? v.event.invoice = some j)
    (hid : j.id = v.event.invoice) (ht : v.Tells) (ho : isOpen j = true) :
    v.AsksOnce j
      ∧ ∃ k, v.after.platform.invoices.get? v.event.invoice = some k
        ∧ ((∃ d, v.Gets j d ∧ Asks j v.world v.after ∧ v.outcome = some (.reactivated d)
            ∧ k = j.activate boltzMethod d)
          ∨ (∀ d, ¬ v.Gets j d) ∧ v.outcome = some (givenUp j)
            ∧ k = leftOf v.world.platform j) := by
  have hopen : openInvoice v.event v.world.platform = some j := by
    rw [openInvoice_eq v.event hj, if_pos ⟨ht.2, (concerns_iff v.event).2 ht.1, ho⟩]
  have heq := handle_of_open hopen
  obtain ⟨⟨pool, daemon, hw⟩, hcalls, haddress⟩ := provision_cases j v.world
  have hdaemon : v.after.daemon = (provision j v.world).2.daemon := by
    unfold Visit.after
    rw [heq]
    show (resolve j _ _).2.daemon = _
    rw [resolve_frame]
  have hasks : Asks j v.world v.after ↔ Asks j v.world (provision j v.world).2 := by
    unfold Asks
    rw [hdaemon]
  constructor
  · unfold Visit.AsksOnce
    rw [hasks, hdaemon]
    exact hcalls.imp_left And.left
  · rw [← hid] at hj ⊢
    -- giving up is the same whether there was no address or none could be shown
    have hgivenUp : ∀ f, handle .chainSwap v.event v.world
          = (some (abandon j f v.world.platform).1,
            { v.world with pool, daemon, platform := (abandon j f v.world.platform).2 }) →
        v.after.platform.invoices.get? j.id = some (leftOf v.world.platform j)
          ∧ v.outcome = some (givenUp j) := by
      intro f hf
      constructor
      · rw [← stored_abandon hj f]
        exact congrArg (fun r => r.2.platform.invoices.get? j.id) hf
      · rw [← abandon_outcome j f v.world.platform]
        exact congrArg Prod.fst hf
    cases hr : (provision j v.world).1 with
    | ok d =>
      have hoffer := (haddress d).1 hr
      have hasked : Asks j v.world v.after :=
        hasks.2 (hcalls.resolve_left fun ⟨_, f, hf⟩ => by rw [hr] at hf; cases hf)
      by_cases hp : v.world.platform.permit .activatePrompt = .ok ()
      · rw [hr, hw, resolve_ok (w := { v.world with pool, daemon }) hp hj] at heq
        refine ⟨j.activate boltzMethod d, ?_,
          .inl ⟨d, ⟨hoffer, hp⟩, hasked, congrArg Prod.fst heq, rfl⟩⟩
        rw [show v.after = _ from congrArg Prod.snd heq]
        show (v.world.platform.invoices.insert j.id (j.activate boltzMethod d)).get? j.id = _
        rw [Table.get?_insert, if_pos rfl]
      · obtain ⟨f, hf⟩ := resolve_refused (w := { v.world with pool, daemon }) hp j d
        rw [hr, hw, hf] at heq
        obtain ⟨hk, hup⟩ := hgivenUp f heq
        exact ⟨_, hk, .inr ⟨fun d' h => hp h.2, hup, rfl⟩⟩
    | error f =>
      rw [hr, hw, resolve_error] at heq
      obtain ⟨hk, hup⟩ := hgivenUp f heq
      refine ⟨_, hk, .inr ⟨fun d h => ?_, hup, rfl⟩⟩
      cases hr.symm.trans ((haddress d).2 h.1)

/-! ## §3. What a visit leaves of an invoice. -/

section Activate

variable {prompt : Invoice.Prompt}

theorem isActive_activate (h : j.prompt? boltzMethod = some prompt) (d : String) :
    (j.activate boltzMethod d).isActive boltzMethod = true :=
  (Invoice.isActive_iff _ boltzMethod).2 ⟨_, Invoice.prompt?_activate h d, rfl⟩

theorem destination?_activate (h : j.prompt? boltzMethod = some prompt) (d : String) :
    (j.activate boltzMethod d).destination? boltzMethod = some d := by
  unfold Invoice.destination?
  rw [Invoice.prompt?_activate h d]
  rfl

end Activate

/-- An address that is offered is the one that provisioning gives. -/
theorem Offers.unique {d d' : String} (h : Offers j w d) (h' : Offers j w d') : d = d' := by
  obtain ⟨_, _, haddress⟩ := provision_cases j w
  exact Except.ok.inj (((haddress d).2 h).symm.trans ((haddress d').2 h'))

namespace Visit

variable {v : Visit}

/-- A visit that is not applicable treats the invoice if it changed nothing, and if there
was no reason for anything else. -/
theorem Treats.of_notApplicable (hw : v.after = v.world)
    (ho : v.outcome = some .notApplicable) (h : ¬ (v.Tells ∧ isOpen j = true)) :
    v.Treats j j where
  asks_once := .inl (by rw [hw])
  asks_of_shows d heq := by
    unfold shows at heq
    rw [ho] at heq
    cases heq
  shows_iff d := by
    unfold shows
    rw [ho]
    exact ⟨fun heq => (by cases heq), fun hh => absurd ⟨hh.2.1, hh.1⟩ h⟩
  of_idle _ := ⟨ho, hw⟩
  destination_eq := by
    unfold shows
    rw [ho]
    rfl
  isActive_iff := by simp [SwitchedOff, ho]
  inPart_iff := by simp [MarkedInvalid, ho]

/-- A visit that got a destination treats the invoice by activating the method with it. -/
theorem Treats.of_reactivated {d : String} (hasks : Asks j v.world v.after) (ht : v.Tells)
    (hopen : isOpen j = true) (hd : v.Gets j d) (ho : v.outcome = some (.reactivated d)) :
    v.Treats j (j.activate boltzMethod d) := by
  obtain ⟨_, _, _, prompt, hp, _⟩ := (isOpen_iff j).1 hopen
  have hshows : v.shows = some d := by
    unfold shows
    rw [ho]
  refine ⟨.inr hasks, fun _ _ => hasks, fun d' => ?_, fun h => absurd ⟨ht, hopen⟩ h, ?_, ?_, ?_⟩
  · rw [hshows]
    constructor
    · intro heq
      injection heq with heq
      exact ⟨hopen, ht, heq ▸ hd⟩
    · rintro ⟨_, _, hd'⟩
      rw [hd.1.unique hd'.1]
  · rw [hshows, destination?_activate hp d]
    rfl
  · simp [isActive_activate hp d, SwitchedOff, ho, ((isOpen_iff_inPart j).1 hopen).2]
  · show InPart j ↔ _
    simp [MarkedInvalid, ho]

/-- A visit that got none treats the invoice by leaving it as `leftOf` has it. -/
theorem Treats.of_givenUp (hasks : v.AsksOnce j) (ht : v.Tells) (hopen : isOpen j = true)
    (hnone : ∀ d, ¬ v.Gets j d) (ho : v.outcome = some (givenUp j)) :
    v.Treats j (leftOf v.world.platform j) := by
  have hshows : v.shows = none := by
    unfold shows
    rw [ho]
    unfold givenUp
    cases onlyMethod j <;> rfl
  refine ⟨hasks, fun d heq => (by rw [hshows] at heq; cases heq), fun d => ?_,
    fun h => absurd ⟨ht, hopen⟩ h, ?_, ?_, ?_⟩
  · rw [hshows]
    exact ⟨fun heq => (by cases heq), fun hh => absurd hh.2.2 (hnone d)⟩
  · rw [hshows, destination?_leftOf]
    rfl
  · rw [isActive_leftOf]
    unfold SwitchedOff
    rw [ho]
    unfold givenUp
    cases onlyMethod j <;> simp
  · rw [inPart_leftOf]
    unfold MarkedInvalid
    rw [ho]
    unfold givenUp
    cases onlyMethod j <;> simp

/-- **What one visit makes of the invoice that it finds.** -/
theorem treats (v : Visit) (hid : j.id = v.event.invoice)
    (hj : v.world.platform.invoices.get? v.event.invoice = some j) :
    ∃ k, v.after.platform.invoices.get? v.event.invoice = some k ∧ v.Treats j k := by
  by_cases h : v.Tells ∧ isOpen j = true
  · obtain ⟨hasks, k, hk, ⟨d, hd, hasked, ho, rfl⟩ | ⟨hnone, ho, rfl⟩⟩ :=
      visit_of_open hj hid h.1 h.2
    · exact ⟨_, hk, .of_reactivated hasked h.1 h.2 hd ho⟩
    · exact ⟨_, hk, .of_givenUp hasks h.1 h.2 hnone ho⟩
  · obtain ⟨ho, hw⟩ := visit_of_closed hj h
    exact ⟨j, by rw [hw]; exact hj, .of_notApplicable hw ho h⟩

end Visit

/-! ## §4. Sequences of visits. -/

/-- The terms of an invoice stayed as they were: its status, its exception, and
what is due. -/
structure SameTerms (i j : Invoice) : Prop where
  status_eq : j.status = i.status
  exception_eq : j.exception = i.exception
  due_eq : j.due = i.due

theorem SameTerms.refl (i : Invoice) : SameTerms i i := ⟨rfl, rfl, rfl⟩

/-- Whether an invoice is paid in part is a matter of its terms. -/
theorem SameTerms.inPart_iff (h : SameTerms i j) : InPart j ↔ InPart i := by
  unfold InPart
  rw [h.status_eq, h.exception_eq, h.due_eq]

/-- With the terms of an invoice its prompt for swaps stayed as it was. -/
structure Untouched (i j : Invoice) : Prop extends SameTerms i j where
  prompt_eq : j.prompt? boltzMethod = i.prompt? boltzMethod

theorem Untouched.isActive_eq (h : Untouched i j) :
    j.isActive boltzMethod = i.isActive boltzMethod := by
  unfold Invoice.isActive
  rw [h.prompt_eq]

/-- An invoice that is untouched keeps the destination of its prompt. -/
theorem Untouched.destination_eq (h : Untouched i j) :
    j.destination? boltzMethod = i.destination? boltzMethod := by
  unfold Invoice.destination?
  rw [h.prompt_eq]

/-- Events of one invoice one after the other, from the invoice before them to
what they leave of it.  What may happen to the invoice between two events is
`Between`; anything else may change: the daemon, the settings, the other
invoices, and what the platform refuses. -/
inductive Visits (Between : Invoice → Invoice → Prop) (id : String) :
    Invoice → List Visit → Invoice → Prop where
  | nil (i : Invoice) : Visits Between id i [] i
  | cons {i j k l : Invoice} {v : Visit} {vs : List Visit} : Between i j →
      v.event.invoice = id → j.id = id → v.world.platform.invoices.get? id = some j →
      v.after.platform.invoices.get? id = some k → Visits Between id k vs l →
      Visits Between id i (v :: vs) l

/-- What a visit of a sequence makes of the invoice. -/
theorem treats_of_stored {v : Visit} (he : v.event.invoice = id) (hid : j.id = id)
    (hj : v.world.platform.invoices.get? id = some j)
    (hk : v.after.platform.invoices.get? id = some k) : v.Treats j k := by
  subst he
  obtain ⟨k', hk', h⟩ := v.treats hid hj
  obtain rfl := Option.some.inj (hk.symm.trans hk')
  exact h

section Sequences

variable {Between : Invoice → Invoice → Prop} {vs : List Visit}

/-- A visit in the middle of a sequence. -/
theorem Visits.split {before after : List Visit} {v : Visit}
    (h : Visits Between id i (before ++ v :: after) l) :
    ∃ m j k, Visits Between id i before m ∧ Between m j
      ∧ v.world.platform.invoices.get? id = some j
      ∧ v.after.platform.invoices.get? id = some k ∧ v.Treats j k := by
  -- induction on the visits in front, for every invoice they may start from
  induction before generalizing i with
  | nil =>
    cases h with
    | cons hbetween he hid hj hk _ =>
      exact ⟨i, _, _, .nil i, hbetween, hj, hk, treats_of_stored he hid hj hk⟩
  | cons u before ih =>
    cases h with
    | cons hbetween he hid hj hk hrest =>
      obtain ⟨m, j, k, hm, hsplit⟩ := ih hrest
      exact ⟨m, j, k, .cons hbetween he hid hj hk hm, hsplit⟩

/-- **An invoice stays new and paid in part until a visit marks it.** -/
theorem inPart_after_visits (hterms : ∀ i j, Between i j → SameTerms i j)
    (h : Visits Between id i vs l) : InPart l ↔ InPart i ∧ ∀ v ∈ vs, ¬ v.MarkedInvalid := by
  induction h with
  | nil i => simp
  | cons hbetween he hid hj hk _ ih =>
    rw [ih, (treats_of_stored he hid hj hk).inPart_iff, (hterms _ _ hbetween).inPart_iff,
      List.forall_mem_cons, and_assoc]

/-- **A prompt that is left alone stays active until a visit switches it off.** -/
theorem isActive_after_visits (h : Visits Untouched id i vs l) :
    l.isActive boltzMethod = true
      ↔ i.isActive boltzMethod = true ∧ ∀ v ∈ vs, ¬ v.SwitchedOff := by
  induction h with
  | nil i => simp
  | cons hbetween he hid hj hk _ ih =>
    rw [ih, (treats_of_stored he hid hj hk).isActive_iff, hbetween.isActive_eq,
      List.forall_mem_cons, and_assoc]

/-- The last present value, when another one comes before all others. -/
theorem or_getLast?_filterMap {α β : Type} (f : α → Option β) (x : α) (xs : List α)
    (s : Option β) :
    (xs.filterMap f).getLast?.or ((f x).or s) = ((x :: xs).filterMap f).getLast?.or s := by
  cases hx : f x with
  | none => simp [hx]
  | some b =>
    rw [List.filterMap_cons_some hx, List.getLast?_cons]
    cases (xs.filterMap f).getLast? <;> rfl

/-- **A prompt that is left alone shows the address of the last swap.** -/
theorem destination_after_visits (h : Visits Untouched id i vs l) :
    l.destination? boltzMethod
      = (vs.filterMap Visit.shows).getLast?.or (i.destination? boltzMethod) := by
  induction h with
  | nil i => rfl
  | cons hbetween he hid hj hk _ ih =>
    rw [ih, (treats_of_stored he hid hj hk).destination_eq, hbetween.destination_eq,
      or_getLast?_filterMap]

/-- An open invoice that is left alone stays open until a visit gives it up. -/
theorem isOpen_after_visits (h : Visits Untouched id i vs l) (hi : isOpen i = true) :
    isOpen l = true ↔ ∀ v ∈ vs, ¬ v.SwitchedOff ∧ ¬ v.MarkedInvalid := by
  obtain ⟨hpart, hactive⟩ := (isOpen_iff_inPart i).1 hi
  rw [isOpen_iff_inPart, inPart_after_visits (fun _ _ h => h.toSameTerms) h,
    isActive_after_visits h]
  simp only [hpart, hactive, true_and, ← forall_and, and_comm]

end Sequences

/-- **SWAPS OF A PARTIAL PAYMENT**: in any sequence of events about an invoice
that is new and paid in part, each event asks the daemon once at most.  It
makes a swap whose address is shown exactly if it tells of the partial payment,
gets an address, and finds the invoice open; that an event before it made a
swap already does not matter.  The invoice is found open unless its prompt is
off or an event before marked it.  Where nothing else changes the prompt, it is
found open unless an event before gave it up, and the prompt shows the address
of the last swap. -/
theorem swaps_of_visits {vs : List Visit} (h : Visits SameTerms id i vs l)
    (hnew : i.status = .new) (hpartial : i.exception = .paidPartial) (hdue : 0 < i.due) :
    (∀ before v after, vs = before ++ v :: after →
      ∃ j k, v.world.platform.invoices.get? id = some j
        ∧ v.after.platform.invoices.get? id = some k ∧ v.Treats j k
        ∧ (isOpen j = true ↔
          j.isActive boltzMethod = true ∧ ∀ u ∈ before, ¬ u.MarkedInvalid))
    ∧ (Visits Untouched id i vs l → i.isActive boltzMethod = true →
      (∀ before v after j, vs = before ++ v :: after →
        v.world.platform.invoices.get? id = some j →
        (isOpen j = true ↔ ∀ u ∈ before, ¬ u.SwitchedOff ∧ ¬ u.MarkedInvalid))
      ∧ l.destination? boltzMethod
        = (vs.filterMap Visit.shows).getLast?.or (i.destination? boltzMethod)) := by
  -- nothing but `MarkedInvalid` ends `InPart`, so the visits in front are all that counts
  have hpart : InPart i := ⟨hnew, hpartial, hdue⟩
  constructor
  · rintro before v after rfl
    obtain ⟨m, j, k, hbefore, hterms, hj, hk, htreats⟩ := h.split
    refine ⟨j, k, hj, hk, htreats, ?_⟩
    rw [isOpen_iff_inPart, hterms.inPart_iff, inPart_after_visits (fun _ _ h => h) hbefore]
    simp only [hpart, true_and, and_comm]
  · intro huntouched hactive
    refine ⟨?_, destination_after_visits huntouched⟩
    rintro before v after j rfl hj
    obtain ⟨m, j', _, hbefore, hleft, hj', _⟩ := huntouched.split
    obtain rfl := Option.some.inj (hj.symm.trans hj')
    rw [← isOpen_after_visits hbefore ((isOpen_iff_inPart i).2 ⟨hpart, hactive⟩),
      isOpen_iff_inPart, isOpen_iff_inPart, hleft.isActive_eq, hleft.inPart_iff]

/-! ## §5. One partial payment that is told twice. -/

/-- The payment comes in. -/
def firstTold : Visit := ⟨.paymentReceived "inv" boltzMethod, Sample.shop partlyPaid⟩

/-- And with it the invoice changes. -/
def thenTold : Visit := ⟨.dataChanged "inv" .new .paidPartial, firstTold.after⟩

/-- Both visits of the example, computed: each gets a swap of its own, and shows its
address. -/
theorem toldTwice_computes :
    firstTold.after.platform.invoices.get? "inv"
        = some (partlyPaid.activate boltzMethod "lockup-1")
      ∧ thenTold.after.platform.invoices.get? "inv"
        = some (partlyPaid.activate boltzMethod "lockup-2")
      ∧ [firstTold, thenTold].filterMap Visit.shows = ["lockup-1", "lockup-2"] := by
  decide +kernel

/-- The two visits follow each other, with nothing that matters in between. -/
theorem visits_toldTwice {Between : Invoice → Invoice → Prop} (hrefl : ∀ i, Between i i) :
    Visits Between "inv" partlyPaid [firstTold, thenTold]
      (partlyPaid.activate boltzMethod "lockup-2") := by
  obtain ⟨hfirst, hthen, _⟩ := toldTwice_computes
  refine .cons (hrefl _) rfl rfl ?_ hfirst (.cons (hrefl _) rfl rfl ?_ hthen (.nil _))
  · unfold firstTold
    rfl
  · dsimp only [thenTold]
    exact hfirst

/-- One swap at most is made, and its address stays. -/
def OneSwap (vs : List Visit) (l : Invoice) : Prop :=
  (vs.filterMap Visit.shows).length ≤ 1
    ∧ ∀ d ∈ vs.filterMap Visit.shows, l.destination? boltzMethod = some d

/-- **A partial payment that is told twice is swapped twice**: the address that
the customer was shown first is given up for another one. -/
theorem not_oneSwap_toldTwice :
    ∃ l, Visits Untouched "inv" partlyPaid [firstTold, thenTold] l
      ∧ partlyPaid.status = .new ∧ partlyPaid.exception = .paidPartial ∧ 0 < partlyPaid.due
      ∧ partlyPaid.isActive boltzMethod = true
      ∧ [firstTold, thenTold].filterMap Visit.shows = ["lockup-1", "lockup-2"]
      ∧ ¬ OneSwap [firstTold, thenTold] l := by
  obtain ⟨_, _, hshows⟩ := toldTwice_computes
  refine ⟨_, visits_toldTwice fun i => ⟨.refl i, rfl⟩, rfl, rfl, by decide, rfl, hshows, ?_⟩
  rintro ⟨hone, _⟩
  rw [hshows] at hone
  exact absurd hone (by decide)

theorem swaps_toldTwice :
    Visits SameTerms "inv" partlyPaid [firstTold, thenTold]
        (partlyPaid.activate boltzMethod "lockup-2")
      ∧ (∃ j k, thenTold.Treats j k
        ∧ (isOpen j = true ↔ j.isActive boltzMethod = true ∧ ¬ firstTold.MarkedInvalid))
      ∧ (partlyPaid.activate boltzMethod "lockup-2").destination? boltzMethod
        = some "lockup-2" := by
  have hvisits := visits_toldTwice SameTerms.refl
  obtain ⟨hall, huntouched⟩ := swaps_of_visits hvisits rfl rfl (by decide)
  obtain ⟨j, k, _, _, htreats, hopen⟩ := hall [firstTold] thenTold [] rfl
  refine ⟨hvisits, ⟨j, k, htreats, by simpa using hopen⟩, ?_⟩
  rw [(huntouched (visits_toldTwice fun i => ⟨.refl i, rfl⟩) rfl).2, toldTwice_computes.2.2]
  rfl

end SwapBridge.PartialPayment
