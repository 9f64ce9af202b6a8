/-
  SwapBridge.Proofs.Feed.Parts
  ────────────────────────────
  **WHO WORKS ON WHAT.**

  Settlement works on the payments, the invoices and the notifications.  The
  rotation works on the channels, the daemon and the addresses that the wallets
  hand out, and the feed asks the daemon for its stream.  Each sees and changes
  its own part of the world alone.

    • `World.withBooks` — the books of one world in the surroundings of another,
    • `Reconciler.handle_withBooks` — settlement sees the books alone,
    • `Daemon.SameOffStream`, `Rotation.SameGrounds` — what the rotation can see,
    • `Rotation.handle_congr`, `Rotation.sameBooks_handle` — that it sees no more
      of the world, and leaves the books alone,
    • `Feed.sameOffStream_openStream` — a subscription is seen by neither.
-/
import SwapBridge.Proofs.Feed
import SwapBridge.Proofs.Reconciler.Step
import SwapBridge.Proofs.Rotation

namespace SwapBridge

/-- The world with other refusals of the platform. -/
def World.refusing (w : World) (refusals : List (Platform.Method × String)) : World :=
  { w with platform := { w.platform with refusals } }

/-- Two computations come to one result, in states that are related. -/
def Alike {α σ : Type} (R : σ → σ → Prop) (x x' : α × σ) : Prop :=
  ∃ a s s', x = (a, s) ∧ x' = (a, s') ∧ R s s'

namespace Alike

variable {α σ : Type} {R : σ → σ → Prop} {x x' : α × σ}

/-- Equal answers over related states are alike. -/
theorem mk {a : α} {s s' : σ} (h : R s s') : Alike R (a, s) (a, s') := ⟨a, s, s', rfl, rfl, h⟩

/-- The states behind computations that are `Alike` are related. -/
theorem snd (h : Alike R x x') : R x.2 x'.2 := by
  obtain ⟨a, s, s', rfl, rfl, hs⟩ := h
  exact hs

end Alike

/-! ## §1. The books. -/

/-- The books of two worlds are the same: payments, invoices and notifications. -/
structure SameBooks (w w' : World) : Prop where
  ledger : w'.store.ledger = w.store.ledger
  invoices : w'.platform.invoices = w.platform.invoices
  notifications : w'.platform.notifications = w.platform.notifications

theorem SameBooks.refl (w : World) : SameBooks w w := ⟨rfl, rfl, rfl⟩

theorem SameBooks.trans {w w' w'' : World} (h : SameBooks w w') (h' : SameBooks w' w'') :
    SameBooks w w'' :=
  ⟨h'.ledger.trans h.ledger, h'.invoices.trans h.invoices,
    h'.notifications.trans h.notifications⟩

/-- A world with the books of another one, and the platform that goes with them. -/
def World.withBooks (v w : World) : World :=
  { v with
    store := { v.store with ledger := w.store.ledger }
    platform := { v.platform with
      invoices := w.platform.invoices
      refusals := w.platform.refusals
      notifications := w.platform.notifications } }

/-- A world with the same books is the other one with its own books put in, if both refuse
the same: nothing else of a platform belongs to `World.withBooks`. -/
theorem SameBooks.withBooks_eq {w w' : World} (h : SameBooks w w')
    (hrefusals : w'.platform.refusals = w.platform.refusals) : w'.withBooks w = w' := by
  unfold World.withBooks
  rw [← h.ledger, ← h.invoices, ← h.notifications, ← hrefusals]

namespace Reconciler

variable {currency : Currency} {e : Swap.Event}

/-- `announce` sees the books alone: in other surroundings it answers the same, and the
surroundings stay. -/
theorem announce_withBooks (n : Platform.Notification) (o : Outcome) (v w : World) :
    announce n o (v.withBooks w) = ((announce n o w).1, v.withBooks (announce n o w).2) := by
  have hpermit : (v.withBooks w).platform.permit .notify = w.platform.permit .notify := rfl
  unfold announce Platform.notify
  rw [hpermit]
  cases w.platform.permit .notify <;> rfl

/-- The same of `revise`: it reads the ledger and what the platform refuses. -/
theorem revise_withBooks (i : String) (p : Payment) (v w : World) :
    revise i p (v.withBooks w) = ((revise i p w).1, v.withBooks (revise i p w).2) := by
  have hread : (v.withBooks w).store.payment i p.id = w.store.payment i p.id := rfl
  unfold revise
  rw [hread]
  cases w.store.payment i p.id with
  | error fault => rfl
  | ok found =>
    cases found with
    | none => rfl
    | some q =>
      have hledger : (v.withBooks w).store.ledger = w.store.ledger := rfl
      -- what is announced is announced after the write, so in the new books
      dsimp only
      unfold Store.updatePayment
      rw [hledger]
      rcases w.store.ledger.update i (merge q p) with ⟨_ | _, ledger⟩
      · rfl
      · exact announce_withBooks _ _ v { w with store := { w.store with ledger } }

/-- The same of `record`, by the two before: its branches depend on the ledger only. -/
theorem record_withBooks (i : String) (p : Payment) (v w : World) :
    record i p (v.withBooks w) = ((record i p w).1, v.withBooks (record i p w).2) := by
  have hledger : (v.withBooks w).store.ledger = w.store.ledger := rfl
  unfold record Store.insertPayment
  rw [hledger]
  rcases w.store.ledger.insert i p with ⟨_ | _, ledger⟩
  · exact revise_withBooks i p v w
  · exact announce_withBooks _ _ v { w with store := { w.store with ledger } }

/-- **Settlement sees the books alone.**  In other surroundings it comes to the
same result with the same books, and it leaves the surroundings as they are. -/
theorem handle_withBooks (currency : Currency) (e : Swap.Event) (v w : World) :
    handle currency e (v.withBooks w)
      = ((handle currency e w).1, v.withBooks (handle currency e w).2) := by
  -- an event finds its invoice in the books, by its payment or by its address
  have hinvoice : ∀ t address, invoiceOf t address (v.withBooks w) = invoiceOf t address w :=
    fun _ _ => rfl
  unfold handle
  simp only [hinvoice]
  split
  · split
    · rfl
    · rfl
    · split
      · rfl
      · exact record_withBooks _ _ v w
  · rfl

/-- **Over the same books settlement comes to the same result**, and to the
same books again. -/
theorem handle_congr {w w' : World} (h : SameBooks w w')
    (hrefusals : w'.platform.refusals = w.platform.refusals) :
    Alike SameBooks (handle currency e w) (handle currency e w') := by
  -- the second world has the books of the first one in its own surroundings
  have heq := handle_withBooks currency e w' w
  rw [h.withBooks_eq hrefusals] at heq
  rw [heq]
  exact .mk ⟨rfl, rfl, rfl⟩

end Reconciler

/-! ## §2. The daemon, apart from the stream. -/

namespace Daemon

/-- The calls that are not for the stream of updates. -/
def callsOffStream (d : Daemon) : List Call :=
  d.calls.filter fun call => call.request.method ≠ .getSwapInfoStream

/-- Two daemons differ at most in what concerns the stream. -/
structure SameOffStream (d d' : Daemon) : Prop where
  address : d'.address = d.address
  autoswap : d'.autoswap = d.autoswap
  schedule : ∀ m, m ≠ .getSwapInfoStream → d'.schedule m = d.schedule m
  calls : d'.callsOffStream = d.callsOffStream

variable {d d' d'' : Daemon} {c : Rpc.Connection} {r : Request}

theorem SameOffStream.refl (d : Daemon) : SameOffStream d d := ⟨rfl, rfl, fun _ _ => rfl, rfl⟩

theorem SameOffStream.trans (h : SameOffStream d d') (h' : SameOffStream d' d'') :
    SameOffStream d d'' :=
  ⟨h'.address.trans h.address, h'.autoswap.trans h.autoswap,
    fun m hm => (h'.schedule m hm).trans (h.schedule m hm), h'.calls.trans h.calls⟩

/-- A call shows off the stream unless it asks for the stream. -/
theorem callsOffStream_logged (c : Rpc.Connection) (r : Request) (d : Daemon) :
    (d.logged c r).callsOffStream = if r.method = .getSwapInfoStream then d.callsOffStream
      else d.callsOffStream ++ [entry c r] := by
  unfold callsOffStream logged
  rw [List.filter_append]
  by_cases hr : r.method = .getSwapInfoStream
  · rw [if_pos hr]
    simp [entry, hr]
  · rw [if_neg hr]
    simp [entry, hr]

/-- A call for the stream is all that is seen of it. -/
theorem sameOffStream_logged (hr : r.method = .getSwapInfoStream) (c : Rpc.Connection)
    (d : Daemon) : SameOffStream d (d.logged c r) where
  address := rfl
  autoswap := rfl
  schedule m hm := schedule_logged_of_ne (hr ▸ hm) c d
  calls := by rw [callsOffStream_logged, if_pos hr]

/-- Daemons that are the same off the stream stay so when both log a call. -/
theorem SameOffStream.logged (h : SameOffStream d d') (c : Rpc.Connection) (r : Request) :
    SameOffStream (d.logged c r) (d'.logged c r) where
  address := h.address
  autoswap := h.autoswap
  schedule m hm := by
    by_cases hmr : m = r.method
    · subst hmr
      rw [schedule_logged, schedule_logged, h.schedule _ hm]
    · rw [schedule_logged_of_ne hmr, schedule_logged_of_ne hmr, h.schedule m hm]
  calls := by rw [callsOffStream_logged, callsOffStream_logged, h.calls]

/-- **Calls for anything but the stream are served alike.** -/
theorem SameOffStream.serve {α : Type} {f : Daemon → Except Rpc.Status α × Daemon}
    (h : SameOffStream d d') (hr : r.method ≠ .getSwapInfoStream)
    (hf : ∀ d d', SameOffStream d d' → Alike SameOffStream (f d) (f d')) :
    Alike SameOffStream (Daemon.serve c r f d) (Daemon.serve c r f d') := by
  -- whether a call arrives is a matter of addresses and headers
  have hthere : d'.answersAt c.address = d.answersAt c.address := by
    unfold answersAt
    rw [h.address]
  by_cases hreceives : d.Receives c
  · have hreceives' : d'.Receives c := ⟨hthere.trans hreceives.1, hreceives.2⟩
    rw [serve_of_receives hreceives, serve_of_receives hreceives', h.schedule _ hr]
    cases (d.schedule r.method).head?.join with
    | some s => exact .mk (h.logged c r)
    | none =>
      obtain ⟨answer, served, served', heq, heq', hafter⟩ := hf _ _ (h.logged c r)
      rw [heq, heq']
      exact .mk hafter
  · have hreceives' : ¬ d'.Receives c := fun hr => hreceives ⟨hthere.symm.trans hr.1, hr.2⟩
    have haway : d'.turnedAway c = d.turnedAway c := by
      unfold turnedAway
      rw [hthere]
    rw [serve_of_not_receives hreceives, serve_of_not_receives hreceives', haway]
    exact .mk h

/-- `getConfig` cannot tell daemons apart that are the same off the stream. -/
theorem SameOffStream.getConfig (h : SameOffStream d d') (c : Rpc.Connection) :
    Alike SameOffStream (d.getConfig c) (d'.getConfig c) := by
  unfold Daemon.getConfig
  refine h.serve (r := .getConfig) (by simp [Request.method]) fun d d' h => ?_
  dsimp only
  rw [h.autoswap]
  exact .mk h

/-- Nor can an update of the chain section, which puts the same section into both. -/
theorem SameOffStream.updateChainConfig (h : SameOffStream d d') (c : Rpc.Connection)
    (config : ChainConfig) (paths : List String) :
    Alike SameOffStream (d.updateChainConfig c config paths)
      (d'.updateChainConfig c config paths) := by
  unfold Daemon.updateChainConfig
  refine h.serve (r := .updateChainConfig config paths) (by simp [Request.method])
    fun d d' h => ?_
  dsimp only
  rw [h.autoswap]
  exact .mk ⟨h.address, rfl, h.schedule, h.calls⟩

/-- Nor can an update of the lightning section. -/
theorem SameOffStream.updateLightningConfig (h : SameOffStream d d') (c : Rpc.Connection)
    (config : LightningConfig) (paths : List String) :
    Alike SameOffStream (d.updateLightningConfig c config paths)
      (d'.updateLightningConfig c config paths) := by
  unfold Daemon.updateLightningConfig
  refine h.serve (r := .updateLightningConfig config paths) (by simp [Request.method])
    fun d d' h => ?_
  dsimp only
  rw [h.autoswap]
  exact .mk ⟨h.address, rfl, h.schedule, h.calls⟩

end Daemon

/-! ## §3. The grounds of the rotation. -/

namespace Rotation

/-- Two worlds are the same to the rotation: settings, channels, the daemon
apart from its stream, and the addresses that the wallets hand out. -/
structure SameGrounds (w w' : World) : Prop where
  settings : w'.store.settings = w.store.settings
  pool : w'.pool = w.pool
  daemon : Daemon.SameOffStream w.daemon w'.daemon
  prepared : w'.platform.prepared = w.platform.prepared
  addresses : w'.platform.addresses = w.platform.addresses

variable {w w' w'' : World}

theorem SameGrounds.refl (w : World) : SameGrounds w w := ⟨rfl, rfl, .refl _, rfl, rfl⟩

theorem SameGrounds.trans (h : SameGrounds w w') (h' : SameGrounds w' w'') : SameGrounds w w'' :=
  ⟨h'.settings.trans h.settings, h'.pool.trans h.pool, h.daemon.trans h'.daemon,
    h'.prepared.trans h.prepared, h'.addresses.trans h.addresses⟩

/-- Rotation sees which methods of the platform work, and its own grounds. -/
structure Seen (w w' : World) : Prop extends SameGrounds w w' where
  refusals : w'.platform.refusals = w.platform.refusals

/-- `Target.replace` is one of the two updates, so that it comes out alike. -/
theorem replace_congr {d d' : Daemon} (h : Daemon.SameOffStream d d') (t : Target)
    (c : Rpc.Connection) (address : String) :
    Alike Daemon.SameOffStream (t.replace c address d) (t.replace c address d') := by
  cases t with
  | chainToAddress =>
    obtain ⟨answer, after, after', heq, heq', hafter⟩ :=
      h.updateChainConfig c { toAddress := address } [Daemon.toAddressPath]
    unfold Target.replace
    rw [heq, heq']
    cases answer <;> exact .mk hafter
  | lightningStaticAddress =>
    obtain ⟨answer, after, after', heq, heq', hafter⟩ :=
      h.updateLightningConfig c { staticAddress := address } [Daemon.staticAddressPath]
    unfold Target.replace
    rw [heq, heq']
    cases answer <;> exact .mk hafter

/-- Wallets that have the same addresses to give give the same ones. -/
theorem freshAddress_congr (h : Seen w w') (store : String) (kind : Swap.Kind) :
    (∃ fault, w.platform.freshAddress store kind = .error fault
      ∧ w'.platform.freshAddress store kind = .error fault)
    ∨ ∃ new p p', w.platform.freshAddress store kind = .ok (new, p)
      ∧ w'.platform.freshAddress store kind = .ok (new, p')
      ∧ Seen { w with platform := p } { w' with platform := p' } := by
  -- both platforms refuse the same, and they have the same addresses prepared
  have hpermit : w'.platform.permit .freshAddress = w.platform.permit .freshAddress := by
    unfold Platform.permit
    rw [h.refusals]
  unfold Platform.freshAddress
  rw [hpermit, h.prepared, h.addresses]
  cases w.platform.permit .freshAddress with
  | error fault => exact .inl ⟨fault, rfl, rfl⟩
  | ok u =>
    right
    cases w.platform.prepared with
    | nil =>
      exact ⟨_, _, _, rfl, rfl, ⟨h.settings, h.pool, h.daemon, rfl, rfl⟩, h.refusals⟩
    | cons address rest =>
      exact ⟨_, _, _, rfl, rfl, ⟨h.settings, h.pool, h.daemon, rfl, rfl⟩, h.refusals⟩

/-- `renew` in worlds that are seen alike: the same address is drawn, and the update is
alike. -/
theorem renew_congr (h : Seen w w') (t : Target) (old store : String) (kind : Swap.Kind)
    (c : Rpc.Connection) :
    Alike Seen (renew t old store kind c w) (renew t old store kind c w') := by
  unfold renew
  rcases freshAddress_congr h store kind with ⟨fault, hw, hw'⟩ | ⟨new, p, p', hw, hw', hdrawn⟩
  · rw [hw, hw']
    exact .mk h
  · obtain ⟨answer, daemon, daemon', heq, heq', hdaemon⟩ := replace_congr h.daemon t c new
    rw [hw, hw']
    dsimp only
    rw [heq, heq']
    -- the address stays drawn whatever becomes of the update
    have hafter : Seen { w with platform := p, daemon }
        { w' with platform := p', daemon := daemon' } :=
      ⟨⟨hdrawn.settings, hdrawn.pool, hdaemon, hdrawn.prepared, hdrawn.addresses⟩,
        hdrawn.refusals⟩
    cases answer <;> exact .mk hafter

/-- `compare` reads the configuration off the stream, and goes on with `renew` or not in
both. -/
theorem compare_congr (h : Seen w w') (t : Target) (old store : String) (kind : Swap.Kind)
    (c : Rpc.Connection) :
    Alike Seen (compare t old store kind c w) (compare t old store kind c w') := by
  obtain ⟨answer, daemon, daemon', heq, heq', hdaemon⟩ := h.daemon.getConfig c
  have hafter : Seen { w with daemon } { w' with daemon := daemon' } :=
    ⟨⟨h.settings, h.pool, hdaemon, h.prepared, h.addresses⟩, h.refusals⟩
  unfold compare
  rw [heq, heq']
  cases answer with
  | error s =>
    dsimp only
    split <;> exact .mk hafter
  | ok config =>
    dsimp only
    split
    · exact .mk hafter
    · split
      · exact renew_congr hafter t old store kind c
      · exact .mk hafter

/-- **On the same grounds the rotation comes to the same result**, and to the
same grounds again. -/
theorem handle_congr (h : Seen w w') (e : Swap.Event) :
    Alike Seen (handle e w) (handle e w') := by
  unfold handle
  cases used e with
  | none => exact .mk h
  | some found =>
    obtain ⟨t, old⟩ := found
    have hstore : w'.store.ofTenant e.tenantId = w.store.ofTenant e.tenantId := by
      unfold Store.ofTenant Store.allSettings
      rw [h.settings]
    dsimp only
    rw [hstore, h.pool]
    -- up to the connection nothing but the settings and the pool is looked at
    rcases w.store.ofTenant e.tenantId with fault | _ | ⟨store, settings⟩
    · exact .mk h
    · exact .mk h
    · dsimp only
      obtain ⟨connection, pool⟩ := Broker.connect settings w.pool
      have hafter : Seen { w with pool } { w' with pool } :=
        ⟨⟨h.settings, rfl, h.daemon, h.prepared, h.addresses⟩, h.refusals⟩
      cases connection with
      | error err => exact .mk hafter
      | ok c => exact compare_congr hafter t old store e.kind c

/-- Drawing an address is all that a wallet does. -/
theorem freshAddress_frame {p p' : Platform} {store new : String} {kind : Swap.Kind}
    (h : p.freshAddress store kind = .ok (new, p')) :
    p' = { p with prepared := p'.prepared, addresses := p'.addresses } := by
  unfold Platform.freshAddress at h
  cases hpermit : p.permit .freshAddress with
  | error fault =>
    rw [hpermit] at h
    cases h
  | ok u =>
    rw [hpermit] at h
    -- a prepared address is used up, or the next one is derived; nothing else changes
    cases hprepared : p.prepared with
    | nil =>
      simp only [hprepared, Except.map, Except.ok.injEq, Prod.mk.injEq] at h
      exact h.2 ▸ hprepared ▸ rfl
    | cons address rest =>
      simp only [hprepared, Except.map, Except.ok.injEq, Prod.mk.injEq] at h
      exact h.2 ▸ rfl

/-- **The rotation leaves the books alone**, and what the platform refuses. -/
theorem sameBooks_handle (e : Swap.Event) (w : World) :
    SameBooks w (handle e w).2 ∧ (handle e w).2.platform.refusals = w.platform.refusals := by
  have hcourse := course_handle e w
  cases heq : handle e w with
  | mk r w' =>
    rw [heq] at hcourse
    -- the platform is touched in the two courses that draw an address
    cases hcourse with
    | unasked => exact ⟨⟨rfl, rfl, rfl⟩, rfl⟩
    | unmatched => exact ⟨⟨rfl, rfl, rfl⟩, rfl⟩
    | undrawn => exact ⟨⟨rfl, rfl, rfl⟩, rfl⟩
    | unreplaced _ _ _ _ hdrawn =>
      have hframe := freshAddress_frame hdrawn
      exact ⟨⟨rfl, congrArg (·.invoices) hframe, congrArg (·.notifications) hframe⟩,
        congrArg (·.refusals) hframe⟩
    | rotated _ _ _ hdrawn =>
      have hframe := freshAddress_frame hdrawn
      exact ⟨⟨rfl, congrArg (·.invoices) hframe, congrArg (·.notifications) hframe⟩,
        congrArg (·.refusals) hframe⟩

end Rotation

/-- **Settlement leaves the grounds of the rotation alone**, and what the
platform refuses. -/
theorem Reconciler.seen_handle (currency : Currency) (e : Swap.Event) (w : World) :
    Rotation.Seen w (Reconciler.handle currency e w).2 := by
  obtain ⟨ledger, notifications, h⟩ := Reconciler.frames_handle currency e w
  rw [h]
  exact ⟨⟨rfl, rfl, .refl _, rfl, rfl⟩, rfl⟩

/-! ## §4. The subscription. -/

namespace Feed

/-- A subscription is seen by the daemon alone, and as calls for the stream. -/
theorem sameOffStream_openStream (c : Rpc.Connection) (n : Nat) (d : Daemon) :
    Daemon.SameOffStream d (openStream c n d) := by
  have hasked : ∀ d : Daemon, Daemon.SameOffStream d (d.getSwapInfoStream c).2 := by
    intro d
    unfold Daemon.getSwapInfoStream
    rcases Daemon.serve_cases c (.getSwapInfoStream "")
      (fun d => (.ok (), { d with subscribers := d.subscribers + 1 })) d with ⟨s, h⟩ | ⟨s, h⟩ | h
    · rw [h]
      exact .refl d
    · rw [h]
      exact Daemon.sameOffStream_logged rfl c d
    · -- the daemon also counts its subscribers, which nobody looks at
      rw [h]
      obtain ⟨haddress, hautoswap, hschedule, hcalls⟩ :=
        Daemon.sameOffStream_logged (r := .getSwapInfoStream "") rfl c d
      exact ⟨haddress, hautoswap, hschedule, hcalls⟩
  induction n generalizing d with
  | zero => exact .refl d
  | succ n ih =>
    have hfirst := hasked d
    unfold openStream
    cases hcall : d.getSwapInfoStream c with
    | mk answer after =>
      rw [hcall] at hfirst
      cases answer with
      | ok u => exact hfirst
      | error s => exact hfirst.trans (ih after)

/-- Neither settlement nor the rotation finds its part of the world changed. -/
structure Unnoticed (w w' : World) : Prop where
  books : SameBooks w w'
  grounds : Rotation.SameGrounds w w'

theorem Unnoticed.refl (w : World) : Unnoticed w w := ⟨.refl w, .refl w⟩

theorem Unnoticed.trans {w w' w'' : World} (h : Unnoticed w w') (h' : Unnoticed w' w'') :
    Unnoticed w w'' :=
  ⟨h.books.trans h'.books, h.grounds.trans h'.grounds⟩

/-- A change of the daemon that shows on its stream only is noticed by no listener. -/
theorem unnoticed_of_daemon (w : World) {daemon : Daemon}
    (h : Daemon.SameOffStream w.daemon daemon) : Unnoticed w { w with daemon } :=
  ⟨⟨rfl, rfl, rfl⟩, rfl, rfl, h, rfl, rfl⟩

/-- What the platform refuses is no part of what listeners work on. -/
theorem unnoticed_refusing (w : World) (refusals : List (Platform.Method × String)) :
    Unnoticed w (w.refusing refusals) :=
  ⟨⟨rfl, rfl, rfl⟩, rfl, rfl, .refl _, rfl, rfl⟩

/-- Nor is the state of the supervisor: only the stream is opened by it. -/
theorem unnoticed_health (w : World) (health : Supervisor.State) :
    Unnoticed w { w with health } :=
  ⟨⟨rfl, rfl, rfl⟩, rfl, rfl, .refl _, rfl, rfl⟩

/-- **A subscription is noticed by nobody.** -/
theorem unnoticed_subscribe (f : Feed) (w : World) : Unnoticed w (f.subscribe w).2 := by
  unfold subscribe
  split
  · split
    · exact unnoticed_of_daemon w (sameOffStream_openStream _ _ _)
    · split <;> exact .refl w
  · exact .refl w

/-- `startStream` opens the stream at most. -/
theorem unnoticed_startStream (f : Feed) (w : World) : Unnoticed w (f.startStream w).2 := by
  unfold startStream
  split
  · split
    · exact .refl w
    · exact unnoticed_subscribe _ w
  · exact .refl w

/-- `endStream` drops the subscription and may ask for it again. -/
theorem unnoticed_endStream (f : Feed) (w : World) : Unnoticed w (f.endStream w).2 := by
  have hended : Unnoticed w { w with daemon := { w.daemon with subscribers := 0 } } :=
    unnoticed_of_daemon w ⟨rfl, rfl, fun _ _ => rfl, rfl⟩
  unfold endStream
  dsimp only
  split
  · exact hended.trans (unnoticed_subscribe _ _)
  · exact hended

end Feed

end SwapBridge
