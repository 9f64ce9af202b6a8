/-
  SwapBridge.Proofs.Feed.Moves
  ────────────────────────────
  **ONE THING AFTER THE OTHER.**

  Messages of the daemon, ends of the stream and states of the daemon come at
  any moment, and the listeners take their turns in any order and at any pace.
  Methods of the platform may be refused during any turn.

    • `Owns`, `owns_books`, `owns_grounds` — which listener works on which part,
    • `Move`, `run` — what may happen to a feed,
    • `delivered`, `handled` — the events that came, and those that a listener took,
    • `Effect`, `effect_apply` — all that a move can do,
    • `mail_run` — a run that keeps up loses no mail, repeats none and moves none,
    • `owned_run` — what belongs to a listener is as its turns alone would leave it.
-/
import Mathlib.Data.List.Induction
import SwapBridge.Proofs.Feed.Parts

namespace SwapBridge

namespace Listener

/-- An event that a listener takes, and what the platform refuses meanwhile. -/
structure Turn where
  event : Swap.Event
  refusals : List (Platform.Method × String)

/-- A listener that took the first event out of its mailbox. -/
def taking (l : Listener) (e : Swap.Event) (rest : List Swap.Event) : Listener :=
  { l with mailbox := { items := rest }, heard := e.id :: l.heard }

/-- What a listener makes of the world in a turn. -/
def Turn.act (kind : Kind) (currency : Currency) (w : World) (t : Turn) : World :=
  kind.act currency t.event (w.refusing t.refusals)

/-- What a listener makes of the world on its own, one turn after the other. -/
def alone (kind : Kind) (currency : Currency) (ts : List Turn) (w : World) : World :=
  ts.foldl (Turn.act kind currency) w

theorem alone_concat (kind : Kind) (currency : Currency) (ts : List Turn) (t : Turn) (w : World) :
    alone kind currency (ts ++ [t]) w = Turn.act kind currency (alone kind currency ts w) t := by
  unfold alone
  rw [List.foldl_append]
  rfl

/-- A relation of worlds says that some part of theirs is the same, and only
listeners of one kind work on that part, whatever the rest of the world is. -/
structure Owns (currency : Currency) (kind : Kind) (R : World → World → Prop) : Prop where
  refl : ∀ w, R w w
  trans : ∀ {w w' w''}, R w w' → R w' w'' → R w w''
  unnoticed : ∀ {w w'}, Feed.Unnoticed w w' → R w w'
  other : ∀ {kind' : Kind}, kind' ≠ kind → ∀ w t, R w (Turn.act kind' currency w t)
  own : ∀ {w w'} (t : Turn), R w w' →
    R (Turn.act kind currency w t) (Turn.act kind currency w' t)

/-- **The books belong to settlement.** -/
theorem owns_books (currency : Currency) : Owns currency .settlement SameBooks where
  refl := .refl
  trans := .trans
  unnoticed h := h.books
  other {kind} hkind w t := by
    -- a listener of any other kind leaves the books, refusals or not
    have hidle : SameBooks w (w.refusing t.refusals) := ⟨rfl, rfl, rfl⟩
    cases kind with
    | settlement => exact absurd rfl hkind
    | rotation => exact hidle.trans (Rotation.sameBooks_handle t.event (w.refusing t.refusals)).1
    | recorder => exact hidle
    | failing => exact hidle
    | crashing => exact hidle
    | log => exact hidle
  own {w w'} t h := by
    have hbefore : SameBooks (w.refusing t.refusals) (w'.refusing t.refusals) :=
      ⟨h.ledger, h.invoices, h.notifications⟩
    exact (Reconciler.handle_congr hbefore rfl).snd

/-- **The grounds of the rotation belong to the rotation.** -/
theorem owns_grounds (currency : Currency) : Owns currency .rotation Rotation.SameGrounds where
  refl := .refl
  trans := .trans
  unnoticed h := h.grounds
  other {kind} hkind w t := by
    -- settlement changes the books only; the grounds of rotation are not among them
    have hidle : Rotation.SameGrounds w (w.refusing t.refusals) := ⟨rfl, rfl, .refl _, rfl, rfl⟩
    cases kind with
    | settlement =>
      exact hidle.trans
        (Reconciler.seen_handle currency t.event (w.refusing t.refusals)).toSameGrounds
    | rotation => exact absurd rfl hkind
    | recorder => exact hidle
    | failing => exact hidle
    | crashing => exact hidle
    | log => exact hidle
  own {w w'} t h := by
    have hbefore : Rotation.Seen (w.refusing t.refusals) (w'.refusing t.refusals) :=
      ⟨⟨h.settings, h.pool, h.daemon, h.prepared, h.addresses⟩, rfl⟩
    exact (Rotation.handle_congr hbefore t.event).snd.toSameGrounds

end Listener

namespace Feed

open Listener

/-! ## §1. Moves. -/

/-- What may happen to a feed. -/
inductive Move where
  /-- The stream is asked for. -/
  | start
  | message (r : Swap.Report)
  /-- The daemon ends the stream, well or not. -/
  | streamEnd
  /-- The daemon is in another state. -/
  | health (state : Supervisor.State)
  /-- No further state of the daemon will be published. -/
  | closed
  /-- The listener at a position takes its next event, and the platform refuses
  some methods meanwhile. -/
  | turn (k : Nat) (refusals : List (Platform.Method × String))

namespace Move

/-- The event that a message brings, if the stream is open. -/
def brings (m : Move) (f : Feed) : Option Swap.Event :=
  match m with
  | .message r => if f.stream = .streaming then Swap.Event.ofReport? r else none
  | _ => none

/-- What the listener at a position takes from its mailbox. -/
def takes (k : Nat) (m : Move) (f : Feed) : Option Turn :=
  match m with
  | .turn j refusals =>
    if j = k then
      (f.listeners[k]?.bind fun l => l.mailbox.items.head?).map fun e => ⟨e, refusals⟩
    else none
  | _ => none

/-- The turn of the listener at a position. -/
def work (currency : Currency) (k : Nat) (f : Feed) (w : World) : Feed × World :=
  match f.listeners[k]? with
  | none => (f, w)
  | some l =>
    let (l, w) := l.takeTurn currency w
    ({ f with listeners := f.listeners.set k l }, w)

def apply (currency : Currency) (m : Move) (f : Feed) (w : World) : Feed × World :=
  match m with
  | .start => f.startStream w
  | .message r =>
    match brings (.message r) f with
    | some e => (f.publish [e], w)
    | none => (f, w)
  | .streamEnd => f.endStream w
  | .health state => f.subscribe { w with health := state }
  | .closed => { f with published := false }.subscribe w
  | .turn k refusals => work currency k f (w.refusing refusals)

end Move

/-- Moves one after the other. -/
def run (currency : Currency) (ms : List Move) (s : Feed × World) : Feed × World :=
  ms.foldl (fun s m => m.apply currency s.1 s.2) s

/-- What the moves of a run yield, each at the feed that it meets. -/
def gather {α : Type} (currency : Currency) (g : Move → Feed → Option α) :
    List Move → Feed × World → List α
  | [], _ => []
  | m :: ms, s => (g m s.1).toList ++ gather currency g ms (m.apply currency s.1 s.2)

/-- The events that were delivered, in their order. -/
def delivered (currency : Currency) : List Move → Feed × World → List Swap.Event :=
  gather currency Move.brings

/-- The turns of the listener at a position, in their order. -/
def handled (currency : Currency) (k : Nat) : List Move → Feed × World → List Turn :=
  gather currency (Move.takes k)

/-- At no moment has a listener more events to handle than a mailbox has room for. -/
def KeepsUp (currency : Currency) (ms : List Move) (s : Feed × World) : Prop :=
  ∀ before after, ms = before ++ after → ∀ k < s.1.listeners.length,
    (delivered currency before s).length
      ≤ (handled currency k before s).length + Mailbox.capacity

/-- The kind of the listener at a position. -/
def kindAt (f : Feed) (k : Nat) : Option Kind := f.listeners[k]?.map (·.kind)

variable {currency : Currency} {m : Move} {ms : List Move} {f : Feed} {w : World}
  {s : Feed × World} {k j : Nat}

/-- A run goes on where an earlier one ended. -/
theorem run_append (currency : Currency) (ms ns : List Move) (s : Feed × World) :
    run currency (ms ++ ns) s = run currency ns (run currency ms s) :=
  List.foldl_append

/-- What is gathered along a run and one that goes on: the one behind the other. -/
theorem gather_append {α : Type} (g : Move → Feed → Option α) (ms ns : List Move)
    (s : Feed × World) : gather currency g (ms ++ ns) s
      = gather currency g ms s ++ gather currency g ns (run currency ms s) := by
  induction ms generalizing s with
  | nil => rfl
  | cons m ms ih =>
    show _ ++ gather currency g (ms ++ ns) _ = _ ++ gather currency g ms _ ++ _
    rw [ih, List.append_assoc]
    rfl

/-- The last move adds at most one. -/
theorem gather_concat {α : Type} (g : Move → Feed → Option α) (ms : List Move) (m : Move)
    (s : Feed × World) : gather currency g (ms ++ [m]) s
      = gather currency g ms s ++ (g m (run currency ms s).1).toList := by
  rw [gather_append]
  exact congrArg _ (List.append_nil _)

/-- A run that keeps up has kept up all the time. -/
theorem KeepsUp.of_append {ns : List Move} (h : KeepsUp currency (ms ++ ns) s) :
    KeepsUp currency ms s :=
  fun before after hsplit => h before (after ++ ns) (by rw [hsplit, List.append_assoc])

/-! ## §2. What a move does. -/

/-- A move leaves all mail where it is, or it delivers an event, or one listener
takes a turn. -/
inductive Effect (currency : Currency) (m : Move) (f : Feed) (w : World) :
    Feed × World → Prop where
  | still {f' : Feed} {w' : World} (hbrings : m.brings f = none)
      (htakes : ∀ k, m.takes k f = none) (hlisteners : f'.listeners = f.listeners)
      (hworld : Unnoticed w w') : Effect currency m f w (f', w')
  | delivery {e : Swap.Event} (hbrings : m.brings f = some e)
      (htakes : ∀ k, m.takes k f = none) : Effect currency m f w (f.publish [e], w)
  | turn {j : Nat} {l : Listener} {t : Turn} {rest : List Swap.Event}
      (hbrings : m.brings f = none)
      (htakes : ∀ k, m.takes k f = if j = k then some t else none)
      (hl : f.listeners[j]? = some l) (hitems : l.mailbox.items = t.event :: rest) :
      Effect currency m f w
        ({ f with listeners := f.listeners.set j (l.taking t.event rest) },
          t.act l.kind currency w)

/-- Only the listener whose turn it is takes anything. -/
theorem takes_turn (refusals : List (Platform.Method × String)) (f : Feed) (j k : Nat) :
    Move.takes k (.turn j refusals) f = if j = k then
      (f.listeners[j]?.bind fun l => l.mailbox.items.head?).map fun e => ⟨e, refusals⟩
    else none := by
  by_cases hk : j = k
  · subst hk
    rfl
  · exact (if_neg hk).trans (if_neg hk).symm

/-- **Every move has one of these effects.** -/
theorem effect_apply (currency : Currency) (m : Move) (f : Feed) (w : World) :
    Effect currency m f w (m.apply currency f w) := by
  cases m with
  | start =>
    obtain ⟨stream, hf⟩ := startStream_frame f w
    have hlisteners : (f.startStream w).1.listeners = f.listeners := by rw [hf]
    exact .still rfl (fun _ => rfl) hlisteners (unnoticed_startStream f w)
  | message r =>
    show Effect currency _ f w (match Move.brings (.message r) f with
      | some e => (f.publish [e], w)
      | none => (f, w))
    cases hbrings : Move.brings (.message r) f with
    | none => exact .still hbrings (fun _ => rfl) rfl (.refl w)
    | some e => exact .delivery hbrings fun _ => rfl
  | streamEnd =>
    obtain ⟨stream, hf⟩ := endStream_frame f w
    have hlisteners : (f.endStream w).1.listeners = f.listeners := by rw [hf]
    exact .still rfl (fun _ => rfl) hlisteners (unnoticed_endStream f w)
  | health state =>
    obtain ⟨stream, hf⟩ := subscribe_frame f { w with health := state }
    have hlisteners : (f.subscribe { w with health := state }).1.listeners = f.listeners := by
      rw [hf]
    exact .still rfl (fun _ => rfl) hlisteners
      ((unnoticed_health w state).trans (unnoticed_subscribe f _))
  | closed =>
    obtain ⟨stream, hf⟩ := subscribe_frame { f with published := false } w
    have hlisteners : ({ f with published := false }.subscribe w).1.listeners = f.listeners := by
      rw [hf]
    exact .still rfl (fun _ => rfl) hlisteners (unnoticed_subscribe _ w)
  | turn j refusals =>
    have hidle := unnoticed_refusing w refusals
    show Effect currency _ f w (Move.work currency j f (w.refusing refusals))
    unfold Move.work
    cases hl : f.listeners[j]? with
    | none => exact .still rfl (fun k => by simp [takes_turn, hl]) rfl hidle
    | some l =>
      dsimp only
      unfold takeTurn
      cases hitems : l.mailbox.items with
      | nil =>
        -- without mail a listener waits, and is put back as it was
        have hsame : f.listeners.set j l = f.listeners := by
          obtain ⟨hj, hget⟩ := List.getElem?_eq_some_iff.1 hl
          rw [← hget]
          exact List.set_getElem_self hj
        exact .still rfl (fun k => by simp [takes_turn, hl, hitems]) hsame hidle
      | cons e rest =>
        exact .turn (t := ⟨e, refusals⟩) rfl (fun k => by simp [takes_turn, hl, hitems]) hl hitems

/-! ## §3. What moves come to. -/

/-- Events change the mailboxes, and not who listens. -/
theorem kindAt_publish (es : List Swap.Event) (f : Feed) (k : Nat) :
    (f.publish es).kindAt k = f.kindAt k := by
  show ((f.listeners.map (·.deliver es))[k]?).map (·.kind) = f.listeners[k]?.map (·.kind)
  rw [List.getElem?_map]
  cases f.listeners[k]? with
  | none => rfl
  | some l => simp only [Option.map_some, deliver]

/-- The listeners stay at their positions. -/
theorem Effect.kindAt {s' : Feed × World} (h : Effect currency m f w s') (k : Nat) :
    s'.1.kindAt k = f.kindAt k := by
  -- mail and surroundings have no part in the kinds; a turn replaces a listener by one of its
  -- kind
  cases h with
  | still _ _ hlisteners _ =>
    unfold Feed.kindAt
    rw [hlisteners]
  | delivery => exact kindAt_publish _ f k
  | @turn k₀ l t rest _ _ hl _ =>
    show ((f.listeners.set k₀ (l.taking t.event rest))[k]?).map (·.kind)
      = (f.listeners[k]?).map (·.kind)
    rw [List.getElem?_set]
    by_cases hk : k₀ = k
    · subst hk
      rw [if_pos rfl, if_pos (List.getElem?_eq_some_iff.1 hl).1, hl]
      rfl
    · rw [if_neg hk]

/-- **A move loses no mail, repeats none and moves none**, as long as mailboxes
have room: what was delivered is what a listener has taken and what it has still
to handle. -/
theorem Effect.mail {s' : Feed × World} {es : List Swap.Event} {ts : Nat → List Turn}
    (h : Effect currency m f w s')
    (hmail : ∀ k l, f.listeners[k]? = some l → es = (ts k).map (·.event) ++ l.mailbox.items)
    (hroom : ∀ e, m.brings f = some e → ∀ (k : Nat) (l : Listener),
      f.listeners[k]? = some l → l.mailbox.items.length + 1 ≤ Mailbox.capacity)
    {l' : Listener} (hl' : s'.1.listeners[k]? = some l') :
    es ++ (m.brings f).toList
      = (ts k ++ (m.takes k f).toList).map (·.event) ++ l'.mailbox.items := by
  cases h with
  | still hbrings htakes hlisteners _ =>
    rw [hbrings, htakes, Option.toList_none, Option.toList_none, List.append_nil, List.append_nil]
    exact hmail k l' (hlisteners ▸ hl')
  | @delivery e hbrings htakes =>
    rw [hbrings, htakes, Option.toList_none, Option.toList_some, List.append_nil]
    have hmap : (f.listeners[k]?).map (·.deliver [e]) = some l' := by
      rw [← List.getElem?_map]
      exact hl'
    obtain ⟨l, hl, rfl⟩ := Option.map_eq_some_iff.1 hmap
    have hadd : (l.deliver [e]).mailbox.items = l.mailbox.items ++ [e] :=
      congrArg Mailbox.items (Mailbox.add_of_le (hroom e hbrings k l hl))
    rw [hadd, ← List.append_assoc, ← hmail k l hl]
  | @turn k₀ l t rest hbrings htakes hl hitems =>
    have hset : (f.listeners.set k₀ (l.taking t.event rest))[k]? = some l' := hl'
    rw [List.getElem?_set] at hset
    rw [hbrings, htakes, Option.toList_none, List.append_nil]
    by_cases hk : k₀ = k
    · -- what is taken is the first event that was still to be handled
      subst hk
      rw [if_pos rfl, if_pos (List.getElem?_eq_some_iff.1 hl).1] at hset
      obtain rfl := Option.some.inj hset
      rw [if_pos rfl, hmail k₀ l hl, hitems]
      simp [taking]
    · rw [if_neg hk] at hset ⊢
      simpa using hmail k l' hset

/-- **A move changes what belongs to a kind of listener as its turn alone would.** -/
theorem Effect.owned {s' : Feed × World} {kind : Kind} {R : World → World → Prop} {i : Nat}
    {v : World} {ts : List Turn} (h : Effect currency m f w s') (hR : Owns currency kind R)
    (hi : ∀ k, f.kindAt k = some kind ↔ k = i) (hv : R (alone kind currency ts v) w) :
    R (alone kind currency (ts ++ (m.takes i f).toList) v) s'.2 := by
  cases h with
  | still _ htakes _ hworld =>
    rw [htakes, Option.toList_none, List.append_nil]
    exact hR.trans hv (hR.unnoticed hworld)
  | delivery _ htakes =>
    rw [htakes, Option.toList_none, List.append_nil]
    exact hv
  | @turn k₀ l t rest _ htakes hl _ =>
    have hkind : f.kindAt k₀ = some l.kind := by
      unfold Feed.kindAt
      rw [hl]
      rfl
    rw [htakes]
    by_cases hk : k₀ = i
    · have hown : l.kind = kind := Option.some.inj (hkind.symm.trans ((hi k₀).2 hk))
      rw [if_pos hk, hown, Option.toList_some, alone_concat]
      exact hR.own t hv
    · -- the turn is one of a listener of another kind, which works elsewhere
      have hother : l.kind ≠ kind := fun heq => hk ((hi k₀).1 (heq ▸ hkind))
      rw [if_neg hk, Option.toList_none, List.append_nil]
      exact hR.trans hv (hR.other hother w t)

/-! ## §4. Runs. -/

theorem run_concat (currency : Currency) (ms : List Move) (m : Move) (s : Feed × World) :
    run currency (ms ++ [m]) s
      = m.apply currency (run currency ms s).1 (run currency ms s).2 :=
  run_append currency ms [m] s

/-- **Listeners keep their positions** along every run. -/
theorem kindAt_run (currency : Currency) (ms : List Move) (s : Feed × World) (k : Nat) :
    (run currency ms s).1.kindAt k = s.1.kindAt k := by
  induction ms using List.reverseRecOn with
  | nil => rfl
  | append_singleton ms m ih =>
    rw [run_concat, (effect_apply currency m _ _).kindAt, ih]

/-- So a listener that is there now was there before. -/
theorem lt_length_of_kindAt {f' : Feed} (h : ∀ k, f'.kindAt k = f.kindAt k) {l : Listener}
    (hl : f'.listeners[k]? = some l) : k < f.listeners.length := by
  have hkind := h k
  unfold kindAt at hkind
  rw [hl] at hkind
  obtain ⟨l₀, hl₀, _⟩ := Option.map_eq_some_iff.1 hkind.symm
  exact (List.getElem?_eq_some_iff.1 hl₀).1

/-- Where all mail is handled each mailbox is empty. -/
theorem IsSettled.items_eq (hf : f.IsSettled) {l : Listener} (hl : f.listeners[k]? = some l) :
    l.mailbox.items = [] := by
  cases hitems : l.mailbox.items with
  | nil => rfl
  | cons e rest =>
    exact absurd ⟨l, List.mem_of_getElem? hl, hitems ▸ List.mem_cons_self⟩ (hf e)

/-- **A run that keeps up loses no mail, repeats none and moves none.** -/
theorem mail_run (hf : f.IsSettled) (hroom : KeepsUp currency ms (f, w)) {l : Listener}
    (hl : (run currency ms (f, w)).1.listeners[k]? = some l) :
    delivered currency ms (f, w)
      = (handled currency k ms (f, w)).map (·.event) ++ l.mailbox.items := by
  -- what the last move delivers or takes depends on the feed that it meets, and
  -- the hypothesis is needed for all positions, since a delivery is for all
  induction ms using List.reverseRecOn generalizing k l with
  | nil =>
    rw [hf.items_eq hl]
    rfl
  | append_singleton ms m ih =>
    rw [run_concat] at hl
    have hdelivered : delivered currency (ms ++ [m]) (f, w)
        = delivered currency ms (f, w) ++ (m.brings (run currency ms (f, w)).1).toList :=
      gather_concat _ ms m (f, w)
    have hhandled : ∀ k, handled currency k (ms ++ [m]) (f, w)
        = handled currency k ms (f, w) ++ (m.takes k (run currency ms (f, w)).1).toList :=
      fun k => gather_concat _ ms m (f, w)
    have hmail := fun k l => ih (k := k) (l := l) hroom.of_append
    rw [hdelivered, hhandled]
    refine (effect_apply currency m _ _).mail hmail (fun e he k l hl => ?_) hl
    -- the mailbox has room, since the run keeps up also after this delivery
    have htakes : m.takes k (run currency ms (f, w)).1 = none := by
      cases m with
      | message r => rfl
      | _ => cases he
    have hnow := hroom (ms ++ [m]) [] (List.append_nil _).symm k
      (lt_length_of_kindAt (kindAt_run currency ms (f, w)) hl)
    rw [hdelivered, hhandled, he, htakes] at hnow
    have hlength := congrArg List.length (hmail k l hl)
    simp only [List.length_append, List.length_map, Option.toList_some, Option.toList_none,
      List.length_cons, List.length_nil] at hnow hlength
    omega

/-- **A run leaves what belongs to a listener as its turns alone would.** -/
theorem owned_run {kind : Kind} {R : World → World → Prop} {i : Nat}
    (hR : Owns currency kind R) (hi : ∀ k, f.kindAt k = some kind ↔ k = i) (ms : List Move) :
    R (alone kind currency (handled currency i ms (f, w)) w) (run currency ms (f, w)).2 := by
  induction ms using List.reverseRecOn with
  | nil => exact hR.refl w
  | append_singleton ms m ih =>
    have hhandled : handled currency i (ms ++ [m]) (f, w)
        = handled currency i ms (f, w) ++ (m.takes i (run currency ms (f, w)).1).toList :=
      gather_concat _ ms m (f, w)
    rw [run_concat, hhandled]
    refine (effect_apply currency m _ _).owned hR (fun k => ?_) ih
    rw [kindAt_run]
    exact hi k

end Feed

end SwapBridge
