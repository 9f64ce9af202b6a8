/-
  SwapBridge.Proofs.Feed
  ──────────────────────
  **ALL MAIL IS HANDLED.**

  Listeners take their mail in turns until the longest mailbox is empty.  So no
  listener has mail left from earlier operations, and what it handles next is
  what is published next.

    • `Listener.HasMail` — some listener has mail of an event,
    • `Listener.items_takeRounds` — a round takes one event out of every mailbox,
    • `Feed.subscribe_frame` — the stream is opened without them,
    • `Feed.IsSettled`, `Feed.isSettled_spread` — what is published is handled.
-/
import SwapBridge.Feed

namespace SwapBridge

/-- What is in a mailbox was there before or was added. -/
theorem Mailbox.mem_add {α : Type} {limit : Nat} {m : Mailbox α} {new : List α} {x : α}
    (h : x ∈ (m.add limit new).items) : x ∈ m.items ∨ x ∈ new :=
  List.mem_append.1 (List.mem_of_mem_drop h)

variable {currency : Currency} {e : Swap.Event} {w : World}

/-! ## §1. Listeners. -/

namespace Listener

variable {ls : List Listener}

/-- Some listener has mail of an event. -/
def HasMail (ls : List Listener) (e : Swap.Event) : Prop := ∃ l ∈ ls, e ∈ l.mailbox.items

/-- A turn takes the first event out of the mailbox, whatever becomes of it. -/
theorem items_takeTurn (currency : Currency) (l : Listener) (w : World) :
    (l.takeTurn currency w).1.mailbox.items = l.mailbox.items.tail := by
  unfold takeTurn
  cases h : l.mailbox.items with
  | nil => exact h
  | cons e rest => rfl

/-- In a round each listener takes one event, if it has any. -/
theorem items_takeTurns (currency : Currency) (ls : List Listener) (w : World) :
    (takeTurns currency ls w).1.map (·.mailbox.items) = ls.map (·.mailbox.items.tail) := by
  induction ls generalizing w with
  | nil => rfl
  | cons l ls ih =>
    show (l.takeTurn currency w).1.mailbox.items :: (takeTurns currency ls _).1.map _ = _
    rw [items_takeTurn, ih]
    rfl

/-- **A round takes one event out of every mailbox.** -/
theorem items_takeRounds (currency : Currency) (n : Nat) (ls : List Listener) (w : World) :
    (takeRounds currency n ls w).1.map (·.mailbox.items) = ls.map (·.mailbox.items.drop n) := by
  induction n generalizing ls w with
  | zero => rfl
  | succ n ih =>
    -- the first round leaves the tails, and the others drop their events from these
    calc (takeRounds currency (n + 1) ls w).1.map (·.mailbox.items)
        = (takeTurns currency ls w).1.map (·.mailbox.items.drop n) := ih _ _
      _ = ((takeTurns currency ls w).1.map (·.mailbox.items)).map (·.drop n) := by
          rw [List.map_map]
          rfl
      _ = ls.map (·.mailbox.items.drop (n + 1)) := by
          rw [items_takeTurns, List.map_map]
          exact List.map_congr_left fun l _ => List.drop_tail

/-- Whether an event is waiting depends on the mailboxes alone. -/
theorem hasMail_iff : HasMail ls e ↔ ∃ items ∈ ls.map (·.mailbox.items), e ∈ items := by
  constructor
  · rintro ⟨l, hl, he⟩
    exact ⟨_, List.mem_map_of_mem hl, he⟩
  · rintro ⟨items, hitems, he⟩
    obtain ⟨l, hl, rfl⟩ := List.mem_map.1 hitems
    exact ⟨l, hl, he⟩

/-- A turn brings no mail. -/
theorem HasMail.of_takeTurns (h : HasMail (takeTurns currency ls w).1 e) : HasMail ls e := by
  rw [hasMail_iff, items_takeTurns] at h
  obtain ⟨items, hitems, he⟩ := h
  obtain ⟨l, hl, rfl⟩ := List.mem_map.1 hitems
  exact ⟨l, hl, List.mem_of_mem_tail he⟩

/-- After a delivery an event is waiting if it was before, or it has just been delivered. -/
theorem HasMail.of_deliver {es : List Swap.Event} (h : HasMail (ls.map (·.deliver es)) e) :
    HasMail ls e ∨ e ∈ es := by
  obtain ⟨delivered, hdelivered, he⟩ := h
  obtain ⟨l, hl, rfl⟩ := List.mem_map.1 hdelivered
  exact (Mailbox.mem_add he).imp_left fun he => ⟨l, hl, he⟩

/-- The longest mailbox is as long as any. -/
theorem length_le_longest (ls : List Listener) (n : Nat) :
    n ≤ ls.foldl (fun n l => max n l.mailbox.items.length) n
      ∧ ∀ l ∈ ls, l.mailbox.items.length
        ≤ ls.foldl (fun n l => max n l.mailbox.items.length) n := by
  induction ls generalizing n with
  | nil => exact ⟨Nat.le_refl n, fun l hl => absurd hl List.not_mem_nil⟩
  | cons l ls ih =>
    -- the first mailbox counts as part of the number that the fold starts from
    obtain ⟨hstart, hrest⟩ := ih (max n l.mailbox.items.length)
    refine ⟨Nat.le_trans (Nat.le_max_left _ _) hstart, fun l' hl' => ?_⟩
    rcases List.mem_cons.1 hl' with rfl | hl'
    · exact Nat.le_trans (Nat.le_max_right _ _) hstart
    · exact hrest l' hl'

end Listener

/-! ## §2. The feed. -/

namespace Feed

open Listener

variable {f : Feed}

/-- To ask for the stream is no matter of the listeners. -/
theorem subscribe_frame (f : Feed) (w : World) :
    ∃ stream, (f.subscribe w).1 = { f with stream } := by
  unfold subscribe
  split
  · split
    · exact ⟨_, rfl⟩
    · split
      · exact ⟨_, rfl⟩
      · exact ⟨_, rfl⟩
  · exact ⟨_, rfl⟩

/-- `startStream` changes nothing of the feed but what its stream is doing. -/
theorem startStream_frame (f : Feed) (w : World) :
    ∃ stream, (f.startStream w).1 = { f with stream } := by
  unfold startStream
  split
  · split
    · exact ⟨_, rfl⟩
    · exact subscribe_frame { f with stream := .waiting } w
  · exact ⟨_, rfl⟩

/-- Nor does `endStream`. -/
theorem endStream_frame (f : Feed) (w : World) :
    ∃ stream, (f.endStream w).1 = { f with stream } := by
  unfold endStream
  dsimp only
  split
  · exact subscribe_frame { f with stream := .waiting } _
  · exact ⟨_, rfl⟩

/-- The listeners have handled all their mail. -/
def IsSettled (f : Feed) : Prop := ∀ e, ¬ HasMail f.listeners e

/-- Listeners that work until the longest mailbox is empty have no mail left. -/
theorem isSettled_settle (currency : Currency) (f : Feed) (w : World) :
    (f.settle currency w).1.IsSettled := by
  intro e h
  have hmail : HasMail (takeRounds currency f.backlog f.listeners w).1 e := h
  rw [hasMail_iff, items_takeRounds] at hmail
  obtain ⟨items, hitems, he⟩ := hmail
  obtain ⟨l, hl, rfl⟩ := List.mem_map.1 hitems
  -- there were as many rounds as the longest mailbox has events
  have hlength : l.mailbox.items.length ≤ f.backlog := (length_le_longest f.listeners 0).2 l hl
  rw [List.drop_of_length_le hlength] at he
  exact absurd he List.not_mem_nil

/-- **What is published is handled**, with all earlier mail. -/
theorem isSettled_spread (currency : Currency) (es : List Swap.Event) (f : Feed) (w : World) :
    (f.spread currency es w).1.IsSettled :=
  isSettled_settle currency (f.publish es) w

/-- When a settled feed publishes events, listeners have mail of these only. -/
theorem IsSettled.of_hasMail (h : f.IsSettled) {es : List Swap.Event}
    (hmail : HasMail (f.publish es).listeners e) : e ∈ es :=
  (HasMail.of_deliver hmail).resolve_left (h e)

/-- Events that are spread one by one are all handled in the end. -/
theorem IsSettled.spreadEach (h : f.IsSettled) (currency : Currency) (es : List Swap.Event)
    (w : World) : (f.spreadEach currency es w).1.IsSettled := by
  induction es generalizing f w with
  | nil => exact h
  | cons e es ih => exact ih (isSettled_spread currency [e] f w) _

/-- New listeners start with an empty mailbox. -/
theorem IsSettled.listen (h : f.IsSettled) (kinds : List Listener.Kind) :
    (f.listen kinds).IsSettled := by
  unfold Feed.listen
  split
  · exact h
  · rintro e ⟨l, hl, he⟩
    rcases List.mem_append.1 hl with hl | hl
    · exact h e ⟨l, hl, he⟩
    · obtain ⟨kind, _, rfl⟩ := List.mem_map.1 hl
      exact absurd he List.not_mem_nil

theorem IsSettled.subscribe (h : f.IsSettled) (w : World) : (f.subscribe w).1.IsSettled := by
  obtain ⟨stream, heq⟩ := subscribe_frame f w
  rw [heq]
  exact h

theorem IsSettled.startStream (h : f.IsSettled) (w : World) : (f.startStream w).1.IsSettled := by
  obtain ⟨stream, heq⟩ := startStream_frame f w
  rw [heq]
  exact h

theorem IsSettled.endStream (h : f.IsSettled) (w : World) : (f.endStream w).1.IsSettled := by
  obtain ⟨stream, heq⟩ := endStream_frame f w
  rw [heq]
  exact h

/-- What the feed receives is handled before `receive` ends, so that no mail is left. -/
theorem IsSettled.receive (h : f.IsSettled) (currency : Currency) (rs : List Swap.Report)
    (w : World) : (f.receive currency rs w).2.1.IsSettled := by
  unfold Feed.receive
  split
  · exact h.spreadEach currency _ w
  · exact h

/-- The same of the events that a catch-up finds. -/
theorem IsSettled.poll (h : f.IsSettled) (currency : Currency) (withInvoices : Bool) (w : World) :
    (f.poll currency withInvoices w).2.1.IsSettled := by
  unfold Feed.poll
  split
  · exact h
  · cases hrun : Poll.run withInvoices w with
    | mk answer after =>
      cases answer with
      | error failure => exact h
      | ok es => exact isSettled_spread currency es _ after

end Feed

end SwapBridge
