/-
  SwapBridge.Feed
  ───────────────
  **SPREADING SWAP EVENTS.**

  Events come from the daemon's stream, from the catch-up at the start, or
  from outside.  Each goes to the mailbox of every listener and of every
  subscriber.  Listeners take their mail one event at a time and in turns;
  what one of them does with an event is no concern of the others.

    • `Feed.publish` — into all mailboxes,
    • `Feed.settle` — lets the listeners work until all mail is handled,
    • `Feed.subscribe` — opens the stream of a healthy daemon.
-/
import SwapBridge.Mailbox
import SwapBridge.PartialPayment
import SwapBridge.Poll
import SwapBridge.Reconciler
import SwapBridge.Rotation

namespace SwapBridge

/-! ## §1. Listeners. -/

namespace Listener

/-- What a listener does with an event. -/
inductive Kind where
  /-- Notes it. -/
  | recorder
  /-- Fails at it. -/
  | failing
  /-- Crashes at it, which costs only this event. -/
  | crashing
  /-- Writes it to the log. -/
  | log
  | settlement
  | rotation
  deriving DecidableEq, Repr

def Kind.name : Kind → String
  | .log => "log"
  | .settlement => "settlement"
  | .rotation => "address-rotation"
  | _ => "probe"

/-- The effect of a listener on the world.  Failures end with the event. -/
def Kind.act (k : Kind) (currency : Currency) (e : Swap.Event) (w : World) : World :=
  match k with
  | .settlement => (Reconciler.handle currency e w).2
  | .rotation => (Rotation.handle e w).2
  | _ => w

end Listener

structure Listener where
  kind : Listener.Kind
  mailbox : Mailbox Swap.Event := {}
  /-- The ids of the swaps it was given, the last one first. -/
  heard : List String := []
  deriving DecidableEq, Repr

namespace Listener

def deliver (l : Listener) (es : List Swap.Event) : Listener :=
  { l with mailbox := l.mailbox.add Mailbox.capacity es }

/-- Takes one event out of the mailbox and handles it. -/
def takeTurn (currency : Currency) (l : Listener) (w : World) : Listener × World :=
  match l.mailbox.items with
  | [] => (l, w)
  | e :: rest =>
    ({ l with mailbox := { items := rest }, heard := e.id :: l.heard }, l.kind.act currency e w)

/-- One turn of each listener. -/
def takeTurns (currency : Currency) : List Listener → World → List Listener × World
  | [], w => ([], w)
  | l :: rest, w =>
    let (l, w) := l.takeTurn currency w
    let (rest, w) := takeTurns currency rest w
    (l :: rest, w)

/-- `n` rounds of turns. -/
def takeRounds (currency : Currency) : Nat → List Listener → World → List Listener × World
  | 0, ls, w => (ls, w)
  | n + 1, ls, w =>
    let (ls, w) := takeTurns currency ls w
    takeRounds currency n ls w

end Listener

/-! ## §2. The feed. -/

/-- The subscription to the daemon's stream of updates. -/
inductive Stream where
  /-- Nobody asked for it yet. -/
  | unused
  /-- It waits for a healthy daemon. -/
  | waiting
  | streaming
  /-- It is over for good. -/
  | ended
  deriving DecidableEq, Repr

structure Feed where
  listeners : List Listener := []
  subscription : Option (Mailbox Swap.Event) := none
  stream : Stream := .unused
  /-- Whether the state of the daemon is still published. -/
  published : Bool := true
  /-- Whether the catch-up was made. -/
  polled : Bool := false
  stopped : Bool := false
  deriving DecidableEq, Repr

namespace Feed

/-- How many get what is published. -/
def receivers (f : Feed) : Nat := f.listeners.length + f.subscription.toList.length

/-- Puts events into all mailboxes. -/
def publish (es : List Swap.Event) (f : Feed) : Feed :=
  { f with
    listeners := f.listeners.map (·.deliver es)
    subscription := f.subscription.map fun m => m.add Mailbox.capacity es }

/-- The longest mailbox of a listener. -/
def backlog (f : Feed) : Nat := f.listeners.foldl (fun n l => max n l.mailbox.items.length) 0

/-- Lets the listeners work until their mailboxes are empty. -/
def settle (currency : Currency) (f : Feed) (w : World) : Feed × World :=
  let (listeners, w) := Listener.takeRounds currency f.backlog f.listeners w
  ({ f with listeners }, w)

/-- Publishes events at once, then lets the listeners work. -/
def spread (currency : Currency) (es : List Swap.Event) (f : Feed) (w : World) : Feed × World :=
  (f.publish es).settle currency w

/-- Spreads events one after the other. -/
def spreadEach (currency : Currency) : List Swap.Event → Feed → World → Feed × World
  | [], f, w => (f, w)
  | e :: es, f, w =>
    let (f, w) := f.spread currency [e] w
    spreadEach currency es f w

/-- Adds listeners; a feed that was stopped takes none. -/
def listen (kinds : List Listener.Kind) (f : Feed) : Feed :=
  if f.stopped then f else { f with listeners := f.listeners ++ kinds.map fun kind => { kind } }

/-! ## §3. The stream. -/

/-- Asks for the stream until the daemon grants it, `n` times at most. -/
def openStream (c : Rpc.Connection) : Nat → Daemon → Daemon
  | 0, d => d
  | n + 1, d =>
    match d.getSwapInfoStream c with
    | (.ok (), d) => d
    | (.error _, d) => openStream c n d

/-- How many faults may stand between a caller and the stream. -/
def streamFaults (d : Daemon) : Nat :=
  (d.faults.lookup .getSwapInfoStream).elim 0 List.length

/-- Opens the stream if it is waited for and the daemon is healthy.  Without a
healthy daemon and with no news to come, the stream ends. -/
def subscribe (f : Feed) (w : World) : Feed × World :=
  if f.stream = .waiting then
    match w.health.admin? with
    | some c =>
      -- each fault costs one attempt, so the attempt after the last of them succeeds
      ({ f with stream := .streaming },
        { w with daemon := openStream c (streamFaults w.daemon + 1) w.daemon })
    | none => if f.published then (f, w) else ({ f with stream := .ended }, w)
  else (f, w)

/-- Starts the stream; a second start changes nothing. -/
def startStream (f : Feed) (w : World) : Feed × World :=
  if f.stream = .unused then
    if f.stopped then ({ f with stream := .ended }, w)
    else subscribe { f with stream := .waiting } w
  else (f, w)

/-- Hands the daemon's messages on; those without a swap say nothing. -/
def receive (currency : Currency) (rs : List Swap.Report) (f : Feed) (w : World) :
    Nat × Feed × World :=
  if f.stream = .streaming then
    let events := rs.filterMap Swap.Event.ofReport?
    (events.length, f.spreadEach currency events w)
  else (0, f, w)

/-- The daemon ends the stream; the feed asks for it again. -/
def endStream (f : Feed) (w : World) : Feed × World :=
  let w := { w with daemon := { w.daemon with subscribers := 0 } }
  if f.stream = .streaming then subscribe { f with stream := .waiting } w else (f, w)

/-- Stops the stream and the listeners; says how many of these there were. -/
def stop (f : Feed) (w : World) : Nat × Feed × World :=
  (f.listeners.length,
    { f with
      listeners := [], stopped := true,
      stream := if f.stream = .unused then .unused else .ended },
    { w with daemon := { w.daemon with subscribers := 0 } })

/-! ## §4. The catch-up. -/

/-- Catches up once; later calls do nothing, also after a failure. -/
def poll (currency : Currency) (withInvoices : Bool) (f : Feed) (w : World) :
    Except Poll.Failure Nat × Feed × World :=
  if f.polled then (.ok 0, f, w)
  else
    -- the catch-up counts as made before it is known how it ends
    match Poll.run withInvoices w with
    | (.error e, w) => (.error e, { f with polled := true }, w)
    | (.ok events, w) =>
      (.ok events.length, Feed.spread currency events { f with polled := true } w)

end Feed

end SwapBridge
