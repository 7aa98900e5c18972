import AppHost.Host

/-!
The stream of updates that one client takes: heartbeats, the first at once and then one every
interval, and between them the events of its page. Updates wait for the client in a short queue. One
more is held when the queue is full, and until there is a place for it nothing else is looked at, so
that later events stay in the page's feed and may be lost there. The stream ends when its page is
closed; what is in the queue can still be taken.

Times are milliseconds.
-/

set_option autoImplicit false
namespace AppHost

structure EventStream where
  interval : Nat
  due : Nat
  -- What the client has not taken yet, oldest first.
  queue : List StreamUpdate
  held : Option StreamUpdate
  hasEnded : Bool
  deriving DecidableEq, Repr

inductive Taken
  | update (update : StreamUpdate)
  | pending
  | closed
  deriving DecidableEq, Repr

namespace EventStream

def queueCapacity : Nat := 16

/-- How late a heartbeat may be for the next one to keep to the old beat. -/
def tolerance : Nat := 5

def minInterval : Nat := 1

def defaultInterval : Nat := 5000

def start (interval now : Nat) : EventStream := ⟨interval, now, [], none, false⟩

def isFull (s : EventStream) : Bool := queueCapacity ≤ s.queue.length

/-- Puts an update into the queue, or holds it if that is full. -/
def put (s : EventStream) (u : StreamUpdate) : EventStream :=
  if s.isFull then { s with held := some u } else { s with queue := s.queue ++ [u] }

/-- The held update goes into the queue once there is a place. -/
def release (s : EventStream) : EventStream :=
  match s.held with
  | some u => if s.isFull then s else { s with queue := s.queue ++ [u], held := none }
  | none => s

def isLooking (s : EventStream) : Bool := s.held.isNone && !s.hasEnded

def isDue (s : EventStream) (now : Nat) : Bool := s.due ≤ now

/-- A heartbeat. One that comes too late moves the beat. -/
def beat (s : EventStream) (now : Nat) : EventStream :=
  let due := if s.due + tolerance < now then now + s.interval else s.due + s.interval
  { s with due }.put .heartbeat

/-- Takes over what the subscription gave. Lost events are passed over in silence. -/
def accept (s : EventStream) : Received ApplicationEvent → EventStream
  | .message event => s.put (.event event)
  | .lagged _ => s
  | .pending => s
  | .closed => { s with hasEnded := true }

def take (s : EventStream) : Taken × EventStream :=
  match s.queue with
  | u :: rest => (.update u, { s with queue := rest })
  | [] => (if s.hasEnded && s.held.isNone then .closed else .pending, s)

end EventStream

structure OpenStream where
  stream : EventStream
  subscription : SubscriptionRef

namespace OpenStream

/-- One round: the held update, a heartbeat that is due, or what the subscription gives. A stream
that ends drops its subscription. Nothing is left to do when there is no next state. -/
def step (now : Nat) (s : OpenStream) (h : Host) : Option (OpenStream × Host) :=
  let stream := s.stream.release
  if !stream.isLooking then none
  else if stream.isDue now then some ({ s with stream := stream.beat now }, h)
  else
    match h.receive s.subscription with
    | (.pending, _) => none
    | (.closed, after) =>
      some ({ s with stream := stream.accept .closed }, after.unsubscribe s.subscription)
    | (found, after) => some ({ s with stream := stream.accept found }, after)

def steps (now : Nat) : Nat → OpenStream → Host → OpenStream × Host
  | 0, s, h => (s, h)
  | rounds + 1, s, h =>
    match s.step now h with
    | some (s, h) => steps now rounds s h
    | none => ({ s with stream := s.stream.release }, h)

/-- Goes on until the stream waits. Every place of the queue takes at most two rounds, since lost
events are followed by one that is kept; the held update and the end take two more each. -/
def settle (now : Nat) (s : OpenStream) (h : Host) : OpenStream × Host :=
  steps now (2 * EventStream.queueCapacity + 4) s h

def takeUpTo (now : Nat) : Nat → OpenStream → Host → List Taken × OpenStream × Host
  | 0, s, h => ([], s, h)
  | rounds + 1, s, h =>
    match s.stream.take with
    | (.update u, stream) =>
      let (s, h) := settle now { s with stream } h
      let (rest, s, h) := takeUpTo now rounds s h
      (.update u :: rest, s, h)
    | (found, _) => ([found], s, h)

/-- The client takes all that it can have: what is queued and held, the heartbeats that are due
within the tolerance, and at most a whole feed of events. -/
def drain (now : Nat) (s : OpenStream) (h : Host) : List Taken × OpenStream × Host :=
  takeUpTo now (EventStream.queueCapacity + EventStream.tolerance + 4 +
    Feed.capacityFor h.options.eventBuffer) s h

end OpenStream

namespace Host

def openStream (h : Host) (interval now : Nat) (page : PageRef) :
    Except RuntimeError OpenStream × Host :=
  match h.subscribe page with
  | (.error e, h) => (.error e, h)
  | (.ok subscription, h) =>
    let s : OpenStream := ⟨.start (max interval EventStream.minInterval) now, subscription⟩
    let (s, h) := s.settle now h
    (.ok s, h)

end Host
end AppHost
