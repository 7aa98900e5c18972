import AppHost.EventStream
import AppHost.Proofs.Host.Operation

/-!
The forwarding of updates to one client as moves that can come in any order. The task that forwards
turns to a heartbeat that is due, to what its subscription gives or to the client having gone away,
whichever of these it likes. What it has got it sends, and waits with it for a place in the queue.
Meanwhile the client takes updates or goes away, and anything may be done in the host: events are
sent, the page is closed, the application is stopped.
-/

set_option autoImplicit false
namespace AppHost

namespace Received
variable {α : Type}

def message? : Received α → Option α
  | .message content => some content
  | _ => none

def missed? : Received α → Option Nat
  | .lagged missed => some missed
  | _ => none

end Received

def Taken.update? : Taken → Option StreamUpdate
  | .update u => some u
  | _ => none

namespace EventStream

structure Over (s : EventStream) : Prop where
  ended : s.hasEnded = true
  free : s.held = none

theorem isLooking_iff (s : EventStream) :
    s.isLooking = true ↔ s.held = none ∧ s.hasEnded = false := by
  simp [isLooking]

theorem isLooking_of_hasEnded {s : EventStream} (ended : s.hasEnded = true) :
    s.isLooking = false := by
  simp [isLooking, ended]

theorem release_eq (s : EventStream) : s.release =
    { s with
      queue := s.queue ++ (if s.isFull then none else s.held).toList
      held := if s.isFull then s.held else none } := by
  obtain ⟨interval, due, queue, held, hasEnded⟩ := s
  cases held with
  | none => simp [release]
  | some u =>
    cases full : isFull ⟨interval, due, queue, some u, hasEnded⟩ <;> simp [release, full]

theorem release_of_free {s : EventStream} (free : s.held = none) : s.release = s := by
  cases s
  cases free
  rfl

theorem put_eq_release {s : EventStream} (free : s.held = none) (u : StreamUpdate) :
    s.put u = { s with held := some u }.release := by
  cases s
  cases free
  rfl

theorem due_put (s : EventStream) (u : StreamUpdate) : (s.put u).due = s.due := by
  unfold put
  split <;> rfl

theorem beat_eq (s : EventStream) (now : Nat) :
    s.beat now = { s with due := (s.beat now).due }.put .heartbeat := by
  simp only [beat, due_put]

theorem head?_of_take {s after : EventStream} {u : StreamUpdate}
    (took : s.take = (.update u, after)) : s.queue.head? = some u := by
  unfold take at took
  split at took
  · rename_i queue
    cases took
    rw [queue]
    rfl
  · split at took <;> cases took

theorem take_eq (s : EventStream) : s.take.2 = { s with queue := s.queue.tail } := by
  obtain ⟨interval, due, queue, held, hasEnded⟩ := s
  cases queue <;> rfl

end EventStream

/-- The task that forwards to one client, with the host that it receives from. -/
structure Forwarding where
  stream : EventStream
  subscription : SubscriptionRef
  host : Host
  isGone : Bool

inductive ForwardingMove
  -- The task turns to the heartbeat,
  | beat (now : Nat)
  -- or to its subscription,
  | receive
  -- or to the client that is gone.
  | notice
  -- It sends what it has got.
  | send
  | take
  | leave
  -- Something else is done in the host.
  | meanwhile (now : Moment) (op : Operation)

namespace Forwarding

def start (interval now : Nat) (subscription : SubscriptionRef) (host : Host) : Forwarding :=
  ⟨.start interval now, subscription, host, false⟩

def ofOpen (s : OpenStream) (host : Host) : Forwarding := ⟨s.stream, s.subscription, host, false⟩

def hold (s : Forwarding) (u : StreamUpdate) : Forwarding :=
  { s with stream := { s.stream with held := some u } }

/-- The task ends. What it has got and not sent is lost, and its subscription is dropped. -/
def finish (s : Forwarding) : Forwarding :=
  { s with
    stream := { s.stream with held := none, hasEnded := true }
    host := s.host.unsubscribe s.subscription }

/-- A move that cannot be made now changes nothing. -/
def step (s : Forwarding) : ForwardingMove → Forwarding
  | .beat now =>
    if s.stream.isLooking && s.stream.isDue now then
      { s with stream := { s.stream with due := (s.stream.beat now).due } }.hold .heartbeat
    else s
  | .receive =>
    if s.stream.isLooking then
      match s.host.receive s.subscription with
      | (.message event, host) => { s with host }.hold (.event event)
      | (.lagged _, host) => { s with host }
      | (.closed, host) => { s with host }.finish
      | (.pending, _) => s
    else s
  | .notice => if s.stream.isLooking && s.isGone then s.finish else s
  | .send =>
    if s.isGone then if s.stream.held.isSome then s.finish else s
    else { s with stream := s.stream.release }
  | .take => if s.isGone then s else { s with stream := s.stream.take.2 }
  | .leave => { s with stream := { s.stream with queue := [] }, isGone := true }
  | .meanwhile now op => { s with host := s.host.perform now op }

def run (s : Forwarding) (moves : List ForwardingMove) : Forwarding := moves.foldl step s

@[simp] theorem run_nil (s : Forwarding) : s.run [] = s := rfl

@[simp] theorem run_cons (s : Forwarding) (move : ForwardingMove) (rest : List ForwardingMove) :
    s.run (move :: rest) = (s.step move).run rest := rfl

theorem run_append (s : Forwarding) (moves later : List ForwardingMove) :
    s.run (moves ++ later) = (s.run moves).run later :=
  List.foldl_append

/-! ### What is seen of a run -/

/-- What the subscription gives, if the task turns to it and there is something. -/
def found? (s : Forwarding) : ForwardingMove → Option (Received ApplicationEvent)
  | .receive =>
    if s.stream.isLooking then
      match (s.host.receive s.subscription).1 with
      | .pending => none
      | found => some found
    else none
  | _ => none

def chosen? (s : Forwarding) : ForwardingMove → Option StreamUpdate
  | .beat now => if s.stream.isLooking && s.stream.isDue now then some .heartbeat else none
  | move => (s.found? move).bind fun
    | .message event => some (.event event)
    | _ => none

def put? (s : Forwarding) : ForwardingMove → Option StreamUpdate
  | .send => if s.isGone || s.stream.isFull then none else s.stream.held
  | _ => none

/-- What can be sent no more. -/
def failed? (s : Forwarding) : ForwardingMove → Option StreamUpdate
  | .send => if s.isGone then s.stream.held else none
  | _ => none

def taken? (s : Forwarding) : ForwardingMove → Option StreamUpdate
  | .take => if s.isGone then none else s.stream.queue.head?
  | _ => none

def turn? (s : Forwarding) (move : ForwardingMove) : Option ForwardingMove :=
  match move with
  | .beat now => if s.stream.isLooking && s.stream.isDue now then some move else none
  | .receive => (s.found? .receive).map fun _ => move
  | .notice => if s.stream.isLooking && s.isGone then some move else none
  | .send => if s.stream.held.isSome && (s.isGone || !s.stream.isFull) then some move else none
  | _ => none

def seen {β : Type} (look : Forwarding → ForwardingMove → Option β) :
    Forwarding → List ForwardingMove → List β
  | _, [] => []
  | s, move :: rest => (look s move).toList ++ seen look (s.step move) rest

theorem seen_append {β : Type} (look : Forwarding → ForwardingMove → Option β) (s : Forwarding)
    (moves later : List ForwardingMove) :
    seen look s (moves ++ later) = seen look s moves ++ seen look (s.run moves) later := by
  induction moves generalizing s with
  | nil => rfl
  | cons move rest ih => simp [seen, ih]

theorem filterMap_seen {β γ : Type} (look : Forwarding → ForwardingMove → Option β)
    (f : β → Option γ) (s : Forwarding) (moves : List ForwardingMove) :
    (seen look s moves).filterMap f = seen (fun s move => (look s move).bind f) s moves := by
  induction moves generalizing s with
  | nil => rfl
  | cons move rest ih =>
    rw [seen, seen, List.filterMap_append, ih]
    cases look s move with
    | none => rfl
    | some b => cases found : f b <;> simp [found]

variable {s : Forwarding}

/-! ### The end of the task -/

theorem over_finish (s : Forwarding) : s.finish.stream.Over := ⟨rfl, rfl⟩

theorem over_step (done : s.stream.Over) (move : ForwardingMove) : (s.step move).stream.Over := by
  have idle := EventStream.isLooking_of_hasEnded done.ended
  cases move with
  | beat | receive | notice => simpa [step, idle] using done
  | send =>
    simp only [step, done.free]
    split
    · exact done
    · rw [EventStream.release_eq]
      exact ⟨done.ended, by simp [done.free]⟩
  | take =>
    simp only [step, EventStream.take_eq]
    split
    · exact done
    · exact ⟨done.ended, done.free⟩
  | leave => exact ⟨done.ended, done.free⟩
  | meanwhile => exact ⟨done.ended, done.free⟩

theorem over_run (done : s.stream.Over) (moves : List ForwardingMove) : (s.run moves).stream.Over := by
  induction moves generalizing s with
  | nil => exact done
  | cons move rest ih => exact ih (over_step done move)

theorem stream_step_receive (s : Forwarding) : (s.step .receive).stream =
    match s.found? .receive with
    | some (.message event) => { s.stream with held := some (.event event) }
    | some .closed => { s.stream with held := none, hasEnded := true }
    | _ => s.stream := by
  simp only [step, found?]
  split
  · rcases s.host.receive s.subscription with ⟨_ | _ | _ | _, host⟩ <;> rfl
  · rfl

theorem isGone_step (s : Forwarding) (move : ForwardingMove) (stays : move ≠ .leave) :
    (s.step move).isGone = s.isGone := by
  cases move with
  | receive =>
    simp only [step]
    split
    · rcases s.host.receive s.subscription with ⟨_ | _ | _ | _, host⟩ <;> rfl
    · rfl
  | leave => exact absurd rfl stays
  | beat | notice | send | take =>
    simp only [step]
    repeat' split
    all_goals rfl
  | meanwhile => rfl

theorem found?_of_over (done : s.stream.Over) (move : ForwardingMove) : s.found? move = none := by
  cases move <;> simp [found?, EventStream.isLooking_of_hasEnded done.ended]

theorem chosen?_of_over (done : s.stream.Over) (move : ForwardingMove) : s.chosen? move = none := by
  cases move <;> simp [chosen?, found?, EventStream.isLooking_of_hasEnded done.ended]

theorem put?_of_over (done : s.stream.Over) (move : ForwardingMove) : s.put? move = none := by
  cases move <;> simp [put?, done.free]

theorem put?_of_isGone (gone : s.isGone = true) (move : ForwardingMove) : s.put? move = none := by
  cases move <;> simp [put?, gone]

theorem taken?_of_isGone (gone : s.isGone = true) (move : ForwardingMove) :
    s.taken? move = none := by
  cases move <;> simp [taken?, gone]

theorem isGone_step_of_isGone (gone : s.isGone = true) (move : ForwardingMove) :
    (s.step move).isGone = true := by
  by_cases leaves : move = .leave
  · rw [leaves]
    rfl
  · rw [isGone_step s move leaves, gone]

theorem isGone_run_of_isGone (gone : s.isGone = true) (moves : List ForwardingMove) :
    (s.run moves).isGone = true := by
  induction moves generalizing s with
  | nil => exact gone
  | cons move rest ih => exact ih (isGone_step_of_isGone gone move)

/-- What is not seen while something holds, and holds on, is not seen any more. -/
theorem seen_eq_nil {β : Type} {look : Forwarding → ForwardingMove → Option β}
    (holds : Forwarding → Prop) (holdsOn : ∀ s, holds s → ∀ move, holds (s.step move))
    (unseen : ∀ s, holds s → ∀ move, look s move = none) (now : holds s)
    (moves : List ForwardingMove) : seen look s moves = [] := by
  induction moves generalizing s with
  | nil => rfl
  | cons move rest ih => rw [seen, unseen s now, ih (holdsOn s now move), Option.toList_none,
      List.nil_append]

theorem puts_of_isGone (gone : s.isGone = true) (moves : List ForwardingMove) :
    s.seen put? moves = [] :=
  seen_eq_nil (·.isGone = true) (fun _ gone => isGone_step_of_isGone gone)
    (fun _ gone => put?_of_isGone gone) gone moves

theorem takes_of_isGone (gone : s.isGone = true) (moves : List ForwardingMove) :
    s.seen taken? moves = [] :=
  seen_eq_nil (·.isGone = true) (fun _ gone => isGone_step_of_isGone gone)
    (fun _ gone => taken?_of_isGone gone) gone moves

/-- A task that is over finds nothing, gets nothing and puts nothing. -/
theorem nothing_of_over (done : s.stream.Over) (moves : List ForwardingMove) :
    s.seen found? moves = [] ∧ s.seen chosen? moves = [] ∧ s.seen put? moves = [] := by
  have none {β : Type} {look : Forwarding → ForwardingMove → Option β}
      (unseen : ∀ s : Forwarding, s.stream.Over → ∀ move, look s move = none) :
      s.seen look moves = [] :=
    seen_eq_nil (·.stream.Over) (fun _ done => over_step done) unseen done moves
  exact ⟨none fun _ done => found?_of_over done, none fun _ done => chosen?_of_over done,
    none fun _ done => put?_of_over done⟩

end Forwarding
end AppHost
