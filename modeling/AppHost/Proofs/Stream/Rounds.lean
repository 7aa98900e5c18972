import AppHost.Proofs.Attempts
import AppHost.Proofs.Host.Streams
import AppHost.Proofs.Stream.Moves

/-!
The stream that runs forwards by the same moves, always in one order: it sends what is held, then
takes a heartbeat that is due, or else what its subscription gives. It goes on so until it can do
nothing more, which is after two rounds for each free place of the queue, one of them for a gap.
-/

set_option autoImplicit false
namespace AppHost

/-! ### Gaps -/

theorem Feed.read_of_lagged {α : Type} {f : Feed α} {position missed : Nat}
    (lagged : (f.read position).1 = .lagged missed) (other : Nat) :
    (f.read (f.read position).2).1 ≠ .lagged other := by
  by_cases behind : position < f.oldest
  · have caught : (f.read position).2 = f.oldest := by rw [read, if_pos behind]
    rw [caught, read, if_neg (Nat.lt_irrefl _)]
    intro again
    split at again <;> cases again
  · rw [read, if_neg behind] at lagged
    split at lagged <;> cases lagged

namespace Hub
variable {h : Hub} {missed : Nat}

theorem next_of_lagged {s : Subscription} (lagged : (h.next s).1 = .lagged missed) (other : Nat) :
    (h.next { s with position := (h.next s).2 }).1 ≠ .lagged other := by
  have same (position : Nat) : h.feedOf { s with position } = h.feedOf s := rfl
  simp only [next, same] at lagged ⊢
  split at lagged
  · cases lagged
  · rename_i up
    simp only [if_neg up]
    split at lagged
    · exact Feed.read_of_lagged lagged other
    · split at lagged
      · cases lagged
      · have again := Feed.read_of_lagged lagged other
        split <;> simp_all
    · cases lagged

theorem receive_of_lagged {number : Nat} (lagged : (h.receive number).1 = .lagged missed)
    (other : Nat) : ((h.receive number).2.receive number).1 ≠ .lagged other := by
  cases present : h.subscription? number with
  | none =>
    rw [receive, present] at lagged
    cases lagged
  | some s =>
    have received : h.receive number =
        ((h.next s).1, h.put number (some { s with position := (h.next s).2 })) := by
      rw [receive, present]
      rfl
    rw [received] at lagged ⊢
    dsimp only
    rw [receive, subscription?_put_self _ (lt_of_subscription? present)]
    exact next_of_lagged lagged other

end Hub

theorem Host.receive_of_lagged {h : Host} {stream : SubscriptionRef} {missed : Nat}
    (lagged : (h.receive stream).1 = .lagged missed) (other : Nat) :
    ((h.receive stream).2.receive stream).1 ≠ .lagged other := by
  cases present : h.instance? stream.target with
  | none =>
    rw [receive, present] at lagged
    cases lagged
  | some i =>
    have after : (h.receive stream).2.instance? stream.target = some (i.receive stream.number).2 := by
      rw [receive_eq_alter, instance?_alter, if_pos rfl, present]
      rfl
    rw [receive, present] at lagged
    rw [receive, after]
    exact Hub.receive_of_lagged lagged other

/-! ### Until the stream waits -/

namespace OpenStream
variable {now : Nat} {s after : OpenStream} {h left : Host}

/-- The stream can do nothing now. -/
inductive Waits (now : Nat) (s : OpenStream) (h : Host) : Prop
  -- What it holds is waiting for a place in the queue.
  | held (holds : s.stream.held.isSome = true) (full : s.stream.isFull = true)
  | over (ended : s.stream.hasEnded = true)
  -- No heartbeat is due, and there is nothing to receive.
  | idle (early : s.stream.isDue now = false) (nothing : (h.receive s.subscription).1 = .pending)

theorem waits_of_step (stays : s.step now h = none) :
    Waits now { s with stream := s.stream.release } h := by
  simp only [step] at stays
  split at stays
  · rename_i idle
    -- What is held still after a release had no place in the queue.
    rw [EventStream.release_eq] at idle ⊢
    cases ended : s.stream.hasEnded with
    | true => exact .over rfl
    | false =>
      cases full : s.stream.isFull with
      | true =>
        rw [full] at idle
        refine .held ?_ ?_
        · simpa [EventStream.isLooking, ended, Option.isSome_iff_ne_none] using idle
        · simpa [EventStream.isFull] using full
      | false =>
        rw [full] at idle
        simp [EventStream.isLooking, ended] at idle
  split at stays
  · cases stays
  rename_i early
  rcases found : h.receive s.subscription with ⟨_ | _ | _ | _, host⟩ <;> rw [found] at stays
  case pending => exact .idle (Bool.eq_false_iff.2 early) (congrArg Prod.fst found)
  all_goals cases stays

/-- How many rounds it can take until the queue is longer by one. -/
def roundsFor : Received ApplicationEvent → Nat
  | .lagged _ => 2
  | _ => 1

theorem roundsFor_le (found : Received ApplicationEvent) : roundsFor found ≤ 2 := by
  cases found <;> simp [roundsFor]

theorem roundsFor_pos (found : Received ApplicationEvent) : 0 < roundsFor found := by
  cases found <;> simp [roundsFor]

-- A gap is followed by what was kept behind it.
theorem roundsFor_of_lagged {h : Host} {stream : SubscriptionRef} {missed : Nat}
    (lagged : (h.receive stream).1 = .lagged missed) :
    roundsFor ((h.receive stream).2.receive stream).1 = 1 := by
  cases again : ((h.receive stream).2.receive stream).1 with
  | lagged other => exact absurd again (Host.receive_of_lagged lagged other)
  | _ => rfl

/-- How many rounds there can be until the stream waits. -/
def roundsLeft (s : OpenStream) (h : Host) : Nat :=
  if s.stream.release.isLooking then
    2 * (EventStream.queueCapacity - s.stream.release.queue.length) +
      roundsFor (h.receive s.subscription).1
  else 0

theorem roundsLeft_le (s : OpenStream) (h : Host) :
    s.roundsLeft h ≤ 2 * (EventStream.queueCapacity - s.stream.release.queue.length) + 2 := by
  have most := roundsFor_le (h.receive s.subscription).1
  unfold roundsLeft
  split <;> omega

theorem roundsLeft_of_idle (idle : s.stream.release.isLooking = false) (h : Host) :
    s.roundsLeft h = 0 := by
  rw [roundsLeft, idle, if_neg Bool.false_ne_true]

theorem roundsLeft_put {stream : EventStream} (free : stream.held = none) (u : StreamUpdate)
    (subscription : SubscriptionRef) (h : Host) :
    roundsLeft ⟨stream.put u, subscription⟩ h ≤
      2 * (EventStream.queueCapacity - stream.queue.length) := by
  cases full : stream.isFull with
  | true =>
    have stuck : (stream.put u).release.isLooking = false := by
      rw [EventStream.put, full, if_pos rfl, EventStream.release_eq]
      have still : EventStream.isFull { stream with held := some u } = true := full
      simp [EventStream.isLooking, still]
    rw [roundsLeft_of_idle stuck]
    exact Nat.zero_le _
  | false =>
    have room : stream.queue.length < EventStream.queueCapacity := by
      simpa [EventStream.isFull] using full
    have put : (stream.put u).release.queue.length = stream.queue.length + 1 := by
      have released : (stream.put u).release = stream.put u :=
        EventStream.release_of_free (by rw [EventStream.put, full]; exact free)
      rw [released, EventStream.put, full, if_neg Bool.false_ne_true]
      exact List.length_append
    have most := roundsLeft_le ⟨stream.put u, subscription⟩ h
    dsimp only at most
    omega

theorem roundsLeft_step (goes : s.step now h = some (after, left)) :
    after.roundsLeft left < s.roundsLeft h := by
  have some := roundsFor_pos (h.receive s.subscription).1
  simp only [step] at goes
  unfold roundsLeft
  generalize s.stream.release = stream at goes ⊢
  cases looking : stream.isLooking with
  | false =>
    rw [looking] at goes
    cases goes
  | true =>
    have free : stream.held = none := ((EventStream.isLooking_iff _).1 looking).1
    rw [looking, Bool.not_true, if_neg Bool.false_ne_true] at goes
    rw [if_pos rfl]
    change after.roundsLeft left < _
    split at goes
    · cases goes
      have most : roundsLeft ⟨stream.beat now, s.subscription⟩ h ≤
          2 * (EventStream.queueCapacity - stream.queue.length) := by
        rw [stream.beat_eq]
        have held : ({ stream with due := (stream.beat now).due } : EventStream).held = none := free
        exact roundsLeft_put held .heartbeat s.subscription h
      omega
    · rcases found : h.receive s.subscription with ⟨event | missed | _ | _, host⟩ <;>
        rw [found] at goes some <;> cases goes
      · exact Nat.lt_of_le_of_lt (roundsLeft_put free _ _ _) (by omega)
      · have next := roundsFor_of_lagged (congrArg Prod.fst found)
        rw [found] at next
        have same : stream.release = stream := EventStream.release_of_free free
        simp only [roundsLeft, EventStream.accept, same, looking, if_true, next]
        exact Nat.lt_succ_self _
      · have idle : ({ stream with hasEnded := true } : EventStream).release.isLooking = false := by
          have same : ({ stream with hasEnded := true } : EventStream).release = _ :=
            EventStream.release_of_free free
          rw [same]
          exact EventStream.isLooking_of_hasEnded rfl
        rw [roundsLeft_of_idle idle]
        omega

theorem waits_steps {rounds : Nat} (enough : s.roundsLeft h < rounds) :
    Waits now (steps now rounds s h).1 (steps now rounds s h).2 := by
  induction rounds generalizing s h with
  | zero => cases enough
  | succ rounds ih =>
    rw [steps]
    cases goes : s.step now h with
    | none => exact waits_of_step goes
    | some next => exact ih (Nat.lt_of_lt_of_le (roundsLeft_step goes) (Nat.le_of_lt_succ enough))

/-- A stream that was given its turns waits for its client, for time or for events. -/
theorem waits_settle (now : Nat) (s : OpenStream) (h : Host) :
    Waits now (s.settle now h).1 (s.settle now h).2 := by
  refine waits_steps (Nat.lt_of_le_of_lt (roundsLeft_le s h) ?_)
  omega

end OpenStream

namespace Forwarding

theorem send_ofOpen (s : OpenStream) (h : Host) :
    (ofOpen s h).step .send = ofOpen { s with stream := s.stream.release } h := rfl

theorem send_hold {s : OpenStream} (free : s.stream.held = none) (h : Host) (u : StreamUpdate) :
    ((ofOpen s h).hold u).step .send = ofOpen { s with stream := s.stream.put u } h := by
  rw [EventStream.put_eq_release free]
  rfl

/-- Moves lead from one stream and host to another, and the client takes these updates meanwhile. -/
def Leads (moves : List ForwardingMove) (s : OpenStream) (h : Host) (taken : List StreamUpdate)
    (after : OpenStream) (left : Host) : Prop :=
  (ofOpen s h).run moves = ofOpen after left ∧ (ofOpen s h).seen taken? moves = taken

theorem Leads.append {moves later : List ForwardingMove} {s between after : OpenStream}
    {h midway left : Host} {taken rest : List StreamUpdate}
    (leads : Leads moves s h taken between midway)
    (goesOn : Leads later between midway rest after left) :
    Leads (moves ++ later) s h (taken ++ rest) after left := by
  refine ⟨?_, ?_⟩
  · rw [run_append, leads.1, goesOn.1]
  · rw [seen_append, leads.1, leads.2, goesOn.2]

/-- The moves of one round of the stream that runs: it sends what is held, turns to a heartbeat if one
is due and else to its subscription, and sends what it got. -/
def roundMoves (now : Nat) (s : OpenStream) : List ForwardingMove :=
  [.send, if s.stream.isDue now then .beat now else .receive, .send]

theorem leads_step {now : Nat} {s after : OpenStream} {h left : Host}
    (goes : s.step now h = some (after, left)) : Leads (roundMoves now s) s h [] after left := by
  have sameDue : s.stream.release.isDue now = s.stream.isDue now := by
    rw [EventStream.release_eq]
    rfl
  simp only [OpenStream.step] at goes
  rw [roundMoves, ← sameDue]
  suffices round : (ofOpen s h).run [.send, if s.stream.release.isDue now then .beat now else
      .receive, .send] = ofOpen after left by
    refine ⟨round, ?_⟩
    split <;> rfl
  simp only [run_cons, run_nil, send_ofOpen]
  generalize s.stream.release = stream at goes ⊢
  cases looking : stream.isLooking with
  | false =>
    rw [looking] at goes
    cases goes
  | true =>
    have free : stream.held = none := ((EventStream.isLooking_iff _).1 looking).1
    rw [looking, Bool.not_true, if_neg Bool.false_ne_true] at goes
    cases due : stream.isDue now with
    | true =>
      rw [due, if_pos rfl] at goes
      cases goes
      have chosen : (ofOpen { s with stream } h).step (.beat now) =
          (ofOpen { s with stream := { stream with due := (stream.beat now).due } } h).hold
            .heartbeat := by
        simp only [ofOpen, step, looking, due, Bool.and_self, if_true]
      rw [if_pos rfl, chosen, send_hold free, ← stream.beat_eq]
    | false =>
      rw [due, if_neg Bool.false_ne_true] at goes
      rw [if_neg Bool.false_ne_true]
      rcases found : h.receive s.subscription with ⟨event | missed | _ | _, host⟩
      · rw [found] at goes
        cases goes
        have chosen : (ofOpen { s with stream } h).step .receive =
            (ofOpen { s with stream } left).hold (.event event) := by
          simp only [ofOpen, step, looking, found, if_true]
        rw [chosen, send_hold free]
        rfl
      · rw [found] at goes
        cases goes
        have chosen : (ofOpen { s with stream } h).step .receive = ofOpen { s with stream } left := by
          simp only [ofOpen, step, looking, found, if_true]
        rw [chosen, send_ofOpen, EventStream.release_of_free free]
        rfl
      · rw [found] at goes
        cases goes
      · rw [found] at goes
        cases goes
        have chosen : (ofOpen { s with stream } h).step .receive =
            (ofOpen { s with stream } host).finish := by
          simp only [ofOpen, step, looking, found, if_true]
        rw [chosen]
        simp [ofOpen, finish, step, EventStream.accept, EventStream.release, free]

theorem leads_steps {now rounds : Nat} {s after : OpenStream} {h left : Host}
    (goes : OpenStream.steps now rounds s h = (after, left)) :
    ∃ moves, Leads moves s h [] after left := by
  induction rounds generalizing s h with
  | zero =>
    cases goes
    exact ⟨[], rfl, rfl⟩
  | succ rounds ih =>
    rw [OpenStream.steps] at goes
    split at goes
    · rename_i between midway now
      obtain ⟨later, rest⟩ := ih goes
      exact ⟨_, (leads_step now).append rest⟩
    · cases goes
      exact ⟨[.send], send_ofOpen .., rfl⟩

theorem leads_take {s : OpenStream} {stream : EventStream} {u : StreamUpdate}
    (took : s.stream.take = (.update u, stream)) (h : Host) :
    Leads [.take] s h [u] { s with stream } h := by
  refine ⟨?_, ?_⟩
  · simp [ofOpen, step, took]
  · simp [seen, ofOpen, taken?, EventStream.head?_of_take took]

/-- What the client takes of the stream that runs, it takes by moves of this kind, and the stream goes
on until it waits again. -/
theorem leads_takeUpTo {now rounds : Nat} {s after : OpenStream} {h left : Host}
    {taken : List Taken} (takes : OpenStream.takeUpTo now rounds s h = (taken, after, left)) :
    (∃ moves, Leads moves s h (taken.filterMap Taken.update?) after left) ∧
      (s.Waits now h → after.Waits now left) := by
  induction rounds generalizing s h taken with
  | zero =>
    cases takes
    exact ⟨⟨[], rfl, rfl⟩, id⟩
  | succ rounds ih =>
    rw [OpenStream.takeUpTo] at takes
    rcases took : s.stream.take with ⟨u | _ | _, stream⟩
    · rw [took] at takes
      rcases settled : OpenStream.settle now { s with stream } h with ⟨between, midway⟩
      rcases more : OpenStream.takeUpTo now rounds between midway with ⟨rest, last, final⟩
      simp only [settled, more] at takes
      cases takes
      obtain ⟨moves, settles⟩ := leads_steps settled
      have waitsAgain := OpenStream.waits_settle now { s with stream } h
      rw [settled] at waitsAgain
      obtain ⟨⟨later, goesOn⟩, still⟩ := ih more
      exact ⟨⟨_, ((leads_take took h).append settles).append goesOn⟩, fun _ => still waitsAgain⟩
    · rw [took] at takes
      cases takes
      exact ⟨⟨[], rfl, rfl⟩, id⟩
    · rw [took] at takes
      cases takes
      exact ⟨⟨[], rfl, rfl⟩, id⟩

theorem leads_openStream {h : Host} {interval now : Nat} {page : PageRef}
    {opened : OpenStream} {left : Host}
    (opens : h.openStream interval now page = (.ok opened, left)) :
    ∃ subscription made, h.subscribe page = (.ok subscription, made) ∧
      opened.Waits now left ∧
      ∃ moves, Leads moves ⟨.start (max interval EventStream.minInterval) now, subscription⟩ made []
        opened left := by
  unfold Host.openStream at opens
  split at opens
  · cases opens
  · rename_i subscription made subscribed
    rcases settled : OpenStream.settle now
      ⟨.start (max interval EventStream.minInterval) now, subscription⟩ made with ⟨s, after⟩
    simp only [settled] at opens
    cases opens
    have waits := OpenStream.waits_settle now
      ⟨.start (max interval EventStream.minInterval) now, subscription⟩ made
    rw [settled] at waits
    exact ⟨subscription, made, subscribed, waits, leads_steps settled⟩

end AppHost.Forwarding
