import AppHost.Wire.Message
import AppHost.Proofs.Stream.Rounds

/-!
What comes to a client in every order of the moves. The events that are received are put on its
queue, each of them once and in their order, until the page is closed or the client is gone.
-/

set_option autoImplicit false
namespace AppHost.Forwarding
variable {s : Forwarding}

/-! ### What is sent -/

theorem looking_of_found {found : Received ApplicationEvent}
    (here : s.found? .receive = some found) : s.stream.isLooking = true ∧ found ≠ .pending := by
  cases looking : s.stream.isLooking with
  | false => simp [found?, looking] at here
  | true =>
    refine ⟨rfl, ?_⟩
    rintro rfl
    simp only [found?, looking, if_true] at here
    split at here <;> simp_all

theorem chosen_step (s : Forwarding) (move : ForwardingMove) :
    s.stream.held.toList ++ (s.chosen? move).toList =
      (s.put? move).toList ++ (s.failed? move).toList ++ (s.step move).stream.held.toList := by
  cases move with
  | beat now =>
    cases turns : s.stream.isLooking && s.stream.isDue now with
    | false => simp [chosen?, put?, failed?, step, turns]
    | true =>
      have free := ((EventStream.isLooking_iff _).1 (Bool.and_eq_true_iff.1 turns).1).1
      simp [chosen?, put?, failed?, step, hold, turns, free]
  | receive =>
    rw [stream_step_receive]
    cases here : s.found? .receive with
    | none => simp [chosen?, put?, failed?, here]
    | some found =>
      have free := ((EventStream.isLooking_iff _).1 (looking_of_found here).1).1
      cases found <;> simp [chosen?, put?, failed?, here, free]
  | notice =>
    cases turns : s.stream.isLooking && s.isGone with
    | false => simp [chosen?, found?, put?, failed?, step, turns]
    | true =>
      have free := ((EventStream.isLooking_iff _).1 (Bool.and_eq_true_iff.1 turns).1).1
      simp [chosen?, found?, put?, failed?, step, finish, turns, free]
  | send =>
    cases gone : s.isGone with
    | true =>
      cases held : s.stream.held <;> simp [chosen?, found?, put?, failed?, step, finish, gone, held]
    | false =>
      cases full : s.stream.isFull <;>
        simp [chosen?, found?, put?, failed?, step, gone, EventStream.release_eq, full]
  | take =>
    cases gone : s.isGone <;>
      simp [chosen?, found?, put?, failed?, step, gone, EventStream.take_eq]
  | leave | meanwhile => simp [chosen?, found?, put?, failed?, step]

theorem over_of_failed {move : ForwardingMove} {u : StreamUpdate}
    (failed : s.failed? move = some u) : s.isGone = true ∧ (s.step move).stream.Over := by
  cases move with
  | send =>
    obtain ⟨gone, held⟩ : s.isGone = true ∧ s.stream.held = some u := by
      simpa [failed?] using failed
    refine ⟨gone, ?_⟩
    simp only [step, gone, held, Option.isSome_some, if_true]
    exact over_finish s
  | _ => cases failed

/-- All that the task has got is sent, in this order, but for the last: that may be kept still, or
the client went away before it was sent. -/
theorem chosen_run (s : Forwarding) (moves : List ForwardingMove) :
    ∃ unsent : Option StreamUpdate,
      s.stream.held.toList ++ s.seen chosen? moves = s.seen put? moves ++ unsent.toList ∧
      (unsent = (s.run moves).stream.held ∨
        ((s.run moves).isGone = true ∧ (s.run moves).stream.hasEnded = true)) := by
  induction moves generalizing s with
  | nil => exact ⟨s.stream.held, by simp [seen], .inl rfl⟩
  | cons move rest ih =>
    have now := chosen_step s move
    cases failed : s.failed? move with
    | none =>
      obtain ⟨unsent, later, kept⟩ := ih (s.step move)
      refine ⟨unsent, ?_, kept⟩
      rw [failed, Option.toList_none, List.append_nil] at now
      rw [seen, seen, ← List.append_assoc, now, List.append_assoc, later, List.append_assoc]
    | some u =>
      obtain ⟨gone, done⟩ := over_of_failed failed
      have leaves : (s.step move).isGone = true := isGone_step_of_isGone gone move
      refine ⟨some u, ?_, .inr ⟨isGone_run_of_isGone leaves rest, (over_run done rest).ended⟩⟩
      rw [failed, put?_of_isGone gone, done.free] at now
      obtain ⟨-, chosenLater, putLater⟩ := nothing_of_over done rest
      rw [seen, seen, ← List.append_assoc, now, put?_of_isGone gone, chosenLater, putLater]
      rfl

/-- What has been got from the subscription, and nothing else, is what events there are among all
that the task has got. -/
theorem events_chosen (s : Forwarding) (moves : List ForwardingMove) :
    (s.seen chosen? moves).filterMap StreamUpdate.event? =
      (s.seen found? moves).filterMap Received.message? := by
  rw [filterMap_seen, filterMap_seen]
  congr 1
  funext s move
  cases move with
  | beat now =>
    cases turns : s.stream.isLooking && s.stream.isDue now <;>
      simp [chosen?, found?, turns, StreamUpdate.event?]
  | receive =>
    cases here : s.found? .receive with
    | none => simp [chosen?, here]
    | some found => cases found <;> simp [chosen?, here, StreamUpdate.event?, Received.message?]
  | _ => rfl

/-! ### What the client has of it -/

/-- While the client is there, what is put and not taken yet waits in the queue. -/
theorem taken_step (s : Forwarding) (move : ForwardingMove) :
    ∃ lost : List StreamUpdate,
      s.stream.queue ++ (s.put? move).toList =
        (s.taken? move).toList ++ (s.step move).stream.queue ++ lost ∧
      ((s.step move).isGone = false → lost = []) := by
  cases move with
  | leave => exact ⟨s.stream.queue, by simp [put?, taken?, step], fun there => by cases there⟩
  | beat now =>
    refine ⟨[], ?_, fun _ => rfl⟩
    simp only [put?, taken?, step]
    split <;> simp [hold]
  | receive =>
    refine ⟨[], ?_, fun _ => rfl⟩
    rw [stream_step_receive]
    split <;> simp [put?, taken?]
  | notice =>
    refine ⟨[], ?_, fun _ => rfl⟩
    simp only [put?, taken?, step]
    split <;> simp [finish]
  | send =>
    refine ⟨[], ?_, fun _ => rfl⟩
    cases gone : s.isGone with
    | true => cases held : s.stream.held <;> simp [put?, taken?, step, finish, gone, held]
    | false => simp [put?, taken?, step, gone, EventStream.release_eq]
  | take =>
    refine ⟨[], ?_, fun _ => rfl⟩
    cases gone : s.isGone with
    | true => simp [put?, taken?, step, gone]
    | false => cases queue : s.stream.queue <;>
        simp [put?, taken?, step, gone, EventStream.take_eq, queue]
  | meanwhile => exact ⟨[], by simp [put?, taken?, step], fun _ => rfl⟩

theorem taken_run (s : Forwarding) (moves : List ForwardingMove) :
    ∃ lost : List StreamUpdate,
      s.stream.queue ++ s.seen put? moves =
        s.seen taken? moves ++ (s.run moves).stream.queue ++ lost ∧
      ((s.run moves).isGone = false → lost = []) := by
  induction moves generalizing s with
  | nil => exact ⟨[], by simp [seen], fun _ => rfl⟩
  | cons move rest ih =>
    obtain ⟨lostNow, now, whileThere⟩ := taken_step s move
    obtain ⟨lostLater, later, stillThere⟩ := ih (s.step move)
    cases gone : (s.step move).isGone with
    | false =>
      rw [whileThere gone, List.append_nil] at now
      refine ⟨lostLater, ?_, stillThere⟩
      rw [seen, seen, ← List.append_assoc, now, List.append_assoc, later]
      simp only [List.append_assoc, run_cons]
    | true =>
      have putLater := puts_of_isGone gone rest
      have takenLater := takes_of_isGone gone rest
      have still : ((s.step move).run rest).isGone = true := isGone_run_of_isGone gone rest
      rw [putLater, takenLater, List.append_nil, List.nil_append] at later
      refine ⟨lostLater ++ lostNow, ?_, fun there => by cases still.symm.trans there⟩
      rw [seen, seen, putLater, takenLater, List.append_nil, List.append_nil, now, later]
      simp only [List.append_assoc, run_cons]

theorem room_of_put {move : ForwardingMove} {u : StreamUpdate} (put : s.put? move = some u) :
    s.stream.queue.length < EventStream.queueCapacity := by
  cases move with
  | send =>
    simp only [put?] at put
    split at put
    · cases put
    · rename_i room
      simpa [EventStream.isFull] using mt (Bool.or_eq_true_iff.2 ∘ .inr) room
  | _ => cases put

theorem length_queue_step (within : s.stream.queue.length ≤ EventStream.queueCapacity)
    (move : ForwardingMove) : (s.step move).stream.queue.length ≤ EventStream.queueCapacity := by
  obtain ⟨lost, same, -⟩ := taken_step s move
  have lengths := congrArg List.length same
  simp only [List.length_append] at lengths
  cases put : s.put? move with
  | none =>
    rw [put, Option.toList_none, List.length_nil] at lengths
    omega
  | some u =>
    have room := room_of_put put
    rw [put, Option.toList_some, List.length_singleton] at lengths
    omega

theorem length_queue_run (within : s.stream.queue.length ≤ EventStream.queueCapacity)
    (moves : List ForwardingMove) :
    (s.run moves).stream.queue.length ≤ EventStream.queueCapacity := by
  induction moves generalizing s with
  | nil => exact within
  | cons move rest ih => exact ih (length_queue_step within move)

/-! ### Why the task ends -/

theorem over_of_found_closed {move : ForwardingMove} (closed : s.found? move = some .closed) :
    (s.step move).stream.Over := by
  cases move with
  | receive =>
    rw [stream_step_receive, closed]
    exact ⟨rfl, rfl⟩
  | _ => cases closed

theorem over_of_closed_mem {moves : List ForwardingMove} (closed : .closed ∈ s.seen found? moves) :
    (s.run moves).stream.Over := by
  induction moves generalizing s with
  | nil => cases closed
  | cons move rest ih =>
    rcases List.mem_append.1 closed with now | later
    · exact over_run (over_of_found_closed (Option.mem_toList.1 now)) rest
    · exact ih later

/-- The task ends when it finds its page closed, or when the client is gone; then it is over. -/
theorem ended_step (goesOn : s.stream.hasEnded = false) {move : ForwardingMove}
    (ended : (s.step move).stream.hasEnded = true) :
    (s.step move).stream.Over ∧ (s.found? move = some .closed ∨ s.isGone = true) := by
  cases move with
  | beat now =>
    simp only [step] at ended
    split at ended <;> cases goesOn.symm.trans ended
  | receive =>
    cases here : s.found? .receive with
    | none =>
      rw [stream_step_receive, here] at ended
      cases goesOn.symm.trans ended
    | some found =>
      cases found with
      | closed => exact ⟨over_of_found_closed here, .inl rfl⟩
      | _ =>
        rw [stream_step_receive, here] at ended
        cases goesOn.symm.trans ended
  | notice =>
    simp only [step] at ended ⊢
    split at ended
    · rename_i turns
      rw [if_pos turns]
      exact ⟨over_finish s, .inr (Bool.and_eq_true_iff.1 turns).2⟩
    · cases goesOn.symm.trans ended
  | send =>
    simp only [step] at ended ⊢
    split at ended
    · rename_i gone
      split at ended
      · rename_i held
        rw [if_pos gone, if_pos held]
        exact ⟨over_finish s, .inr gone⟩
      · cases goesOn.symm.trans ended
    · rw [EventStream.release_eq] at ended
      cases goesOn.symm.trans ended
  | take =>
    simp only [step, EventStream.take_eq] at ended
    split at ended <;> cases goesOn.symm.trans ended
  | leave | meanwhile => cases goesOn.symm.trans ended

theorem ended_run (goesOn : s.stream.hasEnded = false) {moves : List ForwardingMove}
    (ended : (s.run moves).stream.hasEnded = true) :
    (s.run moves).stream.Over ∧
      (.closed ∈ s.seen found? moves ∨ (s.run moves).isGone = true) := by
  induction moves generalizing s with
  | nil => cases goesOn.symm.trans ended
  | cons move rest ih =>
    cases now : (s.step move).stream.hasEnded with
    | false =>
      obtain ⟨done, why⟩ := ih now ended
      exact ⟨done, why.imp_left fun closed => List.mem_append_right _ closed⟩
    | true =>
      obtain ⟨done, why⟩ := ended_step goesOn now
      refine ⟨over_run done rest, why.imp (fun closed => ?_) fun gone => ?_⟩
      · exact List.mem_append_left _ (Option.mem_toList.2 closed)
      · exact isGone_run_of_isGone (isGone_step_of_isGone gone move) rest

/-! ### When the client is gone -/

def turnsLeft (s : Forwarding) : Nat :=
  if s.stream.held.isSome then 1 else if s.stream.hasEnded then 0 else 2

theorem turnsLeft_le (s : Forwarding) : s.turnsLeft ≤ 2 := by
  unfold turnsLeft
  split
  · decide
  · split <;> decide

theorem turnsLeft_of_over (done : s.stream.Over) : s.turnsLeft = 0 := by
  simp [turnsLeft, done.free, done.ended]

theorem turnsLeft_of_held {u : StreamUpdate} (held : s.stream.held = some u) : s.turnsLeft = 1 := by
  simp [turnsLeft, held]

theorem turnsLeft_of_isLooking (looking : s.stream.isLooking = true) : s.turnsLeft = 2 := by
  obtain ⟨free, goesOn⟩ := (EventStream.isLooking_iff _).1 looking
  simp [turnsLeft, free, goesOn]

theorem turnsLeft_congr {other : Forwarding} (held : other.stream.held = s.stream.held)
    (ended : other.stream.hasEnded = s.stream.hasEnded) : other.turnsLeft = s.turnsLeft := by
  simp only [turnsLeft, held, ended]

/-- Every turn brings the end nearer, but for one in which the task is told of a gap. -/
theorem turnsLeft_step (gone : s.isGone = true) (move : ForwardingMove) :
    (s.step move).turnsLeft + (s.turn? move).toList.length ≤
      s.turnsLeft + ((s.found? move).bind Received.missed?).toList.length := by
  cases move with
  | beat now =>
    cases turns : s.stream.isLooking && s.stream.isDue now with
    | false => simp [turn?, step, turns]
    | true =>
      have before := turnsLeft_of_isLooking (Bool.and_eq_true_iff.1 turns).1
      have after : (s.step (.beat now)).turnsLeft = 1 := by
        simp [step, turns, hold, turnsLeft]
      simp [turn?, turns, before, after]
  | receive =>
    cases here : s.found? .receive with
    | none =>
      have same : (s.step .receive).stream = s.stream := by rw [stream_step_receive, here]
      have after : (s.step .receive).turnsLeft = s.turnsLeft :=
        turnsLeft_congr (congrArg _ same) (congrArg _ same)
      simp [turn?, here, after]
    | some found =>
      obtain ⟨looking, given⟩ := looking_of_found here
      have before := turnsLeft_of_isLooking looking
      cases found with
      | message event =>
        have held : (s.step .receive).stream.held = some (.event event) := by
          rw [stream_step_receive, here]
        simp [turn?, here, before, turnsLeft_of_held held]
      | lagged missed =>
        have same : (s.step .receive).stream = s.stream := by rw [stream_step_receive, here]
        have after : (s.step .receive).turnsLeft = s.turnsLeft :=
          turnsLeft_congr (congrArg _ same) (congrArg _ same)
        simp [turn?, here, after, Received.missed?]
      | pending => exact absurd rfl given
      | closed =>
        have after : (s.step .receive).turnsLeft = 0 :=
          turnsLeft_of_over (over_of_found_closed here)
        simp only [turn?, here, before, after, Option.map_some, Option.toList_some,
          List.length_singleton]
        omega
  | notice =>
    cases turns : s.stream.isLooking && s.isGone with
    | false => simp [turn?, step, turns]
    | true =>
      have before := turnsLeft_of_isLooking (Bool.and_eq_true_iff.1 turns).1
      have after : (s.step .notice).turnsLeft = 0 := by
        simp only [step, turns, if_true]
        exact turnsLeft_of_over (over_finish s)
      simp [turn?, found?, turns, before, after]
  | send =>
    cases held : s.stream.held with
    | none => simp [turn?, step, gone, held]
    | some u =>
      have after : (s.step .send).turnsLeft = 0 := by
        simp only [step, gone, held, Option.isSome_some, if_true]
        exact turnsLeft_of_over (over_finish s)
      simp [turn?, held, gone, after, turnsLeft_of_held held]
  | take => simp [turn?, step, gone]
  | leave | meanwhile => exact Nat.le_add_right _ _

theorem turns_run (gone : s.isGone = true) (moves : List ForwardingMove) :
    (s.run moves).turnsLeft + (s.seen turn? moves).length ≤
      s.turnsLeft + ((s.seen found? moves).filterMap Received.missed?).length := by
  rw [filterMap_seen]
  induction moves generalizing s with
  | nil => exact Nat.le_refl _
  | cons move rest ih =>
    have now := turnsLeft_step gone move
    have later := ih (isGone_step_of_isGone gone move)
    simp only [seen, List.length_append, run_cons]
    omega

theorem turn_of_isGone (gone : s.isGone = true) (goesOn : s.stream.hasEnded = false) :
    ∃ move, s.turn? move = some move := by
  cases held : s.stream.held with
  | none =>
    have looking := (EventStream.isLooking_iff _).2 ⟨held, goesOn⟩
    exact ⟨.notice, by simp [turn?, looking, gone]⟩
  | some u => exact ⟨.send, by simp [turn?, held, gone]⟩

/-! ### Every schedule -/

/-- What a client gets from a task that forwards to it, in one order of the moves. -/
structure Forwards (s : Forwarding) (moves : List ForwardingMove) : Prop where
  sent : ∃ unsent : Option StreamUpdate,
    s.seen chosen? moves = s.seen put? moves ++ unsent.toList ∧
    (s.seen found? moves).filterMap Received.message? =
      (s.seen put? moves ++ unsent.toList).filterMap StreamUpdate.event? ∧
    (unsent = (s.run moves).stream.held ∨
      (s.run moves).isGone = true ∧ (s.run moves).stream.hasEnded = true)
  taken : ∃ lost : List StreamUpdate,
    s.seen put? moves = s.seen taken? moves ++ (s.run moves).stream.queue ++ lost ∧
    ((s.run moves).isGone = false → lost = [])
  converts : ∀ u ∈ s.seen put? moves,
    Wire.Kind.streamUpdate.accept (Wire.Kind.streamUpdate.present u) = .ok u
  short : (s.run moves).stream.queue.length ≤ 16
  gap : ∀ missed, (s.run moves).found? .receive = some (.lagged missed) →
    ((s.run moves).step .receive).stream = (s.run moves).stream
  closed : .closed ∈ s.seen found? moves → (s.run moves).stream.hasEnded = true
  ended : (s.run moves).stream.hasEnded = true →
    (.closed ∈ s.seen found? moves ∨ (s.run moves).isGone = true) ∧
    ∀ later, (s.run moves).seen found? later = [] ∧ (s.run moves).seen put? later = [] ∧
      ((s.run moves).run later).stream.hasEnded = true
  gone : (s.run moves).isGone = true →
    (∀ later, (s.run moves).seen put? later = [] ∧
      ((s.run moves).seen turn? later).length ≤
        2 + (((s.run moves).seen found? later).filterMap Received.missed?).length) ∧
    ((s.run moves).stream.hasEnded = false → ∃ move, (s.run moves).turn? move = some move)

/-- The forwarding of one stream to its client, from its beginning and in any order of the moves.
The events that the task receives are put on the client's queue, each of them once and in their
order, with nothing but heartbeats between them; only the last may not be there yet, or be lost when
the client goes away. The client takes what was put, and what it has not taken waits in the queue,
which stays short. A gap changes nothing. The task ends when it finds its page closed, or when the
client is gone; after that it neither receives nor puts anything. Once the client is gone nothing is
put, and until the task has ended, which takes two turns at most and the gaps it is told of, there is
a turn that it can take.

The stream that runs goes by such moves, from when it is opened and while the client takes from it.
In each round it turns to a heartbeat that is due, or else receives, and it has rounds until it waits:
for a place in the queue, for a heartbeat or an event to come, or because it has ended. -/
theorem forwarding (interval now : Nat) (subscription : SubscriptionRef) (host : Host)
    (moves : List ForwardingMove) :
    (start interval now subscription host).Forwards moves ∧
      (∀ page opened left, host.openStream interval now page = (.ok opened, left) →
        ∃ stream made, host.subscribe page = (.ok stream, made) ∧ opened.Waits now left ∧
          ∃ moves, Leads moves ⟨.start (max interval EventStream.minInterval) now, stream⟩ made []
            opened left) ∧
      (∀ (opened : OpenStream) after left, opened.step now host = some (after, left) →
        Leads (roundMoves now opened) opened host [] after left) ∧
      ∀ (opened : OpenStream),
        (opened.settle now host).1.Waits now (opened.settle now host).2 ∧
        ∀ rounds taken after left,
          OpenStream.takeUpTo now rounds opened host = (taken, after, left) →
          (∃ moves, Leads moves opened host (taken.filterMap Taken.update?) after left) ∧
            (opened.Waits now host → after.Waits now left) := by
  refine ⟨?_, fun _ _ _ => leads_openStream, fun _ _ _ => leads_step, fun opened =>
    ⟨opened.waits_settle now host, fun _ _ _ _ takes => leads_takeUpTo takes⟩⟩
  generalize begins : start interval now subscription host = s
  have goesOn : s.stream.hasEnded = false := by rw [← begins]; rfl
  have empty : s.stream.queue = [] := by rw [← begins]; rfl
  have free : s.stream.held = none := by rw [← begins]; rfl
  constructor
  case sent =>
    obtain ⟨unsent, chosen, kept⟩ := chosen_run s moves
    rw [free, Option.toList_none, List.nil_append] at chosen
    exact ⟨unsent, chosen, by rw [← chosen, events_chosen], kept⟩
  case taken =>
    obtain ⟨lost, put, there⟩ := taken_run s moves
    rw [empty, List.nil_append] at put
    exact ⟨lost, put, there⟩
  case converts => exact fun u _ => Wire.Update.stream_ofStream u
  case short =>
    apply length_queue_run
    rw [empty]
    exact Nat.zero_le _
  case gap =>
    intro missed lagged
    rw [stream_step_receive, lagged]
  case closed => exact fun closed => (over_of_closed_mem closed).ended
  case ended =>
    intro ended
    obtain ⟨done, why⟩ := ended_run goesOn ended
    refine ⟨why, fun later => ?_⟩
    obtain ⟨found, -, put⟩ := nothing_of_over done later
    exact ⟨found, put, (over_run done later).ended⟩
  case gone =>
    intro gone
    refine ⟨fun later => ⟨puts_of_isGone gone later, ?_⟩, turn_of_isGone gone⟩
    have turns := turns_run gone later
    have most := (s.run moves).turnsLeft_le
    omega

/-- The client goes away after it took an update, while the next event is waiting to be sent. -/
theorem forwarding_to_leaving_client :
    let now : Moment := ⟨⟨0, 0, by decide⟩, 0⟩
    let page : PageRef := ⟨"app", "p"⟩
    let handler : Handler := ⟨fun _ _ _ => .done (.ok .null), Handler.ignoreEvent⟩
    let host := (Host.new .default).run [
      (now, .launchWith ⟨"app", none, [⟨"p", "p.html", "P"⟩]⟩ handler), (now, .subscribe page)]
    let emit := fun name => ForwardingMove.meanwhile now (.emitToPage page ⟨name, []⟩)
    let moves := [.beat 0, .send, emit "1", emit "2", .receive, .send, .take, .receive, .leave,
      .send]
    let s := start 5000 0 ⟨⟨"app", 0⟩, 0⟩ host
    let t := s.run moves
    s.seen found? moves = [.message ⟨"1", []⟩, .message ⟨"2", []⟩] ∧
      s.seen put? moves = [.heartbeat, .event ⟨"1", []⟩] ∧
      s.seen taken? moves = [.heartbeat] ∧
      t.isGone = true ∧ t.stream.hasEnded = true ∧ ∀ later, t.seen put? later = [] := by
  intro now page handler host emit moves s t
  have ended : t.stream.hasEnded = true := by decide +kernel
  suffices quiet : ∀ later, t.seen put? later = [] from
    ⟨by decide +kernel, by decide +kernel, by decide +kernel, by decide +kernel, ended, quiet⟩
  clear_value moves host
  obtain ⟨forwards, -⟩ := forwarding 5000 0 ⟨⟨"app", 0⟩, 0⟩ host moves
  exact fun later => ((forwards.ended ended).2 later).2.1

end AppHost.Forwarding
