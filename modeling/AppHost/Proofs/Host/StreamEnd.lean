import AppHost.Proofs.Host.Closing

/-!
How streams end. When its page is unpublished or published anew, a stream still gives what was kept
for it, and nothing that is sent later; when its application is stopped it gives nothing more. What
is closed stays closed, and the streams of other pages and other applications go on as they were.
-/

set_option autoImplicit false
namespace AppHost

namespace Operation

def isReceiveOf (stream : SubscriptionRef) : Operation → Bool
  | .receive other => other = stream
  | _ => false

theorem isReceiveOf_iff (stream : SubscriptionRef) (op : Operation) :
    op.isReceiveOf stream = true ↔ op = .receive stream := by
  cases op <;> simp [isReceiveOf]

end Operation

def SubscriptionRef.uses (stream : SubscriptionRef) (operations : List (Moment × Operation)) : Nat :=
  operations.countP (·.2.isReceiveOf stream)

def untilStop (id : String) (operations : List (Moment × Operation)) : List (Moment × Operation) :=
  operations.takeWhile fun o => !o.2.stops id

namespace Host
variable {h : Host} {stream : SubscriptionRef} {s : Standing}

def receives (stream : SubscriptionRef) : Nat → Host → List (Received ApplicationEvent)
  | 0, _ => []
  | n + 1, h => (h.receive stream).1 :: receives stream n (h.receive stream).2

/-- What a stream gives in a run. -/
def found (stream : SubscriptionRef) : Host → List (Moment × Operation) →
    List (Received ApplicationEvent)
  | _, [] => []
  | h, (now, op) :: rest =>
    let later := found stream (h.perform now op) rest
    if op.isReceiveOf stream then (h.receive stream).1 :: later else later

theorem orderly_receive (orderly : h.Orderly) (stream : SubscriptionRef) :
    (h.receive stream).2.Orderly :=
  orderly_perform orderly ⟨⟨0, 0, by decide⟩, 0⟩ (.receive stream)

theorem receives_eq (orderly : h.Orderly) (present : h.standing? stream = some s) (n : Nat) :
    h.receives stream n =
      s.retained.take n ++ List.replicate (n - s.retained.length) s.last := by
  induction n generalizing h s with
  | zero => simp [receives]
  | succ n ih =>
    obtain ⟨answer, left⟩ := receive_eq orderly present
    obtain ⟨first, rest, same, -⟩ := s.read_retained
    have last : s.read.2.last = s.last := by rw [Standing.last, same, Standing.last]
    rw [receives, ih (orderly_receive orderly stream) left, answer, first, rest, last]
    cases s.retained with
    | nil => simp [List.replicate_succ]
    | cons next retained => simp

/-- What a closed stream gives in any run: what was kept for it, as far as it is received before its
application is stopped, then it is closed. -/
theorem found_of_closed (orderly : h.Orderly) (present : h.standing? stream = some s)
    (closed : s.isOpen = false) {later : List (Moment × Operation)}
    (kept : ∀ o ∈ later, o.2 ≠ .unsubscribe stream) :
    h.found stream later =
      let given := s.retained.take
        (stream.uses (untilStop stream.target.applicationId later))
      given ++ List.replicate (stream.uses later - given.length) .closed := by
  -- What is kept gets less with each use and is gone with a stop; nothing else changes the stream.
  induction later generalizing h s with
  | nil => simp [found, SubscriptionRef.uses, untilStop]
  | cons o rest ih =>
    obtain ⟨now, op⟩ := o
    obtain ⟨keptNow, keptLater⟩ := List.forall_mem_cons.1 kept
    have orderlyNext := orderly_perform orderly now op
    cases stops : op.stops stream.target.applicationId with
    | true =>
      have next := standing?_perform_of_stops orderly present now stops
      have later := ih orderlyNext next rfl keptLater
      have other : op.isReceiveOf stream = false := by
        cases op with
        | receive stream => cases stops
        | _ => rfl
      simpa [found, SubscriptionRef.uses, untilStop, stops, other, Standing.retained_ended]
        using later
    | false =>
      rcases standing?_perform_cases orderly present now keptNow stops with
        ⟨own, next⟩ | ⟨other, after, next, -, same⟩
      · obtain ⟨first, tail, stays, -⟩ := s.read_retained
        have later := ih orderlyNext next (stays.trans closed) keptLater
        have receives : op.isReceiveOf stream = true := (op.isReceiveOf_iff stream).2 own
        have last : s.last = .closed := by simp [Standing.last, closed]
        have answer : (h.receive stream).1 = s.retained.headD .closed := by
          rw [(receive_eq orderly present).1, first, last]
        rw [tail] at later
        -- Either there was nothing left, or the first of what was kept is given now.
        cases retained : s.retained with
        | nil =>
          rw [retained] at later answer
          simpa [found, SubscriptionRef.uses, untilStop, stops, receives, answer,
            List.replicate_succ] using later
        | cons message kept =>
          rw [retained] at later answer
          simpa [found, SubscriptionRef.uses, untilStop, stops, receives, answer] using later
      · rw [same closed] at next
        have later := ih orderlyNext next closed keptLater
        have other : op.isReceiveOf stream = false :=
          Bool.eq_false_iff.2 (mt (op.isReceiveOf_iff stream).1 other)
        simpa [found, SubscriptionRef.uses, untilStop, stops, other] using later

theorem found_after_closed (orderly : h.Orderly) (present : h.standing? stream = some s)
    (closed : (h.receive stream).1 = .closed) {later : List (Moment × Operation)}
    (kept : ∀ o ∈ later, o.2 ≠ .unsubscribe stream) :
    (h.receive stream).2.found stream later = List.replicate (stream.uses later) .closed := by
  obtain ⟨answer, left⟩ := receive_eq orderly present
  obtain ⟨none, shut⟩ := s.read_closed (answer.symm.trans closed)
  obtain ⟨-, tail, stays, -⟩ := s.read_retained
  rw [found_of_closed (orderly_receive orderly stream) left (stays.trans shut) kept, tail, none]
  simp

/-- The life of a stream, after any run in which it was made. When its page is unpublished or
published anew it gives what it had and nothing else, unless its application is stopped; when that
is stopped it gives nothing more; once it is closed it stays closed; and what closes others leaves
it as it is. -/
theorem stream_end (options : HostOptions) (before between : List (Moment × Operation))
    {page : PageRef} {stream : SubscriptionRef} {made : Host}
    (subscribed : ((new options).run before).subscribe page = (.ok stream, made))
    (kept : ∀ o ∈ between, o.2 ≠ .unsubscribe stream) :
    let h := made.run between
    ∃ s : Standing, h.standing? stream = some s ∧ s.page = page.pageId ∧
      (∀ n, h.receives stream n =
        s.retained.take n ++ List.replicate (n - s.retained.length) s.last) ∧
      (∀ later, (∀ o ∈ later, o.2 ≠ .unsubscribe stream) →
        (∀ after, h.Closes page after →
          let given := s.retained.take (stream.uses (untilStop page.applicationId later))
          after.found stream later =
            given ++ List.replicate (stream.uses later - given.length) .closed) ∧
        (∀ after, h.Stops page.applicationId after →
          after.found stream later = List.replicate (stream.uses later) .closed) ∧
        ((h.receive stream).1 = .closed →
          (h.receive stream).2.found stream later = List.replicate (stream.uses later) .closed)) ∧
      (∀ other after, other ≠ page → h.Closes other after →
        after.standing? stream = some s ∧ ∀ n, after.receives stream n = h.receives stream n) ∧
      (∀ id now after, id ≠ page.applicationId → h.stop now id = (.ok (), after) →
        after.standing? stream = some s ∧ ∀ n, after.receives stream n = h.receives stream n) := by
  intro h
  obtain ⟨orderlyMade, application, stands⟩ :=
    standing?_subscribe (orderly_run (orderly_new options) before) subscribed
  obtain ⟨s, present, samePage⟩ := standing?_run orderlyMade stands kept
  have here : s.page = page.pageId := samePage
  have orderly : h.Orderly := orderly_run orderlyMade between
  have goesOn {after : Host} (sound : after.Orderly) (same : after.standing? stream = some s) :
      after.standing? stream = some s ∧ ∀ n, after.receives stream n = h.receives stream n :=
    ⟨same, fun n => (receives_eq sound same n).trans (receives_eq orderly present n).symm⟩
  refine ⟨s, present, here, receives_eq orderly present, fun later keptLater => ⟨?_, ?_, ?_⟩, ?_, ?_⟩
  · intro after closes
    obtain ⟨sound, left⟩ := standing?_closes orderly present closes
    rw [if_pos application, ← here] at left
    have closed : (s.close s.page).isOpen = false := by simp [Standing.close]
    rw [found_of_closed sound left closed keptLater, application, Standing.retained_close]
  · intro after stops
    obtain ⟨sound, left⟩ := standing?_stops orderly present (application ▸ stops)
    rw [found_of_closed sound left rfl keptLater]
    simp [Standing.retained_ended]
  · intro closed
    exact found_after_closed orderly present closed keptLater
  · intro other after different closes
    obtain ⟨sound, left⟩ := standing?_closes orderly present closes
    refine goesOn sound (left.trans (congrArg some ?_))
    split
    · rename_i sameApplication
      refine Standing.close_of_ne fun samePage => different ?_
      calc other = ⟨other.applicationId, other.pageId⟩ := rfl
        _ = page := by rw [← sameApplication, application, ← samePage, here]
    · rfl
  · intro id now after different stopped
    obtain ⟨sound, left⟩ := standing?_stop_of_ne orderly present (application ▸ different) stopped
    exact goesOn sound left

/-- What was sent before a stop is not found, nor is what is sent after another launch. -/
theorem stream_end_stopped :
    let handler : Handler := ⟨fun _ _ _ => .done (.ok .null), Handler.ignoreEvent⟩
    let now : Moment := ⟨⟨0, 0, by decide⟩, 0⟩
    let page : PageRef := ⟨"app", "p"⟩
    let stream : SubscriptionRef := ⟨⟨"app", 0⟩, 0⟩
    let launch := Operation.launchWith ⟨"app", none, [⟨"p", "p.html", "P"⟩]⟩ handler
    let made := ((new .default).run [(now, launch)]).perform now (.subscribe page)
    let h := made.run [(now, .emitToPage page ⟨"1", []⟩)]
    let stopped := (h.retire now "app").updateWatched
    let later := [(now, launch), (now, .emitToPage page ⟨"2", []⟩), (now, .receive stream),
      (now, .receive stream)]
    ((new .default).run [(now, launch)]).subscribe page = (.ok stream, made) ∧
      h.receives stream 2 = [.message ⟨"1", []⟩, .pending] ∧
      h.stop now "app" = (.ok (), stopped) ∧
      stopped.found stream later = [.closed, .closed] := by
  intro handler now page stream launch made h stopped later
  have subscribed : ((new .default).run [(now, launch)]).subscribe page = (.ok stream, made) := rfl
  have running : (h.running? "app").isSome := by decide +kernel
  obtain ⟨i, runs⟩ := Option.isSome_iff_exists.1 running
  have done : h.stop now "app" = (.ok (), stopped) := stop_of_running runs now
  obtain ⟨s, -, -, -, law, -⟩ := stream_end .default [(now, launch)]
    [(now, .emitToPage page ⟨"1", []⟩)] subscribed (by simp)
  have ended := (law later (by simp [later, launch])).2.1 stopped (.one now done)
  exact ⟨subscribed, by decide +kernel, done, ended⟩

end Host

end AppHost
