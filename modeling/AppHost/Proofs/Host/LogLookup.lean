import AppHost.Proofs.Host.Logs

/-!
Which log is found. The last stop of an application is read off a run alone: it runs before one of
the operations and does not run after it. That this stop is the one that the host remembers holds
before and after every operation, since all stops write it down, and since what is thrown away would
not be found at any later time either.
-/

set_option autoImplicit false
namespace AppHost

/-- A stop of an application: when it was, of which instance, and the log that this one is left
with. -/
structure Retirement where
  elapsed : Nat
  target : InstanceRef
  log : Log
  deriving DecidableEq

namespace Host

/-- The stop of an application that an operation makes, if the application runs no longer. -/
def retirement? (h : Host) (now : Moment) (op : Operation) (id : String) : Option Retirement :=
  match h.running? id, (h.perform now op).running? id with
  | some i, none => some ⟨now.elapsed, h.runningRef id, (i.stop now.date).log⟩
  | _, _ => none

/-- The last stop of an application in a run, or else the one that was the last before. -/
def lastRetirement? (h : Host) (id : String) (earlier : Option Retirement) :
    List (Moment × Operation) → Option Retirement
  | [] => earlier
  | (now, op) :: rest =>
    (h.perform now op).lastRetirement? id ((h.retirement? now op id).or earlier) rest

/-- What is known of the last stop of an application, however much time goes by from now on. -/
structure Remembers (h : Host) (id : String) (elapsed : Nat) (last? : Option Retirement) :
    Prop where
  kept : ∀ later, elapsed ≤ later → h.keptLog later id =
    (last?.filter fun s => later - s.elapsed < h.options.logRetention).map fun s =>
      ⟨s.elapsed, s.target.launch⟩
  -- No instance was stopped after this one, and it has the same log still.
  target : ∀ s ∈ last?, s.target.applicationId = id ∧
    s.target.launch + 1 = (h.application id).retired.length
  log : ∀ s ∈ last?, ∃ i, h.instance? s.target = some i ∧ i.log = s.log

variable {h : Host} {now : Moment} {op : Operation} {id : String} {last? : Option Retirement}

theorem retirement?_eq (h : Host) (now : Moment) (op : Operation) (id : String) :
    h.retirement? now op id =
      if op.stops id then
        (h.running? id).map fun i => ⟨now.elapsed, h.runningRef id, (i.stop now.date).log⟩
      else none := by
  unfold retirement?
  cases runs : h.running? id with
  | none => exact (ite_self _).symm
  | some i =>
    cases stops : op.stops id with
    | true =>
      rw [running?_perform_of_stops h now stops]
      rfl
    | false =>
      have goesOn := isSome_running?_of_not_stops (by rw [runs]; rfl) now stops
      obtain ⟨j, runs⟩ := Option.isSome_iff_exists.1 goesOn
      rw [runs]
      rfl

theorem findLog_of_running {i : Instance} (runs : h.running? id = some i) (now : Moment) :
    (h.findLog now id).1 = .ok (h.runningRef id) :=
  (findLog_eq h now id).trans (if_pos (by simp [isRunning, runs]))

theorem findLog_of_stopped (stopped : h.running? id = none) (now : Moment) :
    (h.findLog now id).1 =
      match h.keptLog now.elapsed id with
      | some log => .ok ⟨id, log.launch⟩
      | none => .error (.applicationLogNotFound id) :=
  (findLog_eq h now id).trans (if_neg (by simp [isRunning, stopped]))

theorem remembers_new (options : HostOptions) (id : String) :
    (new options).Remembers id 0 none where
  kept _ _ := rfl
  target s none := by cases none
  log s none := by cases none

namespace Remembers

theorem later {elapsed other : Nat} (known : h.Remembers id elapsed last?)
    (after : elapsed ≤ other) : h.Remembers id other last? :=
  { known with kept := fun later beyond => known.kept later (Nat.le_trans after beyond) }

theorem perform_of_stops (stops : op.stops id = true) {i : Instance}
    (runs : h.running? id = some i) :
    (h.perform now op).Remembers id now.elapsed
      (some ⟨now.elapsed, h.runningRef id, (i.stop now.date).log⟩) where
  kept elapsed after := by
    rw [keptLog_perform h after, stops, if_pos rfl, keptLogOfStop, isRunning, runs, options_perform,
      Option.isSome_some, if_pos rfl, Option.filter_some, Option.filter_some]
    split <;> rfl
  target := by
    rintro _ ⟨⟩
    refine ⟨rfl, ?_⟩
    rw [length_retired_perform, stops, runs]
    rfl
  log := by
    rintro _ ⟨⟩
    have present : h.instance? (h.runningRef id) = some i := (h.instance?_runningRef id).trans runs
    have stopped : op.effect h now (h.runningRef id) i = i.stop now.date :=
      (Operation.effect_of_stops h now i stops).trans (if_pos rfl)
    exact ⟨_, instance?_perform h now op present, congrArg Instance.log stopped⟩

theorem perform_of_none (known : h.Remembers id now.elapsed last?)
    (none : op.stops id = true → h.running? id = none) :
    (h.perform now op).Remembers id now.elapsed last? := by
  have length : ((h.perform now op).application id).retired.length =
      (h.application id).retired.length := by
    rw [length_retired_perform]
    split
    · rename_i stops
      rw [none stops]
      rfl
    · rfl
  refine ⟨fun elapsed after => ?_, fun s last => ?_, fun s last => ?_⟩
  · rw [keptLog_perform h after, options_perform]
    split
    · rename_i stops
      rw [keptLogOfStop_of_stopped (none stops)]
      exact known.kept elapsed after
    · exact known.kept elapsed after
  · rw [length]
    exact known.target s last
  · obtain ⟨here, counted⟩ := known.target s last
    obtain ⟨i, present, log⟩ := known.log s last
    have retired : s.target ≠ h.runningRef s.target.applicationId := by
      intro same
      have running := congrArg InstanceRef.launch same
      rw [here] at running
      exact absurd (running.trans counted.symm) (Nat.ne_of_lt (Nat.lt_succ_self _))
    obtain ⟨j, kept, same⟩ := log_perform_of_retired present retired now op
    exact ⟨j, kept, same.trans log⟩

theorem perform (known : h.Remembers id now.elapsed last?) (op : Operation) :
    (h.perform now op).Remembers id now.elapsed ((h.retirement? now op id).or last?) := by
  rw [retirement?_eq]
  cases stops : op.stops id with
  | false => exact known.perform_of_none (by simp [stops])
  | true =>
    cases runs : h.running? id with
    | none => exact known.perform_of_none fun _ => runs
    | some i => exact perform_of_stops stops runs

/-- As long as time does not go back, the last stop is remembered through a run. -/
theorem run {elapsed finish : Nat} (known : h.Remembers id elapsed last?)
    {operations : List (Moment × Operation)} (start : ∀ o ∈ operations, elapsed ≤ o.1.elapsed)
    (forward : operations.Pairwise fun a b => a.1.elapsed ≤ b.1.elapsed)
    (follows : elapsed ≤ finish) (beyond : ∀ o ∈ operations, o.1.elapsed ≤ finish) :
    (h.run operations).Remembers id finish (h.lastRetirement? id last? operations) := by
  induction operations generalizing h elapsed last? with
  | nil => exact known.later follows
  | cons o rest ih =>
    obtain ⟨now, op⟩ := o
    obtain ⟨next, forward⟩ := List.pairwise_cons.1 forward
    obtain ⟨here, beyond⟩ := List.forall_mem_cons.1 beyond
    have known : h.Remembers id now.elapsed last? := known.later (start _ List.mem_cons_self)
    exact ih (known.perform op) next forward here beyond

theorem present_of_findLog (known : h.Remembers id now.elapsed last?) {target : InstanceRef}
    (found : (h.findLog now id).1 = .ok target) :
    target.applicationId = id ∧ ∃ i, h.instance? target = some i ∧
      (h.running? id = none → target ≠ h.runningRef id) := by
  refine ⟨applicationId_of_findLog found, ?_⟩
  cases runs : h.running? id with
  | some i =>
    rw [findLog_of_running runs] at found
    cases found
    exact ⟨i, (h.instance?_runningRef id).trans runs, fun stopped => by cases stopped⟩
  | none =>
    rw [findLog_of_stopped runs, known.kept _ (Nat.le_refl _)] at found
    split at found
    · rename_i log kept
      obtain ⟨s, recent, rfl⟩ := Option.map_eq_some_iff.1 kept
      obtain ⟨last, -⟩ := Option.filter_eq_some_iff.1 recent
      obtain ⟨here, counted⟩ := known.target s last
      obtain ⟨i, present, -⟩ := known.log s last
      cases found
      subst here
      refine ⟨i, present, fun _ same => ?_⟩
      have launch : s.target.launch = (h.application s.target.applicationId).retired.length :=
        congrArg InstanceRef.launch same
      omega
    · cases found

end Remembers

/-- While time does not go back, the log of an application is that of its running instance. If it
does not run, the log is the one that its last stop has left, as long as less than the retention has
gone by since; that is of the instance which was stopped last of all, and it is as it was left.
Otherwise there is none. What else is stopped or asked for in between does not matter. -/
theorem log_lookup (options : HostOptions) {operations : List (Moment × Operation)}
    (forward : operations.Pairwise fun a b => a.1.elapsed ≤ b.1.elapsed) {now : Moment}
    (beyond : ∀ o ∈ operations, o.1.elapsed ≤ now.elapsed) (id : String) :
    let h := (new options).run operations
    let last? := (new options).lastRetirement? id none operations
    (∀ i, h.running? id = some i →
      h.answer now (.findLog id) = .logged (.ok (h.runningRef id, some i.log))) ∧
    (h.running? id = none → ∀ s, last? = some s → now.elapsed - s.elapsed < options.logRetention →
      h.answer now (.findLog id) = .logged (.ok (s.target, some s.log))) ∧
    (h.running? id = none →
      (∀ s, last? = some s → options.logRetention ≤ now.elapsed - s.elapsed) →
      h.answer now (.findLog id) = .logged (.error (.applicationLogNotFound id))) ∧
    ∀ s, last? = some s →
      s.target.applicationId = id ∧ s.target.launch + 1 = (h.application id).retired.length := by
  intro h last?
  have known : h.Remembers id now.elapsed last? :=
    (remembers_new options id).run (fun _ _ => Nat.zero_le _) forward (Nat.zero_le _) beyond
  have same : h.options = options := options_run (new options) operations
  have kept := known.kept now.elapsed (Nat.le_refl _)
  rw [same] at kept
  refine ⟨fun i runs => ?_, fun stopped s last recent => ?_, fun stopped old => ?_, known.target⟩
  · have present : h.instance? (h.runningRef id) = some i := (h.instance?_runningRef id).trans runs
    have found := findLog_of_running runs now
    rw [answer, found, Except.map, present]
    rfl
  · obtain ⟨here, -⟩ := known.target s last
    obtain ⟨i, present, log⟩ := known.log s last
    have found : (h.findLog now id).1 = .ok s.target := by
      rw [findLog_of_stopped stopped, kept, last, Option.filter_some,
        if_pos (decide_eq_true recent), ← here]
      rfl
    rw [answer, found, Except.map, present, ← log]
    rfl
  · have nothing :
        last?.filter (fun s => now.elapsed - s.elapsed < options.logRetention) = none := by
      rw [Option.filter_eq_none_iff]
      intro s last
      simpa using old s last
    have found : (h.findLog now id).1 = .error (.applicationLogNotFound id) := by
      rw [findLog_of_stopped stopped, kept, nothing]
      rfl
    rw [answer, found]
    rfl

/-- An application is launched and stopped twice, and the log of another one is asked for. The log
of the second launch is found for less than ten nanoseconds, and that of the first is not. -/
theorem log_lookup_after_second_stop :
    let m : Manifest := ⟨"a", true, false, none, .empty, .empty, .empty⟩
    let moment (elapsed : Nat) : Moment := ⟨⟨0, 0, by decide⟩, elapsed⟩
    let operations := [(moment 0, .register m), (moment 0, .launch "a" none), (moment 5, .stop "a"),
      (moment 6, .launch "a" none), (moment 8, .stop "a"), (moment 9, .findLog "b")]
    let h := (new ⟨8, 10⟩).run operations
    let log : Log := ⟨1000, [⟨(moment 6).date, .runtime, "application instance started"⟩,
      ⟨(moment 8).date, .runtime, "application instance stopped"⟩]⟩
    h.answer (moment 17) (.findLog "a") = .logged (.ok (⟨"a", 1⟩, some log)) ∧
      h.answer (moment 18) (.findLog "a") = .logged (.error (.applicationLogNotFound "a")) := by
  intro m moment operations h log
  have forward : operations.Pairwise fun a b => a.1.elapsed ≤ b.1.elapsed := by decide
  have beyond : ∀ now, 9 ≤ now → ∀ o ∈ operations, o.1.elapsed ≤ (moment now).elapsed := by
    simp +contextual [operations, moment]
    omega
  have stopped : h.running? "a" = none := Option.isNone_iff_eq_none.1 (by decide +kernel)
  have last : (new ⟨8, 10⟩).lastRetirement? "a" none operations = some ⟨8, ⟨"a", 1⟩, log⟩ := by
    decide +kernel
  obtain ⟨-, found, -⟩ := log_lookup ⟨8, 10⟩ forward (beyond 17 (by decide)) "a"
  obtain ⟨-, -, lost, -⟩ := log_lookup ⟨8, 10⟩ forward (beyond 18 (by decide)) "a"
  refine ⟨found stopped _ last (by decide), lost stopped fun s same => ?_⟩
  cases last.symm.trans same
  decide

end Host
end AppHost
