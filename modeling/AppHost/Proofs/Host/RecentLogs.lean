import AppHost.Proofs.Host.Closing
import AppHost.Proofs.Host.Frame

/-!
The logs of stopped applications. Those that have been kept long enough are thrown away whenever an
application is stopped and whenever a log is asked for that nobody is writing. Since time does not go
back, what is thrown away then is nothing that could be found later.
-/

set_option autoImplicit false
namespace AppHost

namespace Host

/-- The log that is kept of a stopped application when so many nanoseconds have gone by. -/
def keptLog (h : Host) (elapsed : Nat) (id : String) : Option RecentLog :=
  (h.recentLogs.find? id).filter fun log => elapsed - log.stoppedAt < h.options.logRetention

/-- The same after the application was stopped, if it runs. -/
def keptLogOfStop (h : Host) (now : Moment) (elapsed : Nat) (id : String) : Option RecentLog :=
  if h.isRunning id then
    (some ⟨now.elapsed, (h.application id).retired.length⟩ : Option RecentLog).filter fun log =>
      elapsed - log.stoppedAt < h.options.logRetention
  else h.keptLog elapsed id

variable {h : Host} {now : Moment}

theorem find?_pruneLogs (h : Host) (now : Moment) (id : String) :
    (h.pruneLogs now).recentLogs.find? id = h.keptLog now.elapsed id :=
  Dictionary.find?_filter h.recentLogs _ id

theorem keptLog_pruneLogs (h : Host) {elapsed : Nat} (later : now.elapsed ≤ elapsed) (id : String) :
    (h.pruneLogs now).keptLog elapsed id = h.keptLog elapsed id := by
  rw [keptLog, find?_pruneLogs, keptLog, keptLog]
  cases h.recentLogs.find? id with
  | none => rfl
  | some log =>
    by_cases kept : elapsed - log.stoppedAt < h.options.logRetention
    · have before : now.elapsed - log.stoppedAt < h.options.logRetention := by omega
      simp [Option.filter, pruneLogs, kept, before]
    · by_cases before : now.elapsed - log.stoppedAt < h.options.logRetention <;>
        simp [Option.filter, pruneLogs, kept, before]

theorem findLog_eq (h : Host) (now : Moment) (id : String) :
    (h.findLog now id).1 =
      if h.isRunning id then .ok (h.runningRef id)
      else
        match h.keptLog now.elapsed id with
        | some log => .ok ⟨id, log.launch⟩
        | none => .error (.applicationLogNotFound id) := by
  unfold findLog
  split
  · rfl
  · dsimp only
    rw [find?_pruneLogs]
    cases h.keptLog now.elapsed id <;> rfl

theorem applicationId_of_findLog {id : String} {ref : InstanceRef}
    (found : (h.findLog now id).1 = .ok ref) : ref.applicationId = id := by
  rw [findLog_eq] at found
  split at found
  · cases found
    rfl
  · split at found
    · cases found
      rfl
    · cases found

/-! ### Stops -/

theorem options_retire (h : Host) (now : Moment) (id : String) :
    (h.retire now id).options = h.options := by
  unfold retire
  split <;> rfl

theorem keptLog_retire (h : Host) {elapsed : Nat} (later : now.elapsed ≤ elapsed)
    (id other : String) :
    (h.retire now id).keptLog elapsed other =
      if id = other then h.keptLogOfStop now elapsed other else h.keptLog elapsed other := by
  unfold retire keptLogOfStop isRunning
  cases runs : h.running? id with
  | none =>
    dsimp only
    split
    · rename_i same
      rw [← same, runs]
      rfl
    · rfl
  | some i =>
    have pruned := h.keptLog_pruneLogs later other
    dsimp only
    split
    · rename_i same
      subst same
      rw [runs, keptLog]
      simp only [announce, Dictionary.find?_insert, if_true]
      rfl
    · rename_i different
      rw [← pruned, keptLog, keptLog]
      simp only [announce, Dictionary.find?_insert, if_neg different]
      rfl

theorem keptLogOfStop_congr {after : Host} {id : String} (options : after.options = h.options)
    (application : after.application id = h.application id) {elapsed : Nat}
    (kept : after.keptLog elapsed id = h.keptLog elapsed id) :
    after.keptLogOfStop now elapsed id = h.keptLogOfStop now elapsed id := by
  rw [keptLogOfStop, keptLogOfStop, isRunning, isRunning, running?, running?, options, application,
    kept]

theorem keptLogOfStop_of_stopped {id : String} (stopped : h.running? id = none) (elapsed : Nat) :
    h.keptLogOfStop now elapsed id = h.keptLog elapsed id := by
  rw [keptLogOfStop, isRunning, stopped]
  rfl

theorem options_stopEach (h : Host) (now : Moment) (order : List String) :
    (h.stopEach now order).options = h.options :=
  stopEach_congr (f := Host.options) options_retire (fun _ => rfl) h now order

theorem keptLog_stopEach (h : Host) {elapsed : Nat} (later : now.elapsed ≤ elapsed)
    (order : List String) (id : String) :
    (h.stopEach now order).keptLog elapsed id =
      if id ∈ order then h.keptLogOfStop now elapsed id else h.keptLog elapsed id := by
  have each : (order.foldl (fun h id => h.retire now id) h).keptLog elapsed id =
      if id ∈ order then h.keptLogOfStop now elapsed id else h.keptLog elapsed id := by
    induction order generalizing h with
    | nil => rfl
    | cons first rest ih =>
      rw [List.foldl_cons, ih]
      by_cases same : first = id
      · subst same
        -- Whoever is stopped already is not stopped again.
        have stopped : (h.retire now first).running? first = none := by
          rw [running?_retire, if_pos rfl]
        rw [keptLogOfStop_of_stopped stopped, ite_self, keptLog_retire h later, if_pos rfl,
          if_pos List.mem_cons_self]
      · have kept : (h.retire now first).keptLog elapsed id = h.keptLog elapsed id := by
          rw [keptLog_retire h later, if_neg same]
        have untouched : (h.retire now first).application id = h.application id := by
          rw [application_retire, if_neg same]
        rw [keptLogOfStop_congr (options_retire ..) untouched kept, kept]
        simp only [List.mem_cons, Ne.symm same, false_or]
  unfold stopEach
  cases order with
  | nil => rfl
  | cons first rest => exact each

/-! ### Any operation -/

theorem options_perform (h : Host) (now : Moment) (op : Operation) :
    (h.perform now op).options = h.options := by
  cases h.outcome now op with
  | refused same nothing => rw [same]
  | registered asked valid after nothing => rw [after]
  | launched asked stopped starts after made =>
    rw [after]
    rfl
  | stopped asked runs after made =>
    rw [after]
    exact options_retire ..
  | allStopped asked =>
    subst asked
    exact options_stopEach ..
  | within isLocal after logs => rw [after]

theorem options_run (h : Host) (operations : List (Moment × Operation)) :
    (h.run operations).options = h.options := by
  induction operations generalizing h with
  | nil => rfl
  | cons o rest ih => exact (ih _).trans (options_perform h o.1 o.2)

theorem keptLog_perform_of_running (h : Host) {elapsed : Nat} (later : now.elapsed ≤ elapsed)
    {op : Operation} (running : ∀ id, op.stops id = false) (id : String) :
    (h.perform now op).keptLog elapsed id = h.keptLog elapsed id := by
  cases h.outcome now op with
  | refused same nothing => rw [same]
  | registered asked valid after nothing =>
    rw [after]
    rfl
  | launched asked stopped starts after made =>
    rw [after]
    rfl
  | @stopped other i asked runs after made =>
    rw [asked] at running
    simpa [Operation.stops] using running other
  | allStopped asked =>
    rw [asked] at running
    cases running id
  | within isLocal after logs =>
    rw [after]
    rcases logs with rfl | rfl
    · rfl
    · exact h.keptLog_pruneLogs later id

/-- The log that is kept of an application, at any time from now on, is another one after the
application was stopped, and otherwise the same as before. -/
theorem keptLog_perform (h : Host) {elapsed : Nat} (later : now.elapsed ≤ elapsed) (op : Operation)
    (id : String) :
    (h.perform now op).keptLog elapsed id =
      if op.stops id then h.keptLogOfStop now elapsed id else h.keptLog elapsed id := by
  cases op with
  | stop other =>
    have kept := h.keptLog_retire later other id
    simp only [Operation.stops, decide_eq_true_eq]
    cases runs : h.running? other with
    | none =>
      have same : h.perform now (.stop other) = h := by
        rw [perform, stop_of_stopped runs]
      rw [same]
      split
      · rename_i here
        exact (keptLogOfStop_of_stopped (here ▸ runs) elapsed).symm
      · rfl
    | some i =>
      have retired : h.perform now (.stop other) = (h.retire now other).updateWatched := by
        rw [perform, stop_of_running runs]
      rw [retired]
      exact kept
  | stopAll order =>
    refine (keptLog_stopEach h later _ id).trans ?_
    cases runs : h.running? id with
    | some i => exact if_pos ((h.mem_stopAll order id).2 (by rw [runs, Option.isSome_some]))
    | none =>
      rw [if_neg (mt (h.mem_stopAll order id).1 (by simp [runs]))]
      exact (keptLogOfStop_of_stopped runs elapsed).symm
  | _ => exact h.keptLog_perform_of_running later (fun _ => rfl) id

end Host
end AppHost
