import AppHost.Proofs.Attempts
import AppHost.Proofs.Host.Answers
import AppHost.Proofs.Host.Instances
import AppHost.Proofs.Host.Serving

/-!
What an operation leaves behind that fails. An operation gives a host also where it fails, as its
last statement left it. Operations check first and act afterwards, so it is the host from before,
and the pages that a launch has served already go with the instance that never runs. Only a call
that reaches the application's code is noted in the log when it fails there.
-/

set_option autoImplicit false
namespace AppHost
open Calendar (Instant)

/-- An application that it launches behaves as a manifest says. -/
def Operation.IsDeclared : Operation → Prop
  | .launchWith _ handler => ∃ m : Manifest, handler = m.handler
  | _ => True

theorem Log.length_push {log : Log} (positive : 0 < log.capacity)
    (fits : log.entries.length ≤ log.capacity) (entry : LogEntry) :
    (log.push entry).entries.length = min log.capacity (log.entries.length + 1) := by
  simp only [push, List.length_append, List.length_singleton]
  split
  · rw [List.length_drop]
    omega
  · omega

namespace Instance
variable {i : Instance} {m : Manifest} {time : Instant} {e : RuntimeError}

def IsDeclared (i : Instance) : Prop := ∃ m : Manifest, i.handler = m.handler

theorem publishPage_of_error {page : Page} (failed : (i.publishPage page).1 = .error e) :
    (i.publishPage page).2 = i := by
  cases valid : page.validate with
  | error e => rw [publishPage_of_invalid valid]
  | ok u =>
    rw [publishPage_of_valid valid] at failed
    cases failed

theorem unpublishPage_of_error {page : String} (failed : (i.unpublishPage page).1 = .error e) :
    (i.unpublishPage page).2 = i := by
  cases served : i.pages.pages.contains page with
  | false => rw [unpublishPage_of_absent served]
  | true =>
    rw [unpublishPage_of_served served] at failed
    cases failed

theorem subscribe_of_error {page : String} (failed : (i.subscribe page).1 = .error e) :
    (i.subscribe page).2 = i := by
  cases resolved : i.resolvePage page with
  | error e => rw [subscribe_of_failed resolved]
  | ok served =>
    -- The page is served, but its feed was closed or the hub was shut down.
    obtain refused | ⟨feed, -, -, attached⟩ := i.hub.subscribe_cases page
    · simp only [subscribe, resolved, refused]
    · simp only [subscribe, resolved, attached] at failed
      cases failed

theorem emitToServed_of_error {page : String} {event : ApplicationEvent}
    (failed : (i.emitToServed page event).1 = .error e) : (i.emitToServed page event).2 = i := by
  cases resolved : i.resolvePage page with
  | error e => rw [emitToServed_of_failed resolved]
  | ok served =>
    simp only [emitToServed, resolved] at failed
    cases failed

theorem handleEvent_of_error (declared : i.IsDeclared) {page event : String}
    {arguments : List String} {isTrusted : Bool}
    (failed : (i.handleEvent time page event arguments isTrusted).1 = .error e) :
    (i.handleEvent time page event arguments isTrusted).2 = i := by
  obtain ⟨m, behaves⟩ := declared
  unfold handleEvent at failed ⊢
  cases resolved : i.resolvePage page with
  | error e => rfl
  | ok served =>
    cases decoded : decodeArguments arguments with
    | error e => rfl
    | ok values =>
      -- A listener of a manifest does not fail.
      simp only [resolved, decoded, behaves] at failed
      rw [run_of_answered (Host.handleEvent_manifest m _ event values time ⟨i.hub, i.log⟩)] at failed
      cases failed

theorem invoke_of_undecoded {arguments : List String} (undecoded : decodeArguments arguments = .error e)
    (time : Instant) (method : String) : i.invoke time method arguments = (.error e, i) := by
  simp only [invoke, undecoded]

theorem invoke_of_unknown (behaves : i.handler = m.handler) {arguments : List String}
    {values : List Json.Value} (decoded : decodeArguments arguments = .ok values) {method : String}
    (unknown : m.methods.find? method = none) (time : Instant) :
    i.invoke time method arguments = (.error (.unknownMethod method),
      i.write time .warn
        ("method " ++ method ++ " failed: " ++ (RuntimeError.unknownMethod method).message)) := by
  simp only [invoke, decoded, behaves, Manifest.handler, unknown]
  rfl

theorem invoke_of_known (behaves : i.handler = m.handler) {arguments : List String}
    {values : List Json.Value} (decoded : decodeArguments arguments = .ok values) {method : String}
    {spec : MethodSpec} (known : m.methods.find? method = some spec) (time : Instant) :
    ∃ text, (i.invoke time method arguments).1 = .ok text := by
  have answered : ∃ value, ((spec.answer values).run time ⟨i.hub, i.log⟩).1 = .ok value := by
    cases spec <;> exact ⟨_, rfl⟩
  obtain ⟨value, answered⟩ := answered
  refine ⟨value.text, ?_⟩
  simp only [invoke, decoded, behaves, Manifest.handler, known]
  rw [run_of_answered answered]
  rfl

/-- A method that a manifest declares does not fail, and one that it does not declare is unknown. -/
theorem invoke_of_error (declared : i.IsDeclared) {arguments : List String} {values : List Json.Value}
    (decoded : decodeArguments arguments = .ok values) {method : String}
    (failed : (i.invoke time method arguments).1 = .error e) :
    e = .unknownMethod method ∧ (i.invoke time method arguments).2 =
      i.write time .warn ("method " ++ method ++ " failed: " ++ e.message) := by
  obtain ⟨m, behaves⟩ := declared
  cases found : m.methods.find? method with
  | none =>
    rw [invoke_of_unknown behaves decoded found] at failed ⊢
    cases failed
    exact ⟨rfl, rfl⟩
  | some spec =>
    obtain ⟨text, answered⟩ := invoke_of_known behaves decoded found time
    rw [answered] at failed
    cases failed

end Instance

namespace Host
variable {h : Host} {now : Moment} {op : Operation} {id : String} {i : Instance} {e : RuntimeError}

/-- A call gets as far as the code of the application. -/
structure Reaches (h : Host) (call : MethodInvocation) (i : Instance) : Prop where
  named : (call.applicationId.isEmpty || call.method.isEmpty) = false
  runs : h.running? call.applicationId = some i
  decodes : ∃ values, decodeArguments call.arguments = .ok values

def IsDeclared (h : Host) : Prop := ∀ id, (h.application id).All Instance.IsDeclared

theorem isDeclared_new (options : HostOptions) : (new options).IsDeclared := by
  intro id i present
  cases present

theorem isDeclared_perform (declared : h.IsDeclared) (now : Moment) (behaves : op.IsDeclared) :
    (h.perform now op).IsDeclared := by
  refine all_perform declared (fun d handler i asked starts => ?_) (fun i kept => kept)
    fun _ i kept => ?_
  · have manifest : ∃ m : Manifest, handler = m.handler := by
      cases asked with
      | launch found => exact ⟨_, rfl⟩
      | launchWith => exact behaves
    exact Instance.holds_publishPages starts manifest fun i page kept => kept
  · unfold Instance.IsDeclared
    rwa [Instance.handler_perform]

theorem isDeclared_run (declared : h.IsDeclared) {operations : List (Moment × Operation)}
    (behave : ∀ o ∈ operations, o.2.IsDeclared) : (h.run operations).IsDeclared := by
  induction operations generalizing h with
  | nil => exact declared
  | cons o rest ih =>
    obtain ⟨first, later⟩ := List.forall_mem_cons.1 behave
    exact ih (isDeclared_perform declared o.1 first) later

theorem isDeclared_running (declared : h.IsDeclared) (runs : h.running? id = some i) :
    i.IsDeclared :=
  declared id i (List.mem_append_right _ (Option.mem_toList.2 runs))

/-! ### Operations that fail -/

/-- A request that fails leaves the host as it was, if it leaves the instance so that it is put to. -/
theorem ask_of_error {α : Type} {found : Except RuntimeError Instance}
    {request : Instance → Except RuntimeError α × Instance}
    (runs : ∀ i, found = .ok i → h.running? id = some i)
    (keeps : ∀ i, found = .ok i → ∀ e, (request i).1 = .error e → (request i).2 = i)
    (failed : (h.ask id found request).1 = .error e) : (h.ask id found request).2 = h := by
  cases target : found with
  | error e => rfl
  | ok i =>
    rw [target] at failed
    rw [ask]
    dsimp only
    rw [keeps i target e failed, setRunning_self (runs i target)]

theorem register_of_error {m : Manifest} (failed : (h.register m).1 = .error e) :
    (h.register m).2 = h := by
  cases valid : m.validate with
  | error e => rw [register_of_invalid valid]
  | ok u =>
    rw [register_of_valid valid] at failed
    cases failed

theorem launchWith_of_error {d : Descriptor} {handler : Handler}
    (failed : (h.launchWith now d handler).1 = .error e) : (h.launchWith now d handler).2 = h := by
  obtain ⟨e, refused⟩ | ⟨-, -, i, -, launched⟩ := h.launchWith_cases now d handler
  · rw [refused]
  · rw [launched] at failed
    cases failed

theorem launch_of_error {version : Option Instant} (failed : (h.launch now id version).1 = .error e) :
    (h.launch now id version).2 = h := by
  obtain ⟨e, refused⟩ | ⟨m, -, -, same⟩ := h.launch_cases now id version
  · rw [refused]
  · rw [same] at failed ⊢
    exact launchWith_of_error failed

theorem stop_of_error (failed : (h.stop now id).1 = .error e) : (h.stop now id).2 = h := by
  cases runs : h.running? id with
  | none => rw [stop_of_stopped runs]
  | some i =>
    rw [stop_of_running runs] at failed
    cases failed

theorem subscribe_of_error {page : PageRef} (failed : (h.subscribe page).1 = .error e) :
    (h.subscribe page).2 = h := by
  refine ask_of_error (fun i found => running?_of_pageTarget found) (fun i _ e failed => ?_) failed
  cases answered : (i.subscribe page.pageId).1 with
  | error e => exact Instance.subscribe_of_error answered
  | ok number =>
    simp only [answered] at failed
    cases failed

theorem trigger_of_error (declared : h.IsDeclared) {t : EventTrigger}
    (failed : (h.trigger now t).1 = .error e) : (h.trigger now t).2 = h :=
  ask_of_error (fun _ found => running?_of_triggerTarget found)
    (fun _ found _ => Instance.handleEvent_of_error
      (isDeclared_running declared (running?_of_triggerTarget found))) failed

theorem invoke_of_unreached {call : MethodInvocation} (unreached : ∀ i, ¬ h.Reaches call i) :
    (h.invoke now call).2 = h := by
  cases allowed : call.applicationId.isEmpty || call.method.isEmpty with
  | true => exact invoke_of_refused allowed now
  | false =>
    cases runs : h.running? call.applicationId with
    | none => exact invoke_of_stopped runs now
    | some i =>
      rw [invoke_of_running allowed runs]
      cases decoded : decodeArguments call.arguments with
      | error e => rw [Instance.invoke_of_undecoded decoded, setRunning_self runs]
      | ok values => exact absurd ⟨allowed, runs, values, decoded⟩ (unreached i)

/-- An operation that fails changes nothing, unless it is a call that reaches the application's
code or asks for a log. -/
theorem perform_of_error (declared : h.IsDeclared) (fails : (h.answer now op).error? = some e)
    (asks : ∀ id, op ≠ .findLog id) (unreached : ∀ call i, op = .invoke call → ¬ h.Reaches call i) :
    h.perform now op = h := by
  cases op with
  | register _ => exact register_of_error (Answer.failure?_eq_some_iff.1 fails)
  | launch _ _ => exact launch_of_error (Answer.failure?_eq_some_iff.1 fails)
  | launchWith _ _ => exact launchWith_of_error (Answer.failure?_eq_some_iff.1 fails)
  | stop _ => exact stop_of_error (Answer.failure?_eq_some_iff.1 fails)
  | publishPage _ _ =>
    exact ask_of_error (fun _ => running?_of_running) (fun _ _ _ => Instance.publishPage_of_error)
      (Answer.failure?_eq_some_iff.1 fails)
  | unpublishPage _ =>
    exact ask_of_error (fun _ => running?_of_running) (fun _ _ _ => Instance.unpublishPage_of_error)
      (Answer.failure?_eq_some_iff.1 fails)
  | resolvePage page => exact h.resolvePage_snd page
  | subscribe _ => exact subscribe_of_error (Answer.failure?_eq_some_iff.1 fails)
  | invoke call => exact invoke_of_unreached fun i => unreached call i rfl
  | trigger t => exact trigger_of_error declared (Answer.failure?_eq_some_iff.1 fails)
  | emitToPage _ _ =>
    exact ask_of_error (fun _ => running?_of_pageTarget) (fun _ _ _ => Instance.emitToServed_of_error)
      (Answer.failure?_eq_some_iff.1 fails)
  | emitToAll _ _ =>
    exact ask_of_error (fun _ => running?_of_running) (fun _ _ _ sent => by cases sent)
      (Answer.failure?_eq_some_iff.1 fails)
  | findLog id => exact absurd rfl (asks id)
  | stopAll _ | unsubscribe _ | receive _ | sendToPage _ _ _ | sendToAll _ _ => cases fails

theorem invoke_of_reaches {call : MethodInvocation} (reaches : h.Reaches call i) (now : Moment) :
    (h.invoke now call).1 =
      (i.invoke now.date call.method call.arguments).1.map MethodResult.mk := by
  rw [invoke_of_running reaches.named reaches.runs]

/-- A call that fails in the application's code is noted there. -/
theorem perform_of_reaches (declared : h.IsDeclared) {call : MethodInvocation}
    (reaches : h.Reaches call i) (fails : (h.answer now (.invoke call)).error? = some e) :
    e = .unknownMethod call.method ∧
      h.perform now (.invoke call) = h.setRunning call.applicationId
        (i.write now.date .warn ("method " ++ call.method ++ " failed: " ++ e.message)) := by
  have answer := invoke_of_reaches reaches now
  obtain ⟨allowed, runs, values, decoded⟩ := reaches
  have failed : (i.invoke now.date call.method call.arguments).1 = .error e := by
    have fails := answer.symm.trans (Answer.failure?_eq_some_iff.1 fails)
    cases result : (i.invoke now.date call.method call.arguments).1 with
    | error e =>
      rw [result] at fails
      cases fails
      rfl
    | ok value =>
      rw [result] at fails
      cases fails
  obtain ⟨unknown, noted⟩ :=
    Instance.invoke_of_error (isDeclared_running declared runs) decoded failed
  refine ⟨unknown, ?_⟩
  rw [perform, invoke_of_running allowed runs, noted]

theorem launchWith_of_invalid_page {d : Descriptor} {before after : List Page} {bad : Page}
    (pages : d.pages = before ++ bad :: after) (named : d.applicationId.isEmpty = false)
    (stopped : h.running? d.applicationId = none) (valid : ∀ page ∈ before, page.validate = .ok ())
    (invalid : bad.validate = .error e) (now : Moment) (handler : Handler) :
    h.launchWith now d handler = (.error e, h) := by
  obtain ⟨left, failed, -⟩ := Instance.publishPages_of_invalid valid invalid after
    (.start d.applicationId d.version handler h.options.eventBuffer now.date)
  simp only [launchWith, named, isRunning, stopped, pages, failed]
  rfl

/-- As long as all applications behave as manifests say, an operation that fails leaves the host
exactly as it was. Searches for logs apart, the one exception is a call that reaches the
application's code: it fails there if the method is unknown, and then one warning comes at the end
of the log, in which a full log has it in the place of its oldest entry. A launch with an invalid
page fails with that page, however many are valid before it. -/
theorem failures_change_nothing (options : HostOptions) (operations : List (Moment × Operation))
    (declared : ∀ o ∈ operations, o.2.IsDeclared) :
    let h := (new options).run operations
    (∀ now op e, (h.answer now op).error? = some e → (∀ id, op ≠ .findLog id) →
      (∀ call i, op = .invoke call → ¬ h.Reaches call i) → h.perform now op = h) ∧
    (∀ now call i e, h.Reaches call i → (h.answer now (.invoke call)).error? = some e →
      e = .unknownMethod call.method ∧
        let warning : LogEntry :=
          ⟨now.date, .warn, "method " ++ call.method ++ " failed: " ++ e.message⟩
        let kept :=
          if i.log.entries.length = i.log.capacity then i.log.entries.drop 1 else i.log.entries
        h.perform now (.invoke call) = h.setRunning call.applicationId
          { i with log := { i.log with entries := kept ++ [warning] } }) ∧
    ∀ now handler (d : Descriptor) before bad after e, d.pages = before ++ bad :: after →
      d.applicationId.isEmpty = false → h.running? d.applicationId = none →
      (∀ page ∈ before, page.validate = .ok ()) → bad.validate = .error e →
      (h.answer now (.launchWith d handler)).error? = some e ∧
        h.perform now (.launchWith d handler) = h := by
  intro h
  have declared : h.IsDeclared := isDeclared_run (isDeclared_new options) declared
  refine ⟨fun now op e fails asks unreached => ?_, fun now call i e reaches fails => ?_, ?_⟩
  · exact perform_of_error declared fails asks unreached
  · exact perform_of_reaches declared reaches fails
  · intro now handler d before bad after e pages named stopped valid invalid
    have failed := launchWith_of_invalid_page pages named stopped valid invalid now handler
    constructor
    · rw [answer, failed]
      rfl
    · rw [perform, failed]

/-- A launch whose second page names no file, a page that is not there, and an unknown method. -/
theorem failures_change_nothing_second_page :
    let m : Manifest := ⟨"a", true, false, none, .empty, .empty, .empty⟩
    let now : Moment := ⟨⟨0, 0, by decide⟩, 0⟩
    let operations := [(now, Operation.register m), (now, .launch "a" none)]
    let h := (new .default).run operations
    let i : Instance := .start "a" none m.handler 256 now.date
    let d : Descriptor := ⟨"b", none, [⟨"p", "p.html", "P"⟩, ⟨"q", "", "Q"⟩]⟩
    h.perform now (.launchWith d m.handler) = h ∧
      h.perform now (.subscribe ⟨"a", "p"⟩) = h ∧
      h.perform now (.invoke ⟨"a", "x", []⟩) = h.setRunning "a"
        { i with log := ⟨1000, [⟨now.date, .runtime, "application instance started"⟩,
          ⟨now.date, .warn, "method x failed: unknown method: x"⟩]⟩ } := by
  intro m now operations h i d
  have declared : ∀ o ∈ operations, o.2.IsDeclared := by simp [operations, Operation.IsDeclared]
  obtain ⟨unchanged, noted, refused⟩ := failures_change_nothing .default operations declared
  refine ⟨?_, ?_, ?_⟩
  · exact (refused now m.handler d [⟨"p", "p.html", "P"⟩] ⟨"q", "", "Q"⟩ [] _ rfl rfl rfl
      (List.forall_mem_singleton.2 rfl) rfl).2
  · exact unchanged now (.subscribe ⟨"a", "p"⟩) (.pageNotFound ⟨"a", "p"⟩) rfl (by simp) (by simp)
  · exact (noted now ⟨"a", "x", []⟩ i _ ⟨by decide, rfl, [], rfl⟩ rfl).2

theorem log_of_unknown_calls {m : Manifest} {call : MethodInvocation} (reaches : h.Reaches call i)
    (behaves : i.handler = m.handler) (unknown : m.methods.find? call.method = none)
    (positive : 0 < i.log.capacity) (fits : i.log.entries.length ≤ i.log.capacity) (now : Moment)
    (count : Nat) :
    ∃ j, (h.run (List.replicate count (now, .invoke call))).Reaches call j ∧
      j.handler = m.handler ∧ j.log.capacity = i.log.capacity ∧
      j.log.entries.length = min i.log.capacity (i.log.entries.length + count) := by
  induction count generalizing h i with
  | zero => exact ⟨i, reaches, behaves, rfl, by omega⟩
  | succ count ih =>
    obtain ⟨allowed, runs, values, decoded⟩ := reaches
    let message := "method " ++ call.method ++ " failed: " ++
      (RuntimeError.unknownMethod call.method).message
    have noted := Instance.invoke_of_unknown behaves decoded unknown now.date
    have performed : h.perform now (.invoke call) =
        h.setRunning call.applicationId (i.write now.date .warn message) := by
      rw [perform, invoke_of_running allowed runs, noted]
    have grown : (i.write now.date .warn message).log.entries.length =
        min i.log.capacity (i.log.entries.length + 1) :=
      Log.length_push positive fits ⟨now.date, .warn, message⟩
    have next : (h.perform now (.invoke call)).Reaches call (i.write now.date .warn message) := by
      refine ⟨allowed, ?_, values, decoded⟩
      rw [performed, running?_setRunning, if_pos rfl]
    obtain ⟨j, later, same, capacity, length⟩ := ih next behaves positive (by
      rw [grown]
      exact Nat.min_le_left ..)
    refine ⟨j, later, same, capacity, ?_⟩
    rw [length, grown]
    change min i.log.capacity _ = _
    omega

theorem full_log_of_unknown_call {m : Manifest} {call : MethodInvocation}
    (reaches : h.Reaches call i) (behaves : i.handler = m.handler)
    (unknown : m.methods.find? call.method = none) (positive : 0 < i.log.capacity)
    (full : i.log.entries.length = i.log.capacity) (now : Moment) :
    (h.answer now (.invoke call)).error? = some (.unknownMethod call.method) ∧
      ∃ j, (h.perform now (.invoke call)).running? call.applicationId = some j ∧
        ∀ entry, j.log.entries ≠ i.log.entries ++ [entry] := by
  obtain ⟨j, later, -, -, length⟩ :=
    log_of_unknown_calls reaches behaves unknown positive (Nat.le_of_eq full) now 1
  refine ⟨?_, j, later.runs, fun entry appended => ?_⟩
  · obtain ⟨values, decoded⟩ := reaches.decodes
    rw [answer, invoke_of_reaches reaches, Instance.invoke_of_unknown behaves decoded unknown]
    rfl
  · have longer := congrArg List.length appended
    rw [List.length_append, List.length_singleton] at longer
    omega

/-- A log of a thousand entries has a thousand after one more call of an unknown method, so what was
in it has not stayed as it was. -/
theorem full_log_loses_its_oldest_entry :
    let m : Manifest := ⟨"a", true, false, none, .empty, .empty, .empty⟩
    let now : Moment := ⟨⟨0, 0, by decide⟩, 0⟩
    let call : MethodInvocation := ⟨"a", "x", []⟩
    let h := (new .default).run ([(now, .register m), (now, .launch "a" none)] ++
      List.replicate 999 (now, .invoke call))
    (h.answer now (.invoke call)).error? = some (.unknownMethod "x") ∧
      ∃ i j, h.running? "a" = some i ∧ (h.perform now (.invoke call)).running? "a" = some j ∧
        ∀ entry, j.log.entries ≠ i.log.entries ++ [entry] := by
  intro m now call h
  let start : Instance := .start "a" none m.handler HostOptions.default.eventBuffer now.date
  have launched : ((new .default).run [(now, .register m), (now, .launch "a" none)]).Reaches call
      start := ⟨by decide, rfl, [], rfl⟩
  obtain ⟨i, reaches, behaves, capacity, length⟩ := log_of_unknown_calls (m := m) launched rfl rfl
    (by decide) (by decide) now 999
  have capacity : i.log.capacity = 1000 := capacity
  have length : i.log.entries.length = min 1000 (1 + 999) := length
  have same : ((new .default).run [(now, .register m), (now, .launch "a" none)]).run
      (List.replicate 999 (now, .invoke call)) = h := (List.foldl_append).symm
  rw [same] at reaches
  obtain ⟨fails, j, runs, shorter⟩ :=
    full_log_of_unknown_call reaches behaves rfl (by omega) (by omega) now
  exact ⟨fails, i, j, reaches.runs, runs, shorter⟩

end Host
end AppHost
