import AppHost.Proofs.Attempts
import AppHost.Proofs.Host.Applications

/-!
What can be asked of a host, one after the other, and what each request does to the applications. A
request works on one instance of one application at most, but for launches and stops, and what it
does to that instance depends on nothing else in the host.
-/

set_option autoImplicit false
namespace AppHost
open Calendar (Instant)

inductive Operation
  | register (manifest : Manifest)
  | launch (id : String) (version : Option Instant)
  | launchWith (descriptor : Descriptor) (handler : Handler)
  | stop (id : String)
  -- Stops all, in this order if it names each of them once.
  | stopAll (order : List String)
  | publishPage (id : String) (page : Page)
  | unpublishPage (page : PageRef)
  | resolvePage (page : PageRef)
  | subscribe (page : PageRef)
  | receive (stream : SubscriptionRef)
  -- A subscription is dropped.
  | unsubscribe (stream : SubscriptionRef)
  | invoke (call : MethodInvocation)
  | trigger (event : EventTrigger)
  | emitToPage (page : PageRef) (event : ApplicationEvent)
  | emitToAll (id : String) (event : ApplicationEvent)
  -- An application's code sends of its own accord, which it may do after it was stopped.
  | sendToPage (source : InstanceRef) (page : String) (event : ApplicationEvent)
  | sendToAll (source : InstanceRef) (event : ApplicationEvent)
  | findLog (id : String)

/-- Which instance is meant: the one that runs at the time, or one that is known. -/
inductive Addressee
  | running (id : String)
  | known (ref : InstanceRef)

def PageRef.isNamed (page : PageRef) : Bool := !page.applicationId.isEmpty && !page.pageId.isEmpty

/-- The instance that an operation works on, unless its arguments are refused. -/
def Operation.addressee? : Operation → Option Addressee
  | .publishPage id _ => some (.running id)
  | .unpublishPage page => some (.running page.applicationId)
  | .subscribe page => if page.isNamed then some (.running page.applicationId) else none
  | .receive stream => some (.known stream.target)
  | .unsubscribe stream => some (.known stream.target)
  | .invoke call =>
    if call.applicationId.isEmpty || call.method.isEmpty then none
    else some (.running call.applicationId)
  | .trigger t =>
    if t.page.isNamed && !t.name.isEmpty then some (.running t.applicationId) else none
  | .emitToPage page _ => if page.isNamed then some (.running page.applicationId) else none
  | .emitToAll id _ => some (.running id)
  | .sendToPage source _ _ => some (.known source)
  | .sendToAll source _ => some (.known source)
  | _ => none

def Operation.leavesPages : Operation → Bool
  | .launch _ _ => false
  | .launchWith _ _ => false
  | .stop _ => false
  | .stopAll _ => false
  | .publishPage _ _ => false
  | .unpublishPage _ => false
  | _ => true

/-- What an operation makes of the instance that it works on. -/
def Instance.perform (i : Instance) (now : Moment) : Operation → Instance
  | .publishPage _ page => (i.publishPage page).2
  | .unpublishPage page => (i.unpublishPage page.pageId).2
  | .subscribe page => (i.subscribe page.pageId).2
  | .receive stream => (i.receive stream.number).2
  | .unsubscribe stream => i.unsubscribe stream.number
  | .invoke call => (i.invoke now.date call.method call.arguments).2
  | .trigger t => (i.handleEvent now.date t.pageId t.name t.arguments false).2
  | .emitToPage page event => (i.emitToServed page.pageId event).2
  | .emitToAll _ event => (i.emitToAll event).2
  | .sendToPage _ page event => (i.emitToPage page event).2
  | .sendToAll _ event => (i.emitToAll event).2
  | _ => i

def Addressee.ref (h : Host) : Addressee → InstanceRef
  | .running id => h.runningRef id
  | .known ref => ref

namespace Host

def alter (h : Host) (ref : InstanceRef) (change : Instance → Instance) : Host :=
  match h.instance? ref with
  | some i => h.setInstance ref (change i)
  | none => h

def perform (h : Host) (now : Moment) : Operation → Host
  | .register m => (h.register m).2
  | .launch id version => (h.launch now id version).2
  | .launchWith d handler => (h.launchWith now d handler).2
  | .stop id => (h.stop now id).2
  | .stopAll order => h.stopEach now (if order.isPerm h.runningIds then order else h.runningIds)
  | .publishPage id page => (h.publishPage id page).2
  | .unpublishPage page => (h.unpublishPage page).2
  | .resolvePage page => (h.resolvePage page).2
  | .subscribe page => (h.subscribe page).2
  | .receive stream => (h.receive stream).2
  | .unsubscribe stream => h.unsubscribe stream
  | .invoke call => (h.invoke now call).2
  | .trigger t => (h.trigger now t).2
  | .emitToPage page event => (h.emitToPage page event).2
  | .emitToAll id event => (h.emitToAll id event).2
  | .sendToPage source page event => h.alter source fun i => (i.emitToPage page event).2
  | .sendToAll source event => h.alter source fun i => (i.emitToAll event).2
  | .findLog id => (h.findLog now id).2

def run (h : Host) (operations : List (Moment × Operation)) : Host :=
  operations.foldl (fun h o => h.perform o.1 o.2) h

/-! ### Applications by their ids -/

theorem application_insert (h : Host) (id : String) (a : Application) (other : String) :
    { h with applications := h.applications.insert id a }.application other =
      if id = other then a else h.application other := by
  unfold application
  rw [Dictionary.find?_insert]
  split <;> rfl

theorem application_setRunning (h : Host) (id : String) (i : Instance) (other : String) :
    (h.setRunning id i).application other =
      if id = other then (h.application id).start i else h.application other :=
  application_insert h id _ other

theorem running?_setRunning (h : Host) (id : String) (i : Instance) (other : String) :
    (h.setRunning id i).running? other = if id = other then some i else h.running? other := by
  unfold running?
  rw [application_setRunning]
  split <;> rfl

theorem application_setInstance (h : Host) (ref : InstanceRef) (i : Instance) (id : String) :
    (h.setInstance ref i).application id =
      if ref.applicationId = id then (h.application ref.applicationId).set ref.launch i
      else h.application id :=
  application_insert h ref.applicationId _ id

theorem application_alter (h : Host) (ref : InstanceRef) (change : Instance → Instance)
    (id : String) :
    (h.alter ref change).application id =
      if ref.applicationId = id then (h.application id).alter ref.launch change
      else h.application id := by
  unfold alter instance? Application.alter
  cases found : (h.application ref.applicationId).instance? ref.launch with
  | none =>
    dsimp only
    split
    · rename_i same
      rw [← same, found]
    · rfl
  | some i =>
    dsimp only
    rw [application_setInstance]
    split
    · rename_i same
      rw [← same, found]
    · rfl

theorem application_running {h : Host} {id : String} {change : Instance → Instance} {after : Host}
    (stopped : h.running? id = none → after = h)
    (runs : ∀ i, h.running? id = some i → after = h.setRunning id (change i)) (other : String) :
    after.application other = (h.alter (h.runningRef id) change).application other := by
  have altered : (h.alter (h.runningRef id) change).application other =
      if id = other then (h.application other).alter (h.application id).retired.length change
      else h.application other := application_alter h _ change other
  rw [altered]
  by_cases here : id = other
  · subst here
    -- The running instance is the one whose number is the count of those that were stopped.
    rw [if_pos rfl, Application.alter, Application.instance?_running]
    change _ = match h.running? id with
      | some i => _
      | none => _
    cases running : h.running? id with
    | none => rw [stopped running]
    | some i =>
      have current : (h.application id).current = some i := running
      dsimp only
      rw [Application.set_running current, runs i running, application_setRunning, if_pos rfl]
  · rw [if_neg here]
    cases running : h.running? id with
    | none => rw [stopped running]
    | some i => rw [runs i running, application_setRunning, if_neg here]

theorem setRunning_self {h : Host} {id : String} {i : Instance} (runs : h.running? id = some i) :
    h.setRunning id i = h := by
  have found : h.applications.find? id = some { h.application id with current := some i } := by
    unfold application
    unfold running? application at runs
    cases present : h.applications.find? id with
    | none =>
      rw [present] at runs
      cases runs
    | some a =>
      rw [present] at runs
      rw [Option.getD_some, ← runs]
      rfl
  rw [setRunning, Dictionary.insert_of_find? found]

/-! ### Requests to an application that runs, and to one that does not -/

section
variable {h : Host} {id : String} {page : PageRef} {i : Instance}

theorem checked_of_isNamed (named : page.isNamed = true) : checked page = .ok () := by
  obtain ⟨application, inside⟩ := (Bool.and_eq_true _ _).mp named
  simp only [checked, PageRef.validate]
  rw [if_neg, if_neg]
  · rfl
  · simpa using inside
  · simpa using application

theorem checked_of_not_isNamed (unnamed : page.isNamed = false) : ∃ e, checked page = .error e := by
  unfold checked PageRef.validate
  split
  · exact ⟨_, rfl⟩
  · split
    · exact ⟨_, rfl⟩
    · rename_i application inside
      simp [PageRef.isNamed, application, inside] at unnamed

theorem running_of_running? (runs : h.running? id = some i) : h.running id = .ok i := by
  rw [running, runs]

theorem running_of_stopped (stopped : h.running? id = none) :
    h.running id = .error (.applicationNotRunning id) := by
  rw [running, stopped]

theorem pageTarget_of_running (named : page.isNamed = true)
    (runs : h.running? page.applicationId = some i) : h.pageTarget page = .ok i := by
  rw [pageTarget, checked_of_isNamed named, runningPage, runs]
  rfl

theorem pageTarget_of_stopped (named : page.isNamed = true)
    (stopped : h.running? page.applicationId = none) :
    h.pageTarget page = .error (.pageNotFound page) := by
  rw [pageTarget, checked_of_isNamed named, runningPage, stopped]
  rfl

theorem pageTarget_of_refused (unnamed : page.isNamed = false) :
    ∃ e, h.pageTarget page = .error e := by
  obtain ⟨e, refused⟩ := checked_of_not_isNamed unnamed
  exact ⟨e, by rw [pageTarget, refused]; rfl⟩

theorem callTarget_eq {call : MethodInvocation}
    (allowed : (call.applicationId.isEmpty || call.method.isEmpty) = false) :
    h.callTarget call = h.running call.applicationId := by
  obtain ⟨application, method⟩ := Bool.or_eq_false_iff.1 allowed
  simp only [callTarget, application, method]
  rfl

theorem callTarget_of_refused {call : MethodInvocation}
    (refused : (call.applicationId.isEmpty || call.method.isEmpty) = true) :
    ∃ e, h.callTarget call = .error e := by
  unfold callTarget
  cases application : call.applicationId.isEmpty with
  | true => exact ⟨_, rfl⟩
  | false =>
    have method : call.method.isEmpty = true := by simpa [application] using refused
    rw [method]
    exact ⟨_, rfl⟩

theorem triggerTarget_eq {t : EventTrigger} (named : t.page.isNamed = true)
    (event : t.name.isEmpty = false) : h.triggerTarget t = h.runningPage t.page := by
  simp only [triggerTarget, checked_of_isNamed named, event]
  rfl

theorem triggerTarget_of_refused {t : EventTrigger}
    (refused : (t.page.isNamed && !t.name.isEmpty) = false) : ∃ e, h.triggerTarget t = .error e := by
  unfold triggerTarget
  cases named : t.page.isNamed with
  | false =>
    obtain ⟨e, failed⟩ := checked_of_not_isNamed named
    exact ⟨e, by rw [failed]; rfl⟩
  | true =>
    have unnamed : t.name.isEmpty = true := by simpa [named] using refused
    rw [checked_of_isNamed named, unnamed]
    exact ⟨_, rfl⟩

theorem running?_of_running (found : h.running id = .ok i) : h.running? id = some i := by
  unfold running at found
  split at found <;> cases found
  assumption

theorem running?_of_runningPage {page : PageRef} (found : h.runningPage page = .ok i) :
    h.running? page.applicationId = some i := by
  unfold runningPage at found
  split at found <;> cases found
  assumption

theorem running?_of_pageTarget {page : PageRef} (found : h.pageTarget page = .ok i) :
    h.running? page.applicationId = some i := by
  obtain ⟨_, -, target⟩ := bind_eq_ok found
  exact running?_of_runningPage target

theorem running?_of_callTarget {call : MethodInvocation} (found : h.callTarget call = .ok i) :
    h.running? call.applicationId = some i := by
  cases allowed : call.applicationId.isEmpty || call.method.isEmpty with
  | true =>
    obtain ⟨e, refused⟩ := h.callTarget_of_refused allowed
    cases refused.symm.trans found
  | false => exact running?_of_running ((callTarget_eq allowed).symm.trans found)

theorem running?_of_triggerTarget {t : EventTrigger} (found : h.triggerTarget t = .ok i) :
    h.running? t.applicationId = some i := by
  unfold triggerTarget at found
  obtain ⟨_, -, target⟩ := bind_eq_ok found
  split at target
  · cases target
  · exact running?_of_runningPage target

theorem ask_eq_ok {α : Type} {found : Except RuntimeError Instance}
    {request : Instance → Except RuntimeError α × Instance} {a : α} {after : Host}
    (asked : h.ask id found request = (.ok a, after)) :
    ∃ i, found = .ok i ∧ (request i).1 = .ok a ∧ after = h.setRunning id (request i).2 := by
  cases found with
  | error e => cases asked
  | ok i =>
    obtain ⟨answered, left⟩ := Prod.mk.inj asked
    exact ⟨i, rfl, answered, left.symm⟩

theorem stop_of_stopped (stopped : h.running? id = none) (now : Moment) :
    h.stop now id = (.error (.applicationNotRunning id), h) := by
  rw [stop, running_of_stopped stopped]

theorem stop_of_running (runs : h.running? id = some i) (now : Moment) :
    h.stop now id = (.ok (), (h.retire now id).updateWatched) := by
  rw [stop, running_of_running? runs]

theorem publishPage_of_stopped (stopped : h.running? id = none) (page : Page) :
    h.publishPage id page = (.error (.applicationNotRunning id), h) := by
  rw [publishPage, running_of_stopped stopped, ask]

theorem publishPage_of_running (runs : h.running? id = some i) (page : Page) :
    h.publishPage id page = ((i.publishPage page).1, h.setRunning id (i.publishPage page).2) := by
  rw [publishPage, running_of_running? runs, ask]

theorem unpublishPage_of_stopped (stopped : h.running? page.applicationId = none) :
    h.unpublishPage page = (.error (.applicationNotRunning page.applicationId), h) := by
  rw [unpublishPage, running_of_stopped stopped, ask]

theorem unpublishPage_of_running (runs : h.running? page.applicationId = some i) :
    h.unpublishPage page = ((i.unpublishPage page.pageId).1,
      h.setRunning page.applicationId (i.unpublishPage page.pageId).2) := by
  rw [unpublishPage, running_of_running? runs, ask]

theorem resolvePage_of_stopped (named : page.isNamed = true)
    (stopped : h.running? page.applicationId = none) :
    h.resolvePage page = (.error (.pageNotFound page), h) := by
  rw [resolvePage, pageTarget_of_stopped named stopped, ask]

theorem resolvePage_of_running (named : page.isNamed = true)
    (runs : h.running? page.applicationId = some i) :
    h.resolvePage page = (i.resolvePage page.pageId, h) := by
  rw [resolvePage, pageTarget_of_running named runs, ask]
  exact congrArg (Prod.mk _) (setRunning_self runs)

theorem resolvePage_snd (h : Host) (page : PageRef) : (h.resolvePage page).2 = h := by
  cases named : page.isNamed with
  | false =>
    obtain ⟨e, refused⟩ := h.pageTarget_of_refused named
    rw [resolvePage, refused, ask]
  | true =>
    cases runs : h.running? page.applicationId with
    | none => rw [resolvePage_of_stopped named runs]
    | some i => rw [resolvePage_of_running named runs]

theorem subscribe_of_stopped (named : page.isNamed = true)
    (stopped : h.running? page.applicationId = none) :
    h.subscribe page = (.error (.pageNotFound page), h) := by
  rw [subscribe, pageTarget_of_stopped named stopped, ask]

theorem subscribe_of_running (named : page.isNamed = true)
    (runs : h.running? page.applicationId = some i) :
    h.subscribe page = ((i.subscribe page.pageId).1.map (.mk (h.runningRef page.applicationId)),
      h.setRunning page.applicationId (i.subscribe page.pageId).2) := by
  rw [subscribe, pageTarget_of_running named runs, ask]

theorem emitToPage_of_stopped (named : page.isNamed = true)
    (stopped : h.running? page.applicationId = none) (event : ApplicationEvent) :
    h.emitToPage page event = (.error (.pageNotFound page), h) := by
  rw [emitToPage, pageTarget_of_stopped named stopped, ask]

theorem emitToPage_of_running (named : page.isNamed = true)
    (runs : h.running? page.applicationId = some i) (event : ApplicationEvent) :
    h.emitToPage page event = ((i.emitToServed page.pageId event).1,
      h.setRunning page.applicationId (i.emitToServed page.pageId event).2) := by
  rw [emitToPage, pageTarget_of_running named runs, ask]

theorem emitToAll_of_stopped (stopped : h.running? id = none) (event : ApplicationEvent) :
    h.emitToAll id event = (.error (.applicationNotRunning id), h) := by
  rw [emitToAll, running_of_stopped stopped, ask]

theorem emitToAll_of_running (runs : h.running? id = some i) (event : ApplicationEvent) :
    h.emitToAll id event = (.ok (i.emitToAll event).1, h.setRunning id (i.emitToAll event).2) := by
  rw [emitToAll, running_of_running? runs, ask]

theorem trigger_of_refused {t : EventTrigger}
    (refused : (t.page.isNamed && !t.name.isEmpty) = false) (now : Moment) :
    (h.trigger now t).2 = h := by
  obtain ⟨e, failed⟩ := h.triggerTarget_of_refused refused
  rw [trigger, failed, ask]

theorem trigger_of_stopped {t : EventTrigger} (named : t.page.isNamed = true)
    (event : t.name.isEmpty = false) (stopped : h.running? t.applicationId = none) (now : Moment) :
    h.trigger now t = (.error (.pageNotFound t.page), h) := by
  have absent : h.runningPage t.page = .error (.pageNotFound t.page) := by
    simp only [runningPage, EventTrigger.page, stopped]
  rw [trigger, triggerTarget_eq named event, absent, ask]

theorem trigger_of_running {t : EventTrigger} (named : t.page.isNamed = true)
    (event : t.name.isEmpty = false) (runs : h.running? t.applicationId = some i) (now : Moment) :
    h.trigger now t =
      ((i.handleEvent now.date t.pageId t.name t.arguments false).1,
        h.setRunning t.applicationId
          (i.handleEvent now.date t.pageId t.name t.arguments false).2) := by
  have present : h.runningPage t.page = .ok i := by
    simp only [runningPage, EventTrigger.page, runs]
  rw [trigger, triggerTarget_eq named event, present, ask]

theorem unsubscribe_eq_alter (h : Host) (stream : SubscriptionRef) :
    h.unsubscribe stream = h.alter stream.target (·.unsubscribe stream.number) := by
  unfold unsubscribe alter
  cases h.instance? stream.target <;> rfl

theorem receive_eq_alter (h : Host) (stream : SubscriptionRef) :
    (h.receive stream).2 = h.alter stream.target fun i => (i.receive stream.number).2 := by
  unfold receive alter
  cases h.instance? stream.target <;> rfl

theorem invoke_of_refused {call : MethodInvocation}
    (refused : (call.applicationId.isEmpty || call.method.isEmpty) = true) (now : Moment) :
    (h.invoke now call).2 = h := by
  obtain ⟨e, failed⟩ := h.callTarget_of_refused refused
  rw [invoke, failed, ask]

theorem invoke_of_stopped {call : MethodInvocation} (stopped : h.running? call.applicationId = none)
    (now : Moment) : (h.invoke now call).2 = h := by
  cases allowed : call.applicationId.isEmpty || call.method.isEmpty with
  | true => exact invoke_of_refused allowed now
  | false => rw [invoke, callTarget_eq allowed, running_of_stopped stopped, ask]

theorem invoke_of_running {call : MethodInvocation}
    (allowed : (call.applicationId.isEmpty || call.method.isEmpty) = false)
    (runs : h.running? call.applicationId = some i) (now : Moment) :
    h.invoke now call =
      ((i.invoke now.date call.method call.arguments).1.map .mk,
        h.setRunning call.applicationId (i.invoke now.date call.method call.arguments).2) := by
  rw [invoke, callTarget_eq allowed, running_of_running? runs, ask]

end

/-- An operation that works on an instance does nothing else. -/
theorem application_perform (h : Host) (now : Moment) {op : Operation} {addressee : Addressee}
    (works : op.addressee? = some addressee) (id : String) :
    (h.perform now op).application id =
      (h.alter (addressee.ref h) (·.perform now op)).application id := by
  cases op with
  | publishPage other page =>
    cases works
    refine application_running (fun stopped => ?_) (fun i runs => ?_) id
    · exact congrArg Prod.snd (publishPage_of_stopped stopped page)
    · exact congrArg Prod.snd (publishPage_of_running runs page)
  | unpublishPage page =>
    cases works
    refine application_running (fun stopped => ?_) (fun i runs => ?_) id
    · exact congrArg Prod.snd (unpublishPage_of_stopped stopped)
    · exact congrArg Prod.snd (unpublishPage_of_running runs)
  | subscribe page =>
    obtain ⟨named, ⟨⟩⟩ := Option.ite_none_right_eq_some.1 works
    refine application_running (fun stopped => ?_) (fun i runs => ?_) id
    · exact congrArg Prod.snd (subscribe_of_stopped named stopped)
    · exact congrArg Prod.snd (subscribe_of_running named runs)
  | emitToPage page event =>
    obtain ⟨named, ⟨⟩⟩ := Option.ite_none_right_eq_some.1 works
    refine application_running (fun stopped => ?_) (fun i runs => ?_) id
    · exact congrArg Prod.snd (emitToPage_of_stopped named stopped event)
    · exact congrArg Prod.snd (emitToPage_of_running named runs event)
  | emitToAll other event =>
    cases works
    refine application_running (fun stopped => ?_) (fun i runs => ?_) id
    · exact congrArg Prod.snd (emitToAll_of_stopped stopped event)
    · exact congrArg Prod.snd (emitToAll_of_running runs event)
  | trigger t =>
    obtain ⟨allowed, ⟨⟩⟩ := Option.ite_none_right_eq_some.1 works
    obtain ⟨named, event⟩ := (Bool.and_eq_true _ _).mp allowed
    have event : t.name.isEmpty = false := by simpa using event
    refine application_running (fun stopped => ?_) (fun i runs => ?_) id
    · exact congrArg Prod.snd (trigger_of_stopped named event stopped now)
    · exact congrArg Prod.snd (trigger_of_running named event runs now)
  | invoke call =>
    obtain ⟨allowed, ⟨⟩⟩ := Option.ite_none_left_eq_some.1 works
    have allowed := Bool.eq_false_iff.2 allowed
    refine application_running (fun stopped => ?_) (fun i runs => ?_) id
    · exact invoke_of_stopped stopped now
    · exact congrArg Prod.snd (invoke_of_running allowed runs now)
  | receive stream =>
    cases works
    simp only [perform, receive_eq_alter, Addressee.ref, Instance.perform]
  | unsubscribe stream =>
    cases works
    simp only [perform, unsubscribe_eq_alter, Addressee.ref, Instance.perform]
  | sendToPage source page event | sendToAll source event =>
    cases works
    rfl
  | register _ | launch _ _ | launchWith _ _ | stop _ | stopAll _ | resolvePage _ | findLog _ =>
    cases works

theorem application_perform_of_none (h : Host) (now : Moment) {op : Operation}
    (leaves : op.leavesPages = true) (none : op.addressee? = none) (id : String) :
    (h.perform now op).application id = h.application id := by
  cases op with
  | launch _ _ | launchWith _ _ | stop _ | stopAll _ | publishPage _ _ | unpublishPage _ =>
    cases leaves
  | receive _ | unsubscribe _ | emitToAll _ _ | sendToPage _ _ _ | sendToAll _ _ => cases none
  | register m =>
    simp only [perform, register]
    cases m.validate <;> rfl
  | resolvePage page => rw [perform, resolvePage_snd]
  | findLog other =>
    simp only [perform, findLog]
    split
    · rfl
    · split <;> rfl
  | subscribe page =>
    obtain ⟨e, refused⟩ := h.pageTarget_of_refused (by simpa [Operation.addressee?] using none)
    rw [perform, subscribe, refused, ask]
  | emitToPage page event =>
    obtain ⟨e, refused⟩ := h.pageTarget_of_refused (by simpa [Operation.addressee?] using none)
    rw [perform, emitToPage, refused, ask]
  | invoke call =>
    cases refused : call.applicationId.isEmpty || call.method.isEmpty with
    | true => simp only [perform, invoke_of_refused refused]
    | false => simp [Operation.addressee?, refused] at none
  | trigger t =>
    simp only [perform, trigger_of_refused (by simpa [Operation.addressee?] using none)]

end Host
end AppHost
