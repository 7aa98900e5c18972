import AppHost.Proofs.Host.Serving
import AppHost.Proofs.Hub.Retained

/-!
Subscriptions that were made through a host, each followed through a run of it. An instance keeps
its number for good, so that a subscription means the same stream however often its application is
stopped and launched again.
-/

set_option autoImplicit false
namespace AppHost

def Operation.worksOn (h : Host) (ref : InstanceRef) (op : Operation) : Bool :=
  op.addressee?.any fun addressee => ref = addressee.ref h

@[simp] theorem Operation.worksOn_receive (h : Host) (ref : InstanceRef)
    (stream : SubscriptionRef) : (receive stream).worksOn h ref = decide (ref = stream.target) := rfl

@[simp] theorem Operation.worksOn_unsubscribe (h : Host) (ref : InstanceRef)
    (stream : SubscriptionRef) :
    (unsubscribe stream).worksOn h ref = decide (ref = stream.target) := rfl

theorem Operation.worksOn_running {op : Operation} {id : String}
    (works : op.addressee? = some (.running id)) (h : Host) (ref : InstanceRef) :
    op.worksOn h ref = decide (ref = h.runningRef id) := by
  rw [worksOn, works]
  rfl

def Operation.effect (h : Host) (now : Moment) (ref : InstanceRef) (i : Instance) :
    Operation → Instance
  | .stop id => if ref = h.runningRef id then i.stop now.date else i
  | .stopAll _ => if ref = h.runningRef ref.applicationId then i.stop now.date else i
  | op => if op.worksOn h ref then i.perform now op else i

/-- What an operation does to the hub of an instance. -/
def Operation.hubSteps (h : Host) (now : Moment) (ref : InstanceRef) (i : Instance) :
    Operation → List HubStep
  | .stop id => if ref = h.runningRef id then [.closeAll] else []
  | .stopAll _ => if ref = h.runningRef ref.applicationId then [.closeAll] else []
  | op => if op.worksOn h ref then i.steps now op else []

theorem Operation.hub_effect (h : Host) (now : Moment) (ref : InstanceRef) (i : Instance)
    (op : Operation) : (op.effect h now ref i).hub = i.hub.run (op.hubSteps h now ref i) := by
  have works : (if op.worksOn h ref then i.perform now op else i).hub =
      i.hub.run (if op.worksOn h ref then i.steps now op else []) := by
    split
    · exact i.hub_perform now op
    · rfl
  cases op with
  | stop id =>
    simp only [effect, hubSteps]
    split <;> rfl
  | stopAll order =>
    simp only [effect, hubSteps]
    split <;> rfl
  | _ => exact works

namespace Application

/-- The running instance is sound, and those that were stopped are shut down. -/
structure Orderly (id : String) (a : Application) : Prop where
  running : ∀ i, a.current = some i → i.Sound id
  retired : ∀ i ∈ a.retired, i.hub.Coherent ∧ i.hub.isShutDown = true

variable {id : String} {a : Application}

theorem orderly_start (orderly : a.Orderly id) {i : Instance} (sound : i.Sound id) :
    (a.start i).Orderly id where
  running := by
    rintro _ ⟨⟩
    exact sound
  retired := orderly.retired

theorem orderly_retire (orderly : a.Orderly id) (time : Calendar.Instant) :
    (a.retire time).Orderly id := by
  refine ⟨fun i runs => ?_, fun i stopped => ?_⟩
  · cases (current_retire a time).symm.trans runs
  · unfold retire at stopped
    split at stopped
    · rename_i last runs
      rcases List.mem_append.1 stopped with before | now
      · exact orderly.retired i before
      · cases List.mem_singleton.1 now
        exact ⟨Hub.coherent_closeAll (orderly.running last runs).coherent, Hub.isShutDown_closeAll _⟩
    · exact orderly.retired i stopped

theorem orderly_alter (orderly : a.Orderly id) (launch : Nat) (now : Moment) (op : Operation) :
    (a.alter launch (·.perform now op)).Orderly id := by
  refine ⟨fun i runs => ?_, fun i stopped => ?_⟩
  · rw [current_alter] at runs
    split at runs
    · obtain ⟨before, running, rfl⟩ := Option.map_eq_some_iff.1 runs
      exact Instance.sound_perform (orderly.running before running) now op
    · exact orderly.running i runs
  · unfold alter at stopped
    split at stopped
    · rename_i before found
      unfold set at stopped
      split at stopped
      · rename_i inside
        rcases List.mem_or_eq_of_mem_set stopped with same | changed
        · exact orderly.retired i same
        · rw [instance?, instances, List.getElem?_append_left inside] at found
          obtain ⟨coherent, down⟩ := orderly.retired before (List.mem_of_getElem? found)
          rw [changed, Instance.hub_perform]
          exact ⟨Hub.coherent_run coherent _, Hub.isShutDown_run_of_isShutDown down _⟩
      · split at stopped
        · exact orderly.retired i stopped
        · exact orderly.retired i stopped
    · exact orderly.retired i stopped

end Application

namespace Host
variable {h : Host} {now : Moment}

theorem instance?_congr {after : Host} {ref : InstanceRef}
    (same : after.application ref.applicationId = h.application ref.applicationId) :
    after.instance? ref = h.instance? ref :=
  congrArg (·.instance? ref.launch) same

theorem instance?_alter (h : Host) (ref : InstanceRef) (change : Instance → Instance)
    (other : InstanceRef) :
    (h.alter ref change).instance? other =
      if other = ref then (h.instance? other).map change else h.instance? other := by
  obtain ⟨id, launch⟩ := other
  simp only [instance?, application_alter]
  by_cases here : ref.applicationId = id
  · subst here
    rw [if_pos rfl, Application.instance?_alter]
    by_cases same : launch = ref.launch
    · subst same
      rw [if_pos rfl, if_pos rfl]
    · rw [if_neg same, if_neg (fun equal => same (congrArg InstanceRef.launch equal))]
  · rw [if_neg here, if_neg (fun equal => here (congrArg InstanceRef.applicationId equal).symm)]

theorem application_launched (h : Host) (now : Moment) (d : Descriptor) (handler : Handler)
    (id : String) :
    (h.launchWith now d handler).2.application id = h.application id ∨
      ∃ i, (h.application id).current = none ∧ i.Sound id ∧
        (h.launchWith now d handler).2.application id = (h.application id).start i := by
  obtain ⟨e, failed⟩ | ⟨-, -, i, -, made⟩ := h.launchWith_cases now d handler
  · exact .inl (by rw [failed])
  · obtain ⟨stopped, i, served, applications⟩ := application_launchWith made
    rw [made, applications]
    split
    · rename_i here
      subst here
      exact .inr ⟨i, stopped, Instance.sound_publishPages (Instance.sound_start ..) served, rfl⟩
    · exact .inl rfl

theorem application_perform_launch (h : Host) (now : Moment) {op : Operation}
    (launches : (∃ id version, op = .launch id version) ∨ ∃ d handler, op = .launchWith d handler)
    (id : String) :
    (h.perform now op).application id = h.application id ∨
      ∃ i, (h.application id).current = none ∧ i.Sound id ∧
        (h.perform now op).application id = (h.application id).start i := by
  rcases launches with ⟨other, version, rfl⟩ | ⟨d, handler, rfl⟩
  · rw [perform]
    obtain ⟨e, failed⟩ | ⟨m, -, -, same⟩ := h.launch_cases now other version
    · exact .inl (by rw [failed])
    · rw [same]
      exact h.application_launched now _ _ id
  · exact h.application_launched now d handler id

theorem application_perform_stop (h : Host) (now : Moment) (id other : String) :
    (h.perform now (.stop id)).application other =
      if id = other then (h.application other).retire now.date else h.application other := by
  simp only [perform, stop, running]
  cases runs : h.running? id with
  | none =>
    by_cases here : id = other
    · subst here
      rw [if_pos rfl, Application.retire_of_none runs]
    · rw [if_neg here]
  | some i => exact application_retire h now id other

theorem instance?_perform (h : Host) (now : Moment) (op : Operation) {ref : InstanceRef}
    {i : Instance} (present : h.instance? ref = some i) :
    (h.perform now op).instance? ref = some (op.effect h now ref i) := by
  obtain ⟨id, launch⟩ := ref
  have launches : (∃ id version, op = .launch id version) ∨
      (∃ d handler, op = .launchWith d handler) →
        (h.perform now op).instance? ⟨id, launch⟩ = some i := by
    intro launches
    rcases h.application_perform_launch now launches id with same | ⟨new, stopped, -, started⟩
    · exact (instance?_congr same).trans present
    -- The new instance has the number after all that were there.
    · have old : launch ≠ (h.application id).retired.length := by
        rintro rfl
        cases stopped.symm.trans ((Application.instance?_running _).symm.trans present)
      rw [instance?, started, Application.instance?_start stopped, if_neg old]
      exact present
  have works : (op.addressee? = none → op.leavesPages = true) →
      (h.perform now op).instance? ⟨id, launch⟩ =
        some (if op.worksOn h ⟨id, launch⟩ then i.perform now op else i) := by
    intro leaves
    cases works : op.addressee? with
    | none =>
      rw [instance?_congr (application_perform_of_none h now (leaves works) works id), present]
      simp [Operation.worksOn, works]
    | some addressee =>
      rw [instance?_congr (application_perform h now works id), instance?_alter, present]
      simp only [Operation.worksOn, works, Option.any_some, decide_eq_true_eq]
      split <;> rfl
  cases op with
  | launch other version => exact launches (.inl ⟨other, version, rfl⟩)
  | launchWith d handler => exact launches (.inr ⟨d, handler, rfl⟩)
  | stop other =>
    rw [instance?, application_perform_stop]
    by_cases here : other = id
    · subst here
      rw [if_pos rfl, Application.instance?_retire, ← instance?, present]
      by_cases last : launch = (h.application other).retired.length
      · simp [Operation.effect, runningRef, last]
      · simp [Operation.effect, runningRef, last]
    · have different : (⟨id, launch⟩ : InstanceRef) ≠ h.runningRef other :=
        fun same => here (congrArg InstanceRef.applicationId same).symm
      rw [if_neg here]
      exact present.trans (congrArg some (if_neg different).symm)
  | stopAll order =>
    rw [instance?, application_stopAll, Application.instance?_retire, ← instance?, present]
    by_cases last : launch = (h.application id).retired.length
    · simp [Operation.effect, runningRef, last]
    · simp [Operation.effect, runningRef, last]
  | _ => exact works fun none => by first | rfl | cases none

/-- What holds of the instances of every application after any run. -/
def Orderly (h : Host) : Prop := ∀ id, (h.application id).Orderly id

theorem orderly_new (options : HostOptions) : (new options).Orderly := by
  intro id
  refine ⟨fun i runs => ?_, fun i stopped => ?_⟩
  · cases runs
  · cases stopped

theorem orderly_perform (orderly : h.Orderly) (now : Moment) (op : Operation) :
    (h.perform now op).Orderly := by
  intro id
  have launches : (∃ id version, op = .launch id version) ∨
      (∃ d handler, op = .launchWith d handler) → ((h.perform now op).application id).Orderly id := by
    intro launches
    rcases h.application_perform_launch now launches id with same | ⟨new, -, sound, started⟩
    · exact same ▸ orderly id
    · exact started ▸ Application.orderly_start (orderly id) sound
  have works : (op.addressee? = none → op.leavesPages = true) →
      ((h.perform now op).application id).Orderly id := by
    intro leaves
    cases works : op.addressee? with
    | none => exact application_perform_of_none h now (leaves works) works id ▸ orderly id
    | some addressee =>
      rw [application_perform h now works id, application_alter]
      split
      · exact Application.orderly_alter (orderly id) _ now op
      · exact orderly id
  cases op with
  | launch other version => exact launches (.inl ⟨other, version, rfl⟩)
  | launchWith d handler => exact launches (.inr ⟨d, handler, rfl⟩)
  | stop other =>
    rw [application_perform_stop]
    split
    · exact Application.orderly_retire (orderly id) now.date
    · exact orderly id
  | stopAll order =>
    rw [application_stopAll]
    exact Application.orderly_retire (orderly id) now.date
  | _ => exact works fun none => by first | rfl | cases none

theorem orderly_run (orderly : h.Orderly) (operations : List (Moment × Operation)) :
    (h.run operations).Orderly := by
  induction operations generalizing h with
  | nil => exact orderly
  | cons o rest ih => exact ih (orderly_perform orderly o.1 o.2)

theorem coherent_of_orderly (orderly : h.Orderly) {ref : InstanceRef} {i : Instance}
    (present : h.instance? ref = some i) : i.hub.Coherent := by
  rcases List.mem_append.1 (List.mem_of_getElem? present) with stopped | runs
  · exact ((orderly ref.applicationId).retired i stopped).1
  · exact ((orderly ref.applicationId).running i (Option.mem_toList.1 runs)).coherent

theorem running_of_up (orderly : h.Orderly) {ref : InstanceRef} {i : Instance}
    (present : h.instance? ref = some i) (up : i.hub.isShutDown = false) :
    ref = h.runningRef ref.applicationId ∧ h.running? ref.applicationId = some i := by
  obtain ⟨id, launch⟩ := ref
  rcases Nat.lt_or_ge launch (h.application id).retired.length with before | after
  · rw [instance?, Application.instance?, Application.instances,
      List.getElem?_append_left before] at present
    have down := ((orderly id).retired i (List.mem_of_getElem? present)).2
    cases down.symm.trans up
  · rw [instance?, Application.instance?, Application.instances,
      List.getElem?_append_right after] at present
    cases current : (h.application id).current with
    | none =>
      rw [current] at present
      cases present
    | some last =>
      rw [current] at present
      obtain ⟨within, same⟩ := List.getElem?_eq_some_iff.1 present
      have launched : launch = (h.application id).retired.length := by
        rw [Option.toList_some, List.length_singleton] at within
        omega
      subst launched
      have last : last = i := by simpa using same
      exact ⟨rfl, last ▸ current⟩

def standing? (h : Host) (stream : SubscriptionRef) : Option Standing :=
  (h.instance? stream.target).bind (·.hub.standing? stream.number)

theorem receive_eq (orderly : h.Orderly) {stream : SubscriptionRef} {s : Standing}
    (present : h.standing? stream = some s) :
    (h.receive stream).1 = s.read.1 ∧ (h.receive stream).2.standing? stream = some s.read.2 := by
  obtain ⟨i, target, stands⟩ := Option.bind_eq_some_iff.1 present
  obtain ⟨found, left⟩ := Hub.receive_eq (coherent_of_orderly orderly target) stands
  constructor
  · simp only [receive, target]
    exact found
  · rw [receive_eq_alter, standing?, instance?_alter, if_pos rfl, target]
    exact left

theorem standing?_perform (orderly : h.Orderly) (now : Moment) (op : Operation)
    {stream : SubscriptionRef} {i : Instance} (target : h.instance? stream.target = some i)
    {s : Standing} (present : i.hub.standing? stream.number = some s)
    (kept : .unsubscribe stream.number ∉ op.hubSteps h now stream.target i) :
    (h.perform now op).standing? stream =
      some ((op.hubSteps h now stream.target i).foldl (·.after i.hub.capacity stream.number) s) := by
  rw [standing?, instance?_perform h now op target, Option.bind_some, Operation.hub_effect]
  exact Hub.standing?_run (coherent_of_orderly orderly target) present kept

end Host

end AppHost
