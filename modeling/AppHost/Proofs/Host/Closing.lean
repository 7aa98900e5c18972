import AppHost.Proofs.Host.Streams

/-!
What closes a stream, and what leaves it alone. A subscription ends with the stop of its
application; it is closed with its page, and keeps what it has. Other operations leave it on its page
and do not open it again.
-/

set_option autoImplicit false
namespace AppHost

/-- Neither receives, nor drops a subscription, nor closes all. -/
def HubStep.isCommon : HubStep → Bool
  | .receive _ => false
  | .unsubscribe _ => false
  | .closeAll => false
  | _ => true

namespace Operation

def stops (id : String) : Operation → Bool
  | .stop other => other = id
  | .stopAll _ => true
  | _ => false

theorem isCommon_of_mem_steps {i : Instance} {now : Moment} {op : Operation}
    (receives : ∀ stream, op ≠ .receive stream) (drops : ∀ stream, op ≠ .unsubscribe stream) :
    ∀ a ∈ i.steps now op, a.isCommon = true := by
  have sends {α : Type} (activity : Activity α) (o : Outlets) :
      ∀ a ∈ activity.steps now.date o, a.isCommon = true := by
    intro a made
    rcases Activity.sends_of_mem_steps made with ⟨page, event, rfl⟩ | ⟨event, rfl⟩ <;> rfl
  cases op with
  | receive stream => exact absurd rfl (receives stream)
  | unsubscribe stream => exact absurd rfl (drops stream)
  | publishPage id page =>
    simp only [Instance.steps, Instance.serveSteps]
    split
    · simp
    · split <;> simp [HubStep.isCommon]
  | unpublishPage page | subscribe page | emitToPage page event =>
    simp only [Instance.steps]
    split <;> simp [HubStep.isCommon]
  | invoke call =>
    simp only [Instance.steps]
    split
    · simp
    · exact sends _ _
  | trigger t =>
    simp only [Instance.steps]
    split
    · exact sends _ _
    · simp
  | _ => simp [Instance.steps, HubStep.isCommon]

theorem hubSteps_of_stops (h : Host) (now : Moment) {ref : InstanceRef} (i : Instance)
    {op : Operation} (stops : op.stops ref.applicationId = true) :
    op.hubSteps h now ref i = if ref = h.runningRef ref.applicationId then [.closeAll] else [] := by
  cases op with
  | stop id =>
    have same : id = ref.applicationId := by simpa [Operation.stops] using stops
    rw [hubSteps, same]
  | stopAll order => rfl
  | _ => cases stops

theorem hubSteps_cases (h : Host) (now : Moment) (ref : InstanceRef) (i : Instance)
    {op : Operation} (running : op.stops ref.applicationId = false) :
    (∀ a ∈ op.hubSteps h now ref i, a.isCommon = true) ∨
    (∃ number, op = .receive ⟨ref, number⟩ ∧ op.hubSteps h now ref i = [.receive number]) ∨
    (∃ number, op = .unsubscribe ⟨ref, number⟩ ∧
      op.hubSteps h now ref i = [.unsubscribe number]) := by
  have works : (∀ stream, op ≠ .receive stream) → (∀ stream, op ≠ .unsubscribe stream) →
      ∀ a ∈ (if op.worksOn h ref then i.steps now op else []), a.isCommon = true := by
    intro receives drops
    split
    · exact isCommon_of_mem_steps receives drops
    · simp
  cases op with
  | stop id =>
    have other : ref ≠ h.runningRef id := by
      rintro rfl
      simp [stops, Host.runningRef] at running
    refine .inl ?_
    simp [hubSteps, other]
  | stopAll order => cases running
  | receive stream =>
    by_cases here : ref = stream.target
    · subst here
      refine .inr (.inl ⟨stream.number, rfl, ?_⟩)
      simp [hubSteps, Instance.steps]
    · refine .inl ?_
      simp [hubSteps, here]
  | unsubscribe stream =>
    by_cases here : ref = stream.target
    · subst here
      refine .inr (.inr ⟨stream.number, rfl, ?_⟩)
      simp [hubSteps, Instance.steps]
    · refine .inl ?_
      simp [hubSteps, here]
  | _ => exact .inl (works (by simp) (by simp))

end Operation

namespace Host
variable {h after : Host} {stream : SubscriptionRef} {s : Standing}

theorem eq_ended_of_retired (orderly : h.Orderly) (present : h.standing? stream = some s)
    (retired : stream.target ≠ h.runningRef stream.target.applicationId) : s = .ended s.page := by
  obtain ⟨i, target, stands⟩ := Option.bind_eq_some_iff.1 present
  have down : i.hub.isShutDown = true := by
    rw [← Bool.not_eq_false]
    exact fun up => retired (running_of_up orderly target up).1
  obtain ⟨subscription, -, rfl⟩ := Option.map_eq_some_iff.1 stands
  rw [Hub.standing_of_isShutDown down]
  rfl

theorem standing?_perform_of_stops (orderly : h.Orderly) (present : h.standing? stream = some s)
    (now : Moment) {op : Operation} (stops : op.stops stream.target.applicationId = true) :
    (h.perform now op).standing? stream = some (.ended s.page) := by
  obtain ⟨i, target, stands⟩ := Option.bind_eq_some_iff.1 present
  have next := standing?_perform orderly now op target stands
  rw [op.hubSteps_of_stops h now i stops] at next
  by_cases runs : stream.target = h.runningRef stream.target.applicationId
  · rw [if_pos runs] at next
    exact next (by simp)
  · rw [if_neg runs] at next
    exact (next (by simp)).trans (congrArg some (eq_ended_of_retired orderly present runs))

theorem standing?_perform_cases (orderly : h.Orderly) (present : h.standing? stream = some s)
    (now : Moment) {op : Operation} (kept : op ≠ .unsubscribe stream)
    (running : op.stops stream.target.applicationId = false) :
    (op = .receive stream ∧ (h.perform now op).standing? stream = some s.read.2) ∨
    (op ≠ .receive stream ∧ ∃ after, (h.perform now op).standing? stream = some after ∧
      after.page = s.page ∧ (s.isOpen = false → after = s)) := by
  obtain ⟨i, target, stands⟩ := Option.bind_eq_some_iff.1 present
  have next := standing?_perform orderly now op target stands
  rcases op.hubSteps_cases h now stream.target i running with
    common | ⟨number, rfl, own⟩ | ⟨number, rfl, own⟩
  · refine .inr ⟨?_, _, next fun drops => ?_, Standing.foldl_after_page _ _ s _, ?_⟩
    · rintro rfl
      have received : (.receive stream.number : HubStep) ∈
          (Operation.receive stream).hubSteps h now stream.target i := by
        simp [Operation.hubSteps, Instance.steps]
      cases common _ received
    · cases common _ drops
    · intro closed
      refine Standing.foldl_after_of_closed closed (fun received => ?_) (fun all => ?_)
      · cases common _ received
      · cases common _ all
  · rw [own] at next
    by_cases same : number = stream.number
    · subst same
      exact .inl ⟨rfl, (next (by simp)).trans (congrArg some (if_pos rfl))⟩
    · have other : Operation.receive ⟨stream.target, number⟩ ≠ .receive stream := by
        intro equal
        exact same (congrArg SubscriptionRef.number (Operation.receive.inj equal))
      have idle := (next (by simp)).trans (congrArg some (if_neg same))
      exact .inr ⟨other, s, idle, rfl, fun _ => rfl⟩
  · rw [own] at next
    have other : number ≠ stream.number := fun same => kept (same ▸ rfl)
    have idle := next (by simp [Ne.symm other])
    exact .inr ⟨by simp, s, idle, rfl, fun _ => rfl⟩

theorem standing?_run (orderly : h.Orderly) (present : h.standing? stream = some s)
    {operations : List (Moment × Operation)} (kept : ∀ o ∈ operations, o.2 ≠ .unsubscribe stream) :
    ∃ after, (h.run operations).standing? stream = some after ∧ after.page = s.page := by
  induction operations generalizing h s with
  | nil => exact ⟨s, present, rfl⟩
  | cons o rest ih =>
    obtain ⟨keptNow, keptLater⟩ := List.forall_mem_cons.1 kept
    have orderlyNext := orderly_perform orderly o.1 o.2
    obtain ⟨next, stands, here⟩ : ∃ next,
        (h.perform o.1 o.2).standing? stream = some next ∧ next.page = s.page := by
      cases stops : o.2.stops stream.target.applicationId with
      | true => exact ⟨_, standing?_perform_of_stops orderly present o.1 stops, rfl⟩
      | false =>
        rcases standing?_perform_cases orderly present o.1 keptNow stops with
          ⟨-, next⟩ | ⟨-, next, stands, here, -⟩
        · exact ⟨_, next, rfl⟩
        · exact ⟨next, stands, here⟩
    obtain ⟨last, stands, there⟩ := ih orderlyNext stands keptLater
    exact ⟨last, stands, there.trans here⟩

/-! ### What closes a stream -/

inductive Closes (h : Host) (page : PageRef) : Host → Prop
  | unpublished {after : Host} (done : h.unpublishPage page = (.ok (), after)) : Closes h page after
  | published (p : Page) {after : Host} (same : p.id = page.pageId)
    (done : h.publishPage page.applicationId p = (.ok (), after)) : Closes h page after

inductive Stops (h : Host) (id : String) : Host → Prop
  | one (now : Moment) {after : Host} (done : h.stop now id = (.ok (), after)) : Stops h id after
  | all (now : Moment) (order : List String) : Stops h id (h.perform now (.stopAll order))

variable {page : PageRef}

theorem hubSteps_running (now : Moment) (ref : InstanceRef) (i : Instance) {op : Operation}
    {id : String} (works : op.addressee? = some (.running id)) :
    op.hubSteps h now ref i = if ref = h.runningRef id then i.steps now op else [] := by
  have meant : (if op.worksOn h ref then i.steps now op else []) =
      if ref = h.runningRef id then i.steps now op else [] := by
    simp [Operation.worksOn_running works]
  cases op with
  | stop _ | stopAll _ => cases works
  | _ => exact meant

theorem Closes.eq_perform (closes : h.Closes page after) (now : Moment) :
    ∃ op i, h.running? page.applicationId = some i ∧ h.perform now op = after ∧
      op.addressee? = some (.running page.applicationId) ∧
      (i.steps now op = [.closePage page.pageId] ∨ i.steps now op = i.serveSteps page.pageId) := by
  cases runs : h.running? page.applicationId with
  | none =>
    cases closes with
    | unpublished done =>
      rw [unpublishPage_of_stopped runs] at done
      cases done
    | published p same done =>
      rw [publishPage_of_stopped runs] at done
      cases done
  | some i =>
    cases closes with
    | unpublished done =>
      refine ⟨.unpublishPage page, i, rfl, ?_, rfl, .inl ?_⟩
      · simp only [perform, done]
      · rw [unpublishPage_of_running runs] at done
        cases served : i.pages.pages.contains page.pageId with
        | true => exact if_pos served
        | false =>
          rw [Instance.unpublishPage_of_absent served] at done
          cases done
    | published p same done =>
      refine ⟨.publishPage page.applicationId p, i, rfl, ?_, rfl, .inr ?_⟩
      · simp only [perform, done]
      · rw [publishPage_of_running runs] at done
        simp only [Instance.steps]
        cases valid : p.validate with
        | ok u => rw [same]
        | error e =>
          rw [Instance.publishPage_of_invalid valid] at done
          cases done

theorem foldl_serveSteps {id : String} {i : Instance} (sound : i.Sound id) {number : Nat}
    (stands : i.hub.standing? number = some s) (served : String) :
    (i.serveSteps served).foldl (·.after i.hub.capacity number) s = s.close served := by
  cases found : i.pages.pages.find? served with
  | some p =>
    unfold Instance.serveSteps
    rw [Dictionary.contains_of_find? found]
    rfl
  | none =>
    have absent := (Instance.agrees_iff_isSome i).1 sound.agrees served
    rw [found, eq_comm, Option.isSome_none, Option.isSome_eq_false_iff, Option.isNone_iff_eq_none]
      at absent
    unfold Instance.serveSteps
    rw [Dictionary.not_contains_of_find? found]
    obtain ⟨subscription, -, rfl⟩ := Option.map_eq_some_iff.1 stands
    -- Nobody reads this page live, since what is not served is not open.
    by_cases here : (i.hub.standing subscription).page = served
    · rw [Hub.standing_page] at here
      have closed := Hub.isOpen_standing_of_absent (here ▸ absent)
      exact (Standing.close_of_closed closed served).symm
    · exact (Standing.close_of_ne here).symm

theorem standing?_closes (orderly : h.Orderly) (present : h.standing? stream = some s)
    (closes : h.Closes page after) :
    after.Orderly ∧ after.standing? stream =
      some (if stream.target.applicationId = page.applicationId then s.close page.pageId else s) := by
  obtain ⟨op, running, runs, rfl, works, steps⟩ := closes.eq_perform ⟨⟨0, 0, by decide⟩, 0⟩
  refine ⟨orderly_perform orderly _ op, ?_⟩
  obtain ⟨i, target, stands⟩ := Option.bind_eq_some_iff.1 present
  have next := standing?_perform orderly ⟨⟨0, 0, by decide⟩, 0⟩ op target stands
  rw [hubSteps_running _ _ i works] at next
  by_cases here : stream.target = h.runningRef page.applicationId
  · have same : i = running := by
      rw [here] at target
      exact Option.some.inj (target.symm.trans ((h.instance?_runningRef _).trans runs))
    subst same
    rw [if_pos here] at next
    have application : stream.target.applicationId = page.applicationId := by rw [here]; rfl
    rw [if_pos application]
    rcases steps with closed | served
    · rw [closed] at next
      exact next (by simp)
    · rw [served, foldl_serveSteps ((orderly _).running i runs) stands] at next
      refine next ?_
      unfold Instance.serveSteps
      split <;> simp
  · rw [if_neg here] at next
    rw [next (by simp)]
    split
    -- The stream is of an earlier launch, and closed since that was stopped.
    · rename_i application
      rw [← application] at here
      have closed : s.isOpen = false := by rw [eq_ended_of_retired orderly present here]; rfl
      exact congrArg some (Standing.close_of_closed closed _).symm
    · rfl

theorem standing?_stops (orderly : h.Orderly) (present : h.standing? stream = some s)
    (stops : h.Stops stream.target.applicationId after) :
    after.Orderly ∧ after.standing? stream = some (.ended s.page) := by
  cases stops with
  | one now done =>
    have same : h.perform now (.stop stream.target.applicationId) = after := by
      simp only [perform, done]
    subst same
    exact ⟨orderly_perform orderly _ _,
      standing?_perform_of_stops orderly present now (by simp [Operation.stops])⟩
  | all now order =>
    exact ⟨orderly_perform orderly _ _, standing?_perform_of_stops orderly present now rfl⟩

theorem standing?_stop_of_ne (orderly : h.Orderly) (present : h.standing? stream = some s)
    {now : Moment} {id : String} (other : id ≠ stream.target.applicationId)
    (done : h.stop now id = (.ok (), after)) :
    after.Orderly ∧ after.standing? stream = some s := by
  have same : h.perform now (.stop id) = after := by
    simp only [perform, done]
  subst same
  obtain ⟨i, target, stands⟩ := Option.bind_eq_some_iff.1 present
  have next := standing?_perform orderly now (.stop id) target stands
  have elsewhere : stream.target ≠ h.runningRef id :=
    fun same => other (congrArg InstanceRef.applicationId same).symm
  simp only [Operation.hubSteps, if_neg elsewhere] at next
  exact ⟨orderly_perform orderly _ _, next (by simp)⟩

/-! ### The whole life of a stream -/

theorem subscribe_eq_ok {made : Host} (subscribed : h.subscribe page = (.ok stream, made)) :
    ∃ (i : Instance) (after : Hub), i.hub.subscribe page.pageId = (some stream.number, after) ∧
      stream.target = h.runningRef page.applicationId ∧
      made = h.setRunning page.applicationId { i with hub := after } := by
  cases named : page.isNamed with
  | false =>
    obtain ⟨e, refused⟩ := h.pageTarget_of_refused named
    rw [subscribe, refused, ask] at subscribed
    cases subscribed
  | true =>
    cases runs : h.running? page.applicationId with
    | none =>
      rw [subscribe_of_stopped named runs] at subscribed
      cases subscribed
    | some i =>
      rw [subscribe_of_running named runs, Instance.subscribe] at subscribed
      cases found : i.pages.pages.find? page.pageId with
      | none =>
        rw [Instance.resolvePage_of_absent found] at subscribed
        cases subscribed
      | some p =>
        rw [Instance.resolvePage_of_found found] at subscribed
        rcases attached : i.hub.subscribe page.pageId with ⟨_ | number, after⟩ <;>
          rw [attached] at subscribed <;> cases subscribed
        exact ⟨i, after, attached, rfl, rfl⟩

theorem standing?_subscribe (orderly : h.Orderly) {made : Host}
    (subscribed : h.subscribe page = (.ok stream, made)) :
    made.Orderly ∧ stream.target.applicationId = page.applicationId ∧
      made.standing? stream = some ⟨page.pageId, .empty, true⟩ := by
  obtain ⟨i, hub, attached, target, rfl⟩ := subscribe_eq_ok subscribed
  refine ⟨?_, by rw [target]; rfl, ?_⟩
  · have next := orderly_perform orderly ⟨⟨0, 0, by decide⟩, 0⟩ (.subscribe page)
    simp only [perform, subscribed] at next
    exact next
  · have present : (h.setRunning page.applicationId { i with hub }).instance? stream.target =
        some { i with hub } := by
      rw [target, instance?, application_setRunning]
      refine (congrArg (Application.instance? · _) (if_pos rfl)).trans ?_
      exact Application.instance?_running ((h.application page.applicationId).start { i with hub })
    rw [standing?, present]
    exact Hub.standing?_subscribe_self attached

end Host

end AppHost
