import AppHost.Proofs.Host.Frame
import AppHost.Proofs.Host.Roster
import AppHost.Proofs.Host.Streams

/-!
What is told of launches and stops. Of each application the events take turns, as its instances come
and go, and a stop tells of the instance that was launched before it.
-/

set_option autoImplicit false
namespace AppHost

/-- What stays the same as long as an instance runs. -/
def RunningApplication.identity (a : RunningApplication) :
    String × Option Calendar.Instant × Calendar.Instant :=
  (a.applicationId, a.version, a.startedAt)

def LifecycleEvent.isOf (id : String) (e : LifecycleEvent) : Bool :=
  e.application.applicationId = id

/-- Launches and stops take turns, beginning with a launch, and each stop is of what was launched
before it. What was launched and not stopped stands at the end. -/
inductive Alternates : List LifecycleEvent → Option RunningApplication → Prop
  | nothing : Alternates [] none
  | launched {events : List LifecycleEvent} {a : RunningApplication}
      (before : Alternates events none) : Alternates (events ++ [.launched a]) (some a)
  | stopped {events : List LifecycleEvent} {a b : RunningApplication}
      (before : Alternates events (some a)) (same : b.identity = a.identity) :
      Alternates (events ++ [.stopped b]) none

theorem Alternates.isSome_iff {events : List LifecycleEvent} {last : Option RunningApplication}
    (alternates : Alternates events last) :
    last.isSome ↔ ∃ a, events.getLast? = some (.launched a) := by
  cases alternates with
  | nothing => simp
  | launched before => simp
  | stopped before same => simp

/-- What there is to tell when the running instance changes. -/
def told : Option Instance → Option Instance → List LifecycleEvent
  | none, some i => [.launched i.summary]
  | some i, none => [.stopped i.summary]
  | _, _ => []

theorem told_of_isSome {before after : Option Instance} (same : after.isSome = before.isSome) :
    told before after = [] := by
  cases before with
  | none =>
    cases after with
    | none => rfl
    | some i => cases same
  | some i =>
    cases after with
    | none => cases same
    | some j => rfl

theorem mem_told {before after : Option Instance} {e : LifecycleEvent}
    (member : e ∈ told before after) :
    (∃ i, after = some i ∧ e = .launched i.summary) ∨
      ∃ i, before = some i ∧ e = .stopped i.summary := by
  cases before with
  | none =>
    cases after with
    | none => cases member
    | some i => exact .inl ⟨i, rfl, List.mem_singleton.1 member⟩
  | some i =>
    cases after with
    | none => exact .inr ⟨i, rfl, List.mem_singleton.1 member⟩
    | some j => cases member

theorem isOf_of_mem_told {before after : Option Instance} {id : String} {e : LifecycleEvent}
    (first : ∀ i, before = some i → i.applicationId = id)
    (second : ∀ i, after = some i → i.applicationId = id) (member : e ∈ told before after) :
    e.isOf id = true := by
  rcases mem_told member with ⟨i, runs, rfl⟩ | ⟨i, runs, rfl⟩
  · exact decide_eq_true (second i runs)
  · exact decide_eq_true (first i runs)

/-! ### What happens to a running instance -/

namespace Turn
variable {id : String} {deed? : Option Deed} {before after : Option Instance}

theorem identity {i j : Instance} (turn : Turn id deed? (some i) (some j)) :
    j.summary.identity = i.summary.identity := by
  cases turn with
  | published valid => rfl
  | unpublished => rfl
  | quiet elsewhere quiet => rfl

theorem identity_of_changesPages (turn : Turn id deed? before after)
    (changes : ∀ deed ∈ deed?, deed.changesPages = true) :
    after.map (·.summary.identity) = before.map (·.summary.identity) := by
  cases turn with
  | launched here served => cases changes _ rfl
  | stopped => cases changes _ rfl
  | allStopped => cases changes _ rfl
  | published valid => rfl
  | unpublished => rfl
  | quiet elsewhere quiet => rfl
  | idle elsewhere => rfl

theorem summary_of_none (turn : Turn id none before after) :
    after.map (·.summary) = before.map (·.summary) := by
  cases turn with
  | quiet elsewhere quiet => rfl
  | idle elsewhere => rfl

end Turn

namespace Host
variable {h : Host} {now : Moment} {id : String}

/-- The applications that an operation may launch or stop, in this order. -/
def concerned (h : Host) : Operation → List String
  | .launch id _ => (h.catalog.find? id).toList.map (·.id)
  | .launchWith d _ => [d.applicationId]
  | .stop id => [id]
  | .stopAll order => if order.isPerm h.runningIds then order else h.runningIds
  | _ => []

/-- The events that an operation tells. -/
def announced (h : Host) (now : Moment) (op : Operation) : List LifecycleEvent :=
  (h.concerned op).flatMap fun id => told (h.running? id) ((h.perform now op).running? id)

def announcements (h : Host) : List (Moment × Operation) → List LifecycleEvent
  | [] => []
  | (now, op) :: rest => h.announced now op ++ (h.perform now op).announcements rest

theorem concerned_nodup (h : Host) (op : Operation) : (h.concerned op).Nodup := by
  cases op with
  | launch id version =>
    simp only [concerned]
    cases h.catalog.find? id <;> simp
  | launchWith d handler => simp [concerned]
  | stop id => simp [concerned]
  | stopAll order =>
    simp only [concerned]
    split
    · rename_i same
      exact (List.isPerm_iff.1 same).nodup_iff.2 h.runningIds_nodup
    · exact h.runningIds_nodup
  | _ => exact List.nodup_nil

theorem mem_concerned_stopAll (h : Host) (order : List String) (id : String) :
    id ∈ h.concerned (.stopAll order) ↔ (h.running? id).isSome :=
  h.mem_stopAll order id

theorem concerned_of_asks {op : Operation} {d : Descriptor} {handler : Handler}
    (asked : h.Asks op d handler) : h.concerned op = [d.applicationId] := by
  cases asked with
  | launch declared =>
    simp only [concerned, declared]
    rfl
  | launchWith => rfl

theorem isSome_running?_perform (h : Host) (now : Moment) {op : Operation}
    (elsewhere : id ∉ h.concerned op) :
    ((h.perform now op).running? id).isSome = (h.running? id).isSome := by
  cases h.outcome now op with
  | refused same nothing => rw [same]
  | registered asked valid after nothing =>
    rw [after]
    rfl
  | @launched d handler i asked stopped starts after made =>
    rw [concerned_of_asks asked] at elsewhere
    have different : d.applicationId ≠ id := fun same => elsewhere (List.mem_singleton.2 same.symm)
    rw [after]
    exact congrArg Option.isSome ((running?_setRunning h _ i id).trans (if_neg different))
  | @stopped other i asked runs after made =>
    subst asked
    have different : other ≠ id := fun same => elsewhere (List.mem_singleton.2 same.symm)
    rw [after]
    exact congrArg Option.isSome ((running?_retire h now other id).trans (if_neg different))
  | @allStopped order asked =>
    subst asked
    have stopped := mt (mem_concerned_stopAll h order id).2 elsewhere
    rw [Bool.eq_false_iff.2 stopped, running?, application_stopAll, Application.current_retire]
    rfl
  | within isLocal after logs =>
    have same := (h.turn now op id).identity_of_changesPages (changesPages_of_isLocal isLocal)
    simpa using congrArg Option.isSome same

theorem applicationId_of_orderly (orderly : h.Orderly) {i : Instance}
    (runs : h.running? id = some i) : i.applicationId = id :=
  ((orderly id).running i runs).applicationId

/-- What an operation tells of an application is what happens to its running instance. -/
theorem announced_filter (orderly : h.Orderly) (now : Moment) (op : Operation) (id : String) :
    (h.announced now op).filter (·.isOf id) =
      told (h.running? id) ((h.perform now op).running? id) := by
  have own (other : String) : ∀ e ∈ told (h.running? other) ((h.perform now op).running? other),
      e.isOf other = true := fun e =>
    isOf_of_mem_told (fun i => applicationId_of_orderly orderly)
      (fun i => applicationId_of_orderly (orderly_perform orderly now op))
  -- No application is looked at twice, so that all that is told of one is told in one place.
  have row (ids : List String) (once : ids.Nodup) :
      (ids.flatMap fun id => told (h.running? id) ((h.perform now op).running? id)).filter
        (·.isOf id) =
      if id ∈ ids then told (h.running? id) ((h.perform now op).running? id) else [] := by
    induction ids with
    | nil => rfl
    | cons first rest ih =>
      obtain ⟨fresh, once⟩ := List.nodup_cons.1 once
      rw [List.flatMap_cons, List.filter_append, ih once]
      by_cases same : first = id
      · subst same
        rw [List.filter_eq_self.2 (own first), if_neg fresh, List.append_nil,
          if_pos List.mem_cons_self]
      · have others : ∀ e ∈ told (h.running? first) ((h.perform now op).running? first),
            ¬ e.isOf id = true := by
          intro e member isOf
          exact same ((of_decide_eq_true (own first e member)).symm.trans (of_decide_eq_true isOf))
        rw [List.filter_eq_nil_iff.2 others, List.nil_append]
        simp [Ne.symm same]
  rw [announced, row _ (h.concerned_nodup op)]
  split
  · rfl
  · rename_i elsewhere
    exact (told_of_isSome (h.isSome_running?_perform now elsewhere)).symm

/-! ### The feed -/

theorem announced_of_same {op : Operation}
    (same : ∀ id, ((h.perform now op).running? id).isSome = (h.running? id).isSome) :
    h.announced now op = [] :=
  List.flatMap_eq_nil_iff.2 fun id _ => told_of_isSome (same id)

theorem lifecycle_retire (h : Host) (now : Moment) (id : String) :
    (h.retire now id).lifecycle = (told (h.running? id) none).foldl Feed.send h.lifecycle := by
  unfold retire
  cases h.running? id <;> rfl

theorem lifecycle_stopEach (h : Host) (now : Moment) {order : List String} (once : order.Nodup) :
    (h.stopEach now order).lifecycle =
      (order.flatMap fun id => told (h.running? id) none).foldl Feed.send h.lifecycle := by
  have each : (order.foldl (fun h id => h.retire now id) h).lifecycle =
      (order.flatMap fun id => told (h.running? id) none).foldl Feed.send h.lifecycle := by
    induction order generalizing h with
    | nil => rfl
    | cons first rest ih =>
      obtain ⟨fresh, once⟩ := List.nodup_cons.1 once
      have later : (rest.flatMap fun id => told ((h.retire now first).running? id) none) =
          rest.flatMap fun id => told (h.running? id) none := by
        simp only [List.flatMap_def]
        refine congrArg List.flatten (List.map_congr_left fun id member => ?_)
        have different : first ≠ id := fun same => fresh (same ▸ member)
        rw [running?_retire, if_neg different]
      rw [List.foldl_cons, ih _ once, later, lifecycle_retire, List.flatMap_cons, List.foldl_append]
  unfold stopEach
  split
  · rename_i empty
    rw [List.isEmpty_iff.1 empty]
    rfl
  · exact each

/-- What an operation tells is what it sends on the feed. -/
theorem lifecycle_perform (h : Host) (now : Moment) (op : Operation) :
    (h.perform now op).lifecycle = (h.announced now op).foldl Feed.send h.lifecycle := by
  cases h.outcome now op with
  | refused same nothing =>
    rw [announced_of_same fun id => by rw [same], same]
    rfl
  | registered asked valid after nothing =>
    rw [announced_of_same fun id => by rw [after]; rfl, after]
    rfl
  | @launched d handler i asked stopped starts after made =>
    have runs : (h.perform now op).running? d.applicationId = some i := by
      rw [after]
      exact (running?_setRunning h d.applicationId i d.applicationId).trans (if_pos rfl)
    rw [announced, concerned_of_asks asked, List.flatMap_singleton, stopped, runs, after]
    rfl
  | @stopped id i asked runs after made =>
    subst asked
    have stopped : (h.perform now (.stop id)).running? id = none := by
      rw [after]
      exact (running?_retire h now id id).trans (if_pos rfl)
    rw [announced, concerned, List.flatMap_singleton, stopped, after]
    exact lifecycle_retire h now id
  | @allStopped order asked =>
    subst asked
    have stopped (id : String) : (h.perform now (.stopAll order)).running? id = none := by
      rw [running?, application_stopAll, Application.current_retire]
    simp only [announced, stopped]
    exact lifecycle_stopEach h now (h.concerned_nodup (.stopAll order))
  | within isLocal after logs =>
    have none : h.concerned op = [] := by
      cases op <;> first | rfl | cases isLocal
    rw [announced, none, after]
    rfl

end Host
end AppHost
