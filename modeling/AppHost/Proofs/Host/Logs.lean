import AppHost.Proofs.Host.Instances
import AppHost.Proofs.Host.Succession

/-!
The logs of instances under the operations of the host. What one operation can do to an application
is to stop its running instance, to start a new one, or to let one of its instances go on; and only
the one that runs is written about, so that the log of an instance that was stopped stays as it is.
-/

set_option autoImplicit false
namespace AppHost

namespace Operation
variable {op : Operation} {ref : InstanceRef}

theorem effect_of_stops (h : Host) (now : Moment) (i : Instance)
    (stops : op.stops ref.applicationId = true) :
    op.effect h now ref i =
      if ref = h.runningRef ref.applicationId then i.stop now.date else i := by
  cases op with
  | stop id =>
    have same : id = ref.applicationId := by simpa [Operation.stops] using stops
    rw [effect, same]
  | stopAll order => rfl
  | _ => cases stops

theorem effect_of_not_stops (h : Host) (now : Moment) (i : Instance)
    (goesOn : op.stops ref.applicationId = false) :
    op.effect h now ref i = if op.worksOn h ref then i.perform now op else i := by
  cases op with
  | stop id =>
    have other : ref ≠ h.runningRef id := by
      rintro rfl
      simp [stops, Host.runningRef] at goesOn
    simp [effect, worksOn, addressee?, other]
  | stopAll order => cases goesOn
  | _ => rfl

theorem handler_effect (h : Host) (now : Moment) (i : Instance) :
    (op.effect h now ref i).handler = i.handler := by
  cases stops : op.stops ref.applicationId with
  | true =>
    rw [effect_of_stops h now i stops]
    split <;> rfl
  | false =>
    rw [effect_of_not_stops h now i stops]
    split
    · exact i.handler_perform now op
    · rfl

theorem log_perform_of_known {i : Instance} (known : op.addressee? = some (.known ref))
    (now : Moment) : (i.perform now op).log = i.log := by
  have named := addressee?_eq_known_iff.1 known
  cases op with
  | receive _ | unsubscribe _ | sendToPage _ _ _ | sendToAll _ _ => rfl
  | _ => cases named

theorem log_effect_of_retired {h : Host} (now : Moment) (i : Instance)
    (retired : ref ≠ h.runningRef ref.applicationId) : (op.effect h now ref i).log = i.log := by
  cases stops : op.stops ref.applicationId with
  | true => rw [effect_of_stops h now i stops, if_neg retired]
  | false =>
    rw [effect_of_not_stops h now i stops]
    split
    · rename_i works
      obtain ⟨addressee, addressed, same⟩ := (Option.any_eq_true _ _).1 works
      cases addressee with
      | running id =>
        have here : ref = h.runningRef id := of_decide_eq_true same
        subst here
        exact absurd rfl retired
      | known other => exact log_perform_of_known addressed now
    · rfl

end Operation

namespace Application

theorem length_retire (a : Application) (time : Calendar.Instant) :
    (a.retire time).retired.length = a.retired.length + a.current.toList.length := by
  unfold retire
  cases a.current with
  | none => rfl
  | some i => exact List.length_append

end Application

namespace Host
variable {h : Host} {now : Moment} {op : Operation} {id : String}

theorem application_perform_of_stops (h : Host) (now : Moment) (stops : op.stops id = true) :
    (h.perform now op).application id = (h.application id).retire now.date := by
  cases op with
  | stop other =>
    have here : other = id := by simpa [Operation.stops] using stops
    rw [application_perform_stop, if_pos here]
  | stopAll order => exact application_stopAll h now order id
  | _ => cases stops

theorem running?_perform_of_stops (h : Host) (now : Moment) (stops : op.stops id = true) :
    (h.perform now op).running? id = none := by
  rw [running?, application_perform_of_stops h now stops, Application.current_retire]

theorem deed?_of_stops (stops : op.stops id = true) (d : Descriptor) :
    h.deed? now op ≠ some (.launched d) := by
  cases op with
  | stop other => simp [deed?]
  | stopAll order => simp [deed?]
  | _ => cases stops

/-- What an operation that does not stop an application can do to it. It has launched it if this is
recorded. -/
inductive Change (h : Host) (now : Moment) (op : Operation) (id : String) : Prop
  | same (elsewhere : ∀ d, h.deed? now op = some (.launched d) → d.applicationId ≠ id)
    (after : (h.perform now op).application id = h.application id)
  | started {d : Descriptor} {handler : Handler} {i : Instance} (here : d.applicationId = id)
    (stopped : h.running? id = none) (starts : h.Starts now d handler i)
    (made : h.deed? now op = some (.launched d))
    (after : (h.perform now op).application id = (h.application id).start i)
  | altered (launch : Nat) (change : Instance → Instance)
    (none : ∀ d, h.deed? now op ≠ some (.launched d))
    (after : (h.perform now op).application id = (h.application id).alter launch change)

theorem change_of_not_stops (h : Host) (now : Moment) (goesOn : op.stops id = false) :
    h.Change now op id := by
  cases h.outcome now op with
  | refused same nothing => exact .same (by simp [nothing]) (by rw [same])
  | registered asked valid after nothing => exact .same (by simp [nothing]) (by rw [after]; rfl)
  | @launched d handler i asked stopped starts after made =>
    have set := application_setRunning h d.applicationId i id
    by_cases here : d.applicationId = id
    · subst here
      exact .started rfl stopped starts made (by rw [after]; exact set.trans (if_pos rfl))
    · exact .same (by simp [made, here]) (by rw [after]; exact set.trans (if_neg here))
  | @stopped other i asked runs after made =>
    subst asked
    have elsewhere : other ≠ id := by simpa [Operation.stops] using goesOn
    exact .same (by simp [made])
      ((application_perform_stop h now other id).trans (if_neg elsewhere))
  | allStopped asked =>
    subst asked
    cases goesOn
  | within isLocal after logs =>
    have none : ∀ d, h.deed? now op ≠ some (.launched d) := by
      intro d made
      cases changesPages_of_isLocal isLocal _ made
    cases addressed : op.addressee? with
    | none =>
      have leaves := Operation.leavesPages_of_isLocal isLocal addressed
      exact .same (fun d made => absurd made (none d))
        (application_perform_of_none h now leaves addressed id)
    | some addressee =>
      have altered := application_perform h now addressed id
      rw [application_alter] at altered
      by_cases here : (addressee.ref h).applicationId = id
      · exact .altered _ _ none (altered.trans (if_pos here))
      · exact .same (fun d made => absurd made (none d)) (altered.trans (if_neg here))

theorem length_retired_perform (h : Host) (now : Moment) (op : Operation) (id : String) :
    ((h.perform now op).application id).retired.length = (h.application id).retired.length +
      if op.stops id then (h.running? id).toList.length else 0 := by
  cases stops : op.stops id with
  | true =>
    rw [application_perform_of_stops h now stops, Application.length_retire]
    rfl
  | false =>
    cases h.change_of_not_stops now stops with
    | same elsewhere after =>
      rw [after]
      rfl
    | started here stopped starts made after =>
      rw [after]
      rfl
    | altered launch change none after =>
      rw [after, Application.length_alter]
      rfl

/-- An application that does not run will run just if it is launched, and not stopped again. -/
theorem isRunning_run_iff (stopped : h.running? id = none)
    (operations : List (Moment × Operation)) :
    (h.run operations).isRunning id = true ↔
      ∃ d, Deed.launch? id (h.history [] operations) = some d := by
  have records : Records id [] (h.running? id) := stopped ▸ Records.none id
  have version := congrArg Option.isSome (records.run operations).version
  rw [Option.isSome_map, Option.isSome_map] at version
  rw [isRunning, version, Option.isSome_iff_exists]

theorem instance?_run {ref : InstanceRef} {i : Instance} (present : h.instance? ref = some i)
    (operations : List (Moment × Operation)) :
    ∃ j, (h.run operations).instance? ref = some j ∧ j.handler = i.handler := by
  induction operations generalizing h i with
  | nil => exact ⟨i, present, rfl⟩
  | cons o rest ih =>
    obtain ⟨j, later, same⟩ := ih (instance?_perform h o.1 o.2 present)
    exact ⟨j, later, same.trans (Operation.handler_effect h o.1 i)⟩

/-! ### Instances that were stopped -/

theorem eq_runningRef_iff (h : Host) (ref : InstanceRef) :
    ref = h.runningRef ref.applicationId ↔
      ref.launch = (h.application ref.applicationId).retired.length :=
  ⟨congrArg InstanceRef.launch, fun last => by rw [runningRef, ← last]⟩

/-- Of the instances that are there, those before the one that may run have been stopped. -/
theorem lt_of_retired {ref : InstanceRef} {i : Instance} (present : h.instance? ref = some i)
    (retired : ref ≠ h.runningRef ref.applicationId) :
    ref.launch < (h.application ref.applicationId).retired.length := by
  rw [Ne, eq_runningRef_iff] at retired
  obtain ⟨inside, -⟩ := List.getElem?_eq_some_iff.1 present
  rw [Application.instances, List.length_append] at inside
  have current := (h.application ref.applicationId).current.length_toList_le
  omega

theorem retired_perform {ref : InstanceRef} {i : Instance} (present : h.instance? ref = some i)
    (retired : ref ≠ h.runningRef ref.applicationId) (now : Moment) (op : Operation) :
    ref ≠ (h.perform now op).runningRef ref.applicationId := by
  have before := lt_of_retired present retired
  rw [Ne, eq_runningRef_iff, length_retired_perform]
  exact Nat.ne_of_lt (Nat.lt_of_lt_of_le before (Nat.le_add_right _ _))

theorem log_perform_of_retired {ref : InstanceRef} {i : Instance}
    (present : h.instance? ref = some i) (retired : ref ≠ h.runningRef ref.applicationId)
    (now : Moment) (op : Operation) :
    ∃ j, (h.perform now op).instance? ref = some j ∧ j.log = i.log :=
  ⟨_, instance?_perform h now op present, Operation.log_effect_of_retired now i retired⟩

theorem log_run_of_retired {ref : InstanceRef} {i : Instance} (present : h.instance? ref = some i)
    (retired : ref ≠ h.runningRef ref.applicationId) (operations : List (Moment × Operation)) :
    ∃ j, (h.run operations).instance? ref = some j ∧ j.log = i.log := by
  induction operations generalizing h i with
  | nil => exact ⟨i, present, rfl⟩
  | cons o rest ih =>
    obtain ⟨j, kept, same⟩ := log_perform_of_retired present retired o.1 o.2
    obtain ⟨last, found, log⟩ := ih kept (retired_perform present retired o.1 o.2)
    exact ⟨last, found, log.trans same⟩

end Host
end AppHost
