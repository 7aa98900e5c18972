import AppHost.Proofs.Host.Catalog
import AppHost.Proofs.Host.Demands
import AppHost.Proofs.Host.Instances
import AppHost.Proofs.Hub.Holding

/-!
The names of events. A manifest is refused if one of its methods would send an event without a name,
a call without a name sets no listener off, and operators cannot send such an event. But a listener
may put an empty name in the place of the one that it is set off by, and no check looks at that.
-/

set_option autoImplicit false
namespace AppHost

namespace Activity
variable {α : Type} {p : ApplicationEvent → Prop}

/-- All events that the code may send have a property. -/
def Sends (p : ApplicationEvent → Prop) : Activity α → Prop
  | done _ => True
  | emitToPage _ event next => p event ∧ ∀ reached, (next reached).Sends p
  | emitToAll event next => p event ∧ ∀ reached, (next reached).Sends p
  | write _ _ next => ∀ size, (next size).Sends p

theorem event_of_mem_steps {time : Calendar.Instant} {a : Activity α} (sends : a.Sends p)
    {o : Outlets} {step : HubStep} (made : step ∈ a.steps time o) : ∀ event ∈ step.event?, p event := by
  induction a generalizing o with
  | done answer => cases made
  | emitToPage page event next ih =>
    rcases List.mem_cons.1 made with rfl | later
    · rintro _ ⟨⟩
      exact sends.1
    · exact ih _ (sends.2 _) later
  | emitToAll event next ih =>
    rcases List.mem_cons.1 made with rfl | later
    · rintro _ ⟨⟩
      exact sends.1
    · exact ih _ (sends.2 _) later
  | write level message next ih => exact ih _ (sends _) made

end Activity

/-! ### Behaviour -/

/-- Calls are answered with events that have names, and so are events that have names. -/
structure Handler.NamesEvents (handler : Handler) : Prop where
  invoke : ∀ context method values, (handler.invoke context method values).Sends (·.IsNamed)
  handleEvent : ∀ context event values, event ≠ "" →
    (handler.handleEvent context event values).Sends (·.IsNamed)

namespace Manifest
variable {m : Manifest}

/-- No listener passes an event on under an empty name. -/
def NamesAnswers (m : Manifest) : Prop :=
  ∀ event l, m.listeners.find? event = some l → event ≠ "" → l.emit ≠ some ""

theorem methods_of_valid (valid : m.validate = .ok ()) {method event : String}
    (declared : m.methods.find? method = some (.emit event)) : event ≠ "" := by
  have checked := ((validate_eq_ok_iff m).1 valid).2.2 _ ((m.methods.mem_entries _ _).2 declared)
  rintro rfl
  cases checked

theorem namesEvents_handler (valid : m.validate = .ok ()) (names : m.NamesAnswers) :
    m.handler.NamesEvents where
  invoke context method values := by
    simp only [handler]
    cases declared : m.methods.find? method with
    | none => trivial
    | some spec =>
      cases spec with
      | reply value => trivial
      | echo => trivial
      | emit event => exact ⟨methods_of_valid valid declared, fun _ => trivial⟩
  handleEvent context event values given := by
    simp only [handler]
    cases declared : m.listeners.find? event with
    | none => trivial
    | some l =>
      have named : (ApplicationEvent.ofValues (l.eventName event) values).IsNamed := by
        have renamed := names event l declared given
        change l.emit.getD event ≠ ""
        cases emit : l.emit with
        | none => exact given
        | some name =>
          rintro rfl
          exact renamed emit
      simp only [ListenerSpec.answer]
      cases l.target with
      | page => exact ⟨named, fun _ _ => trivial⟩
      | all => exact ⟨named, fun _ _ => trivial⟩

end Manifest

/-! ### Instances -/

namespace Instance
variable {i : Instance} {now : Moment} {op : Operation}

structure Names (i : Instance) : Prop where
  hub : i.hub.Holds (·.IsNamed)
  handler : i.handler.NamesEvents

theorem names_start {handler : Handler} (names : handler.NamesEvents) (id : String)
    (version : Option Calendar.Instant) (buffer : Nat) (time : Calendar.Instant) :
    (start id version handler buffer time).Names :=
  ⟨Hub.holds_new id buffer, names⟩

theorem event?_of_mem_serveSteps {page : String} {step : HubStep}
    (made : step ∈ i.serveSteps page) : step.event? = none := by
  unfold serveSteps at made
  split at made
  · rcases List.mem_cons.1 made with rfl | last
    · rfl
    · cases List.mem_singleton.1 last
      rfl
  · cases List.mem_singleton.1 made
    rfl

theorem names_serve (names : i.Names) (page : Page) : (i.serve page).Names := by
  refine ⟨?_, names.handler⟩
  rw [hub_serve]
  refine Hub.holds_run names.hub fun a made event sent => ?_
  rw [event?_of_mem_serveSteps made] at sent
  cases sent

theorem names_stop (names : i.Names) (time : Calendar.Instant) : (i.stop time).Names :=
  ⟨Hub.holds_closeAll names.hub, names.handler⟩

theorem event_of_mem_steps (handler : i.handler.NamesEvents) (outside : op.IsFromOutside)
    (allowed : op.addressee?.isSome) {step : HubStep} (made : step ∈ i.steps now op) :
    ∀ event ∈ step.event?, event.IsNamed := by
  have one {other : HubStep} (only : step ∈ [other])
      (named : ∀ event ∈ other.event?, event.IsNamed) : ∀ event ∈ step.event?, event.IsNamed :=
    List.mem_singleton.1 only ▸ named
  cases op with
  | publishPage id page =>
    simp only [steps] at made
    split at made
    · cases made
    · intro event sent
      cases (event?_of_mem_serveSteps made).symm.trans sent
  | unpublishPage page | subscribe page =>
    simp only [steps] at made
    split at made
    · exact one made (by rintro _ ⟨⟩)
    · cases made
  | receive stream | unsubscribe stream => exact one made (by rintro _ ⟨⟩)
  | invoke call =>
    simp only [steps] at made
    split at made
    · cases made
    · exact Activity.event_of_mem_steps (handler.invoke ..) made
  | trigger t =>
    obtain ⟨-, named⟩ := (Bool.and_eq_true _ _).mp (Option.isSome_ite.1 allowed)
    simp only [steps] at made
    split at made
    · refine Activity.event_of_mem_steps (handler.handleEvent _ _ _ fun empty => ?_) made
      simp [empty] at named
    · cases made
  | emitToPage page event =>
    simp only [steps] at made
    split at made
    · refine one made ?_
      rintro _ ⟨⟩
      exact outside
    · cases made
  | emitToAll id event =>
    refine one made ?_
    rintro _ ⟨⟩
    exact outside
  | sendToPage _ _ _ | sendToAll _ _ => cases outside
  | _ => cases made

theorem names_perform (names : i.Names) (outside : op.IsFromOutside)
    (allowed : op.addressee?.isSome) : (i.perform now op).Names := by
  refine ⟨?_, ?_⟩
  · rw [hub_perform]
    exact Hub.holds_run names.hub fun a made => event_of_mem_steps names.handler outside allowed made
  · rw [handler_perform]
    exact names.handler

end Instance
/-! ### Hosts -/

namespace Host
variable {h : Host} {now : Moment}

structure Names (h : Host) : Prop where
  catalog : ∀ id m, h.catalog.find? id = some m → m.validate = .ok () ∧ m.NamesAnswers
  instances : ∀ id, (h.application id).All Instance.Names

theorem names_new (options : HostOptions) : (new options).Names where
  catalog id m found := by cases found
  instances id i present := by cases present

theorem names_perform (names : h.Names) {op : Operation} (outside : op.IsFromOutside)
    (declared : ∀ m, op = .register m → m.NamesAnswers) : (h.perform now op).Names := by
  refine ⟨fun id m found => ?_, ?_⟩
  · rcases h.catalog_perform now op with same | ⟨new, registers, valid, inserted⟩
    · rw [same] at found
      exact names.catalog id m found
    · rw [inserted, Dictionary.find?_insert] at found
      split at found
      · cases found
        exact ⟨valid, declared m registers⟩
      · exact names.catalog id m found
  · refine all_perform names.instances (fun d handler i asked starts => ?_)
      (fun i kept => Instance.names_stop kept now.date)
      fun allowed i kept => Instance.names_perform kept outside allowed
    cases asked with
    | launch found =>
      obtain ⟨valid, named⟩ := names.catalog _ _ found
      exact Instance.holds_publishPages starts
        (Instance.names_start (Manifest.namesEvents_handler valid named) ..)
        fun i page kept => Instance.names_serve kept page
    | launchWith => cases outside

theorem names_meetAll (names : h.Names) {demands : List (Moment × Demand)}
    (declared : ∀ now m, (now, .register m) ∈ demands → m.NamesAnswers) :
    (h.meetAll demands).Names := by
  induction demands generalizing h with
  | nil => exact names
  | cons d rest ih =>
    obtain ⟨now, d⟩ := d
    obtain ⟨op, outside, same, registers⟩ := performs_meet h now d
    have first : (h.meet now d).Names := by
      rw [same]
      refine names_perform names outside fun m registered => declared now m ?_
      rw [registers m registered]
      exact List.mem_cons_self
    exact ih first fun now m member => declared now m (List.mem_cons_of_mem _ member)

/-- Whatever clients and operators ask for, every event that a stream receives has a name, as long
as no manifest has a listener that passes events on under an empty one. -/
theorem received_event_is_named (options : HostOptions) (demands : List (Moment × Demand))
    (declared : ∀ now m, (now, .register m) ∈ demands → m.NamesAnswers) (stream : SubscriptionRef)
    (event : ApplicationEvent)
    (received : (((new options).meetAll demands).receive stream).1 = .message event) :
    event.name ≠ "" := by
  have names := names_meetAll (names_new options) declared
  unfold receive at received
  cases target : ((new options).meetAll demands).instance? stream.target with
  | none =>
    rw [target] at received
    cases received
  | some i =>
    rw [target] at received
    have kept := names.instances _ i (List.mem_of_getElem? target)
    exact Hub.holds_received kept.hub received

theorem received_event_is_named_as_triggered :
    let now : Moment := ⟨⟨0, 0, by decide⟩, 0⟩
    let m : Manifest := ⟨"a", true, false, none, Dictionary.empty.insert "main" ⟨"a.html", ""⟩,
      .empty, Dictionary.empty.insert "l" ⟨.page, none⟩⟩
    let h := (new .default).meetAll [(now, .register m),
      (now, .admin ⟨"POST", ⟨["applications", "a", "launch"], []⟩, none, ""⟩),
      (now, .consume [10, 1, 97, 18, 4, 109, 97, 105, 110]),
      (now, .call .trigger [10, 1, 97, 18, 4, 109, 97, 105, 110, 26, 1, 108])]
    ∃ event, (h.receive ⟨⟨"a", 0⟩, 0⟩).1 = .message event ∧ event.name ≠ "" := by
  intro now m h
  have received : (h.receive ⟨⟨"a", 0⟩, 0⟩).1 = .message ⟨"l", []⟩ := by decide +kernel
  have declared : m.NamesAnswers := by
    intro event l found given
    rw [Dictionary.find?_insert] at found
    split at found
    · cases found
      exact (Option.some_ne_none "").symm
    · cases found
  exact ⟨_, received, received_event_is_named .default _ (by simp [declared]) _ _ received⟩

/-- The same listener with an empty name to pass events on under: the manifest is valid still. -/
theorem unnamed_answer_is_received :
    let now : Moment := ⟨⟨0, 0, by decide⟩, 0⟩
    let m : Manifest := ⟨"a", true, false, none, Dictionary.empty.insert "main" ⟨"a.html", ""⟩,
      .empty, Dictionary.empty.insert "l" ⟨.page, some ""⟩⟩
    let h := (new .default).meetAll [(now, .register m),
      (now, .admin ⟨"POST", ⟨["applications", "a", "launch"], []⟩, none, ""⟩),
      (now, .consume [10, 1, 97, 18, 4, 109, 97, 105, 110]),
      (now, .call .trigger [10, 1, 97, 18, 4, 109, 97, 105, 110, 26, 1, 108])]
    m.validate = .ok () ∧ (h.receive ⟨⟨"a", 0⟩, 0⟩).1 = .message ⟨"", []⟩ :=
  ⟨rfl, rfl⟩

end Host
end AppHost
