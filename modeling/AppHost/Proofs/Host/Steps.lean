import AppHost.Proofs.Host.Operation
import AppHost.Proofs.Instance.Pages

/-!
What an operation does to the hub of the instance that it works on, as a row of steps of the hub.
What is known of runs of a hub is so known of runs of the host.
-/

set_option autoImplicit false
namespace AppHost
open Calendar (Instant)

def HubStep.isQuiet : HubStep → Bool
  | .openPage _ => false
  | .closePage _ => false
  | .closeAll => false
  | _ => true

namespace Hub

theorem isSome_step_of_isQuiet (h : Hub) {a : HubStep} (quiet : a.isQuiet = true) (page : String) :
    ((h.step a).pages.find? page).isSome = (h.pages.find? page).isSome := by
  cases a with
  | openPage _ | closePage _ | closeAll => cases quiet
  | subscribe other =>
    rw [step]
    obtain same | ⟨feed, -, -, same⟩ := h.subscribe_cases other <;> rw [same]
    rfl
  | emitToPage other event =>
    simp only [step, emitToPage]
    split
    · rfl
    · rename_i feed found
      rw [Dictionary.find?_insert]
      split
      · rename_i same
        rw [← same, found]
        rfl
      · rfl
  | emitToAll event =>
    simp only [step, emitToAll, Dictionary.find?_map, Option.isSome_map]
  | receive number =>
    simp only [step, receive]
    split <;> rfl
  | unsubscribe number => rfl

theorem isSome_run_of_isQuiet (h : Hub) {steps : List HubStep}
    (quiet : ∀ a ∈ steps, a.isQuiet = true) (page : String) :
    ((h.run steps).pages.find? page).isSome = (h.pages.find? page).isSome := by
  induction steps generalizing h with
  | nil => rfl
  | cons a rest ih =>
    obtain ⟨now, later⟩ := List.forall_mem_cons.1 quiet
    rw [run_cons, ih _ later, isSome_step_of_isQuiet h now]

end Hub

namespace Activity
variable {α : Type}

/-- The steps of the hub that an application's code makes. -/
def steps (time : Instant) : Activity α → Outlets → List HubStep
  | done _, _ => []
  | emitToPage page event next, o =>
    let (reached, hub) := o.hub.emitToPage page event
    .emitToPage page event :: (next reached).steps time { o with hub }
  | emitToAll event next, o =>
    let (reached, hub) := o.hub.emitToAll event
    .emitToAll event :: (next reached).steps time { o with hub }
  | write level message next, o =>
    let log := o.log.write time level message
    (next log.size).steps time { o with log }

theorem hub_run (time : Instant) (a : Activity α) (o : Outlets) :
    (a.run time o).2.hub = o.hub.run (a.steps time o) := by
  induction a generalizing o with
  | done answer => rfl
  | emitToPage page event next ih => exact ih _ _
  | emitToAll event next ih => exact ih _ _
  | write level message next ih => exact ih _ _

theorem sends_of_mem_steps {time : Instant} {a : Activity α} {o : Outlets} {step : HubStep}
    (made : step ∈ a.steps time o) :
    (∃ page event, step = .emitToPage page event) ∨ ∃ event, step = .emitToAll event := by
  induction a generalizing o with
  | done answer => cases made
  | emitToPage page event next ih =>
    rcases List.mem_cons.1 made with same | later
    · exact .inl ⟨page, event, same⟩
    · exact ih _ later
  | emitToAll event next ih =>
    rcases List.mem_cons.1 made with same | later
    · exact .inr ⟨event, same⟩
    · exact ih _ later
  | write level message next ih => exact ih _ made

end Activity

namespace Instance

/-- What an operation does to the hub of the instance that it works on. -/
def steps (i : Instance) (now : Moment) : Operation → List HubStep
  | .publishPage _ page =>
    match page.validate with
    | .error _ => []
    | .ok () => i.serveSteps page.id
  | .unpublishPage page =>
    if i.pages.pages.contains page.pageId then [.closePage page.pageId] else []
  | .subscribe page => if i.pages.pages.contains page.pageId then [.subscribe page.pageId] else []
  | .receive stream => [.receive stream.number]
  | .unsubscribe stream => [.unsubscribe stream.number]
  | .invoke call =>
    match decodeArguments call.arguments with
    | .error _ => []
    | .ok values =>
      (i.handler.invoke ⟨i.applicationId, false⟩ call.method values).steps now.date ⟨i.hub, i.log⟩
  | .trigger t =>
    match i.resolvePage t.pageId, decodeArguments t.arguments with
    | .ok _, .ok values =>
      (i.handler.handleEvent ⟨i.applicationId, t.pageId, false⟩ t.name values).steps now.date
        ⟨i.hub, i.log⟩
    | _, _ => []
  | .emitToPage page event =>
    if i.pages.pages.contains page.pageId then [.emitToPage page.pageId event] else []
  | .emitToAll _ event => [.emitToAll event]
  | .sendToPage _ page event => [.emitToPage page event]
  | .sendToAll _ event => [.emitToAll event]
  | _ => []

theorem resolvePage_of_found {i : Instance} {id : String} {page : Page}
    (found : i.pages.pages.find? id = some page) :
    i.resolvePage id = .ok ⟨page.fileName, page.title, i.version⟩ := by
  simp [resolvePage, PageRegistry.resolve, found]

theorem resolvePage_of_absent {i : Instance} {id : String}
    (absent : i.pages.pages.find? id = none) :
    i.resolvePage id = .error (.pageNotFound (i.pageRef id)) := by
  simp [resolvePage, PageRegistry.resolve, absent]

theorem hub_run {α : Type} (i : Instance) (time : Instant) (heading : String)
    (activity : Activity (Except RuntimeError α)) :
    (i.run time heading activity).2.hub = i.hub.run (activity.steps time ⟨i.hub, i.log⟩) := by
  rw [← activity.hub_run time ⟨i.hub, i.log⟩]
  unfold run
  dsimp only
  split <;> rfl

theorem outlets_run {α : Type} (i : Instance) (time : Instant) (heading : String)
    (activity : Activity (Except RuntimeError α)) :
    ∃ hub log, (i.run time heading activity).2 = { i with hub, log } := by
  unfold run
  dsimp only
  split
  · exact ⟨_, _, rfl⟩
  · exact ⟨_, _, rfl⟩

theorem outlets_subscribe (i : Instance) (page : String) :
    ∃ hub, (i.subscribe page).2 = { i with hub } := by
  unfold subscribe
  split
  · exact ⟨i.hub, rfl⟩
  · split <;> exact ⟨_, rfl⟩

theorem outlets_emitToServed (i : Instance) (page : String) (event : ApplicationEvent) :
    ∃ hub, (i.emitToServed page event).2 = { i with hub } := by
  unfold emitToServed
  split
  · exact ⟨i.hub, rfl⟩
  · exact ⟨_, rfl⟩

theorem hub_perform (i : Instance) (now : Moment) (op : Operation) :
    (i.perform now op).hub = i.hub.run (i.steps now op) := by
  cases op with
  | publishPage _ page =>
    simp only [perform, steps]
    cases valid : page.validate with
    | error e =>
      rw [publishPage_of_invalid valid]
      rfl
    | ok u =>
      rw [publishPage_of_valid valid]
      exact hub_serve i page
  | unpublishPage page =>
    simp only [perform, steps]
    cases served : i.pages.pages.contains page.pageId with
    | true =>
      rw [unpublishPage_of_served served]
      rfl
    | false =>
      rw [unpublishPage_of_absent served]
      rfl
  | subscribe page =>
    cases found : i.pages.pages.find? page.pageId with
    | none =>
      have absent := Dictionary.not_contains_of_find? found
      simp only [perform, steps, subscribe, resolvePage_of_absent found, absent]
      rfl
    | some p =>
      have present := Dictionary.contains_of_find? found
      simp only [perform, steps, subscribe, resolvePage_of_found found, present, if_true, Hub.run,
        List.foldl_cons, List.foldl_nil, Hub.step]
      obtain ⟨_ | number, after⟩ := i.hub.subscribe page.pageId <;> rfl
  | emitToPage page event =>
    cases found : i.pages.pages.find? page.pageId with
    | none =>
      have absent := Dictionary.not_contains_of_find? found
      simp only [perform, steps, emitToServed, resolvePage_of_absent found, absent]
      rfl
    | some p =>
      have present := Dictionary.contains_of_find? found
      simp only [perform, steps, emitToServed, resolvePage_of_found found, present, if_true]
      rfl
  | invoke call =>
    simp only [perform, steps, invoke]
    cases decodeArguments call.arguments with
    | error e => rfl
    | ok values => exact hub_run ..
  | trigger t =>
    simp only [perform, steps, handleEvent]
    cases i.resolvePage t.pageId with
    | error e => rfl
    | ok resolved =>
      cases decodeArguments t.arguments with
      | error e => rfl
      | ok values => exact hub_run ..
  | _ => rfl

end Instance
end AppHost
