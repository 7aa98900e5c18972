import AppHost.Proofs.Host.Launching
import AppHost.Proofs.Host.Steps
import AppHost.Proofs.Hub.Runs

/-!
What holds of every running instance: its hub is not shut down, the pages that it serves are those
that are open, and each of them is a page that may be served, under its own id.
-/

set_option autoImplicit false
namespace AppHost

namespace Instance

structure Sound (id : String) (i : Instance) : Prop where
  applicationId : i.applicationId = id
  up : i.hub.isShutDown = false
  coherent : i.hub.Coherent
  agrees : i.Agrees
  valid : ∀ key page, i.pages.pages.find? key = some page →
    page.id = key ∧ page.validate = .ok ()

variable {id : String} {i : Instance}

theorem Sound.pages_ascending (sound : i.Sound id) :
    (i.summary.pages.map (·.id)).Pairwise (· < ·) := by
  have keys : i.summary.pages.map (·.id) = i.pages.pages.keys :=
    Dictionary.map_values fun key page found => (sound.valid key page found).1
  rw [keys]
  exact i.pages.pages.keys_ascending

theorem sound_start (id : String) (version : Option Calendar.Instant) (handler : Handler)
    (buffer : Nat) (time : Calendar.Instant) : (start id version handler buffer time).Sound id where
  applicationId := rfl
  up := rfl
  coherent := Hub.coherent_new id buffer
  agrees := rfl
  valid key page found := by cases found

theorem sound_serve (sound : i.Sound id) {page : Page} (valid : page.validate = .ok ()) :
    (i.serve page).Sound id where
  applicationId := sound.applicationId
  up := by
    rw [hub_serve, Hub.isShutDown_run, sound.up]
    unfold serveSteps
    split <;> simp
  coherent := by
    rw [hub_serve]
    exact Hub.coherent_run sound.coherent _
  agrees := by
    rw [agrees_iff_isSome]
    intro other
    rw [isSome_hub_serve, ← (agrees_iff_isSome i).1 sound.agrees other]
    simp only [serve, Dictionary.find?_insert]
    by_cases same : page.id = other <;> simp [same]
  valid key other found := by
    simp only [serve, Dictionary.find?_insert] at found
    split at found
    · cases found
      exact ⟨‹_›, valid⟩
    · exact sound.valid key other found

theorem sound_withdraw (sound : i.Sound id) (page : String) : (i.withdraw page).Sound id where
  applicationId := sound.applicationId
  up := (Hub.isShutDown_closePage i.hub page).trans sound.up
  coherent := Hub.coherent_closePage sound.coherent page
  agrees := by
    rw [agrees_iff_isSome]
    intro other
    simp only [withdraw, Dictionary.find?_erase, Hub.pages_closePage]
    split
    · rfl
    · exact (agrees_iff_isSome i).1 sound.agrees other
  valid key other found := by
    simp only [withdraw, Dictionary.find?_erase] at found
    split at found
    · cases found
    · exact sound.valid key other found

theorem sound_run_quiet (sound : i.Sound id) {steps : List HubStep}
    (quiet : ∀ a ∈ steps, a.isQuiet = true) (log : Log) :
    { i with hub := i.hub.run steps, log }.Sound id where
  applicationId := sound.applicationId
  up := by
    rw [Hub.isShutDown_run, sound.up]
    intro closed
    cases quiet _ closed
  coherent := Hub.coherent_run sound.coherent steps
  agrees := by
    rw [agrees_iff_isSome]
    intro page
    rw [Hub.isSome_run_of_isQuiet i.hub quiet]
    exact (agrees_iff_isSome i).1 sound.agrees page
  valid := sound.valid

theorem sound_publishPages (sound : i.Sound id) {pages : List Page} {after : Instance}
    (served : i.publishPages pages = (.ok (), after)) : after.Sound id := by
  induction pages generalizing i with
  | nil =>
    cases served
    exact sound
  | cons page rest ih =>
    obtain ⟨valid, servedRest⟩ := publishPages_cons_eq_ok served
    exact ih (sound_serve sound valid) servedRest

theorem isQuiet_of_mem_steps {α : Type} {time : Calendar.Instant} {activity : Activity α}
    {o : Outlets} {a : HubStep} (made : a ∈ activity.steps time o) : a.isQuiet = true := by
  rcases Activity.sends_of_mem_steps made with ⟨page, event, rfl⟩ | ⟨event, rfl⟩ <;> rfl

/-- An operation serves a page, ceases to, or leaves the pages as they are. -/
theorem perform_cases (i : Instance) (now : Moment) (op : Operation) :
    (∃ id page, op = .publishPage id page ∧ page.validate = .ok () ∧
      i.perform now op = i.serve page) ∨
    (∃ page, op = .unpublishPage page ∧ i.pages.pages.contains page.pageId ∧
      i.perform now op = i.withdraw page.pageId) ∨
    ((∀ a ∈ i.steps now op, a.isQuiet = true) ∧
      ∃ log, i.perform now op = { i with hub := i.hub.run (i.steps now op), log }) := by
  have leaves : (∀ a ∈ i.steps now op, a.isQuiet = true) →
      (∃ hub log, i.perform now op = { i with hub, log }) →
      (∀ a ∈ i.steps now op, a.isQuiet = true) ∧
        ∃ log, i.perform now op = { i with hub := i.hub.run (i.steps now op), log } := by
    rintro quiet ⟨hub, log, same⟩
    have run := hub_perform i now op
    rw [same] at run
    exact ⟨quiet, log, run ▸ same⟩
  cases op with
  | publishPage other page =>
    cases valid : page.validate with
    | ok u =>
      refine .inl ⟨other, page, rfl, valid, ?_⟩
      rw [perform, publishPage_of_valid valid]
    | error e =>
      refine .inr (.inr (leaves ?_ ⟨i.hub, i.log, ?_⟩))
      · simp [steps, valid]
      · rw [perform, publishPage_of_invalid valid]
  | unpublishPage page =>
    cases served : i.pages.pages.contains page.pageId with
    | true =>
      refine .inr (.inl ⟨page, rfl, served, ?_⟩)
      rw [perform, unpublishPage_of_served served]
    | false =>
      refine .inr (.inr (leaves ?_ ⟨i.hub, i.log, ?_⟩))
      · simp [steps, served]
      · rw [perform, unpublishPage_of_absent served]
  | subscribe page =>
    refine .inr (.inr (leaves ?_ ?_))
    · simp only [steps]
      split <;> simp [HubStep.isQuiet]
    · obtain ⟨hub, same⟩ := i.outlets_subscribe page.pageId
      exact ⟨hub, i.log, same⟩
  | emitToPage page event =>
    refine .inr (.inr (leaves ?_ ?_))
    · simp only [steps]
      split <;> simp [HubStep.isQuiet]
    · obtain ⟨hub, same⟩ := i.outlets_emitToServed page.pageId event
      exact ⟨hub, i.log, same⟩
  | invoke call =>
    refine .inr (.inr (leaves ?_ ?_))
    · intro a made
      simp only [steps] at made
      split at made
      · cases made
      · exact isQuiet_of_mem_steps made
    · simp only [perform, invoke]
      split
      · exact ⟨i.hub, i.log, rfl⟩
      · exact outlets_run ..
  | trigger t =>
    refine .inr (.inr (leaves ?_ ?_))
    · intro a made
      simp only [steps] at made
      split at made
      · exact isQuiet_of_mem_steps made
      · cases made
    · simp only [perform, handleEvent]
      split
      · exact ⟨i.hub, i.log, rfl⟩
      · split
        · exact ⟨i.hub, i.log, rfl⟩
        · exact outlets_run ..
  | _ => exact .inr (.inr (leaves (by simp [steps, HubStep.isQuiet]) ⟨_, i.log, rfl⟩))

theorem sound_perform (sound : i.Sound id) (now : Moment) (op : Operation) :
    (i.perform now op).Sound id := by
  rcases i.perform_cases now op with
    ⟨_, page, -, valid, served⟩ | ⟨page, -, -, withdrawn⟩ | ⟨quiet, log, same⟩
  · rw [served]
    exact sound_serve sound valid
  · rw [withdrawn]
    exact sound_withdraw sound page.pageId
  · rw [same]
    exact sound_run_quiet sound quiet log

end Instance
end AppHost
