import AppHost.Proofs.Host.Soundness

/-!
What was done to the pages of a host, looked back at. The last launch of an application that was not
stopped since, and the last publication of a page that still counts, are read off what was done
alone; the registries of the running instances say the same.
-/

set_option autoImplicit false
namespace AppHost

inductive Deed
  | launched (descriptor : Descriptor)
  | stopped (id : String)
  | allStopped
  | published (id : String) (page : Page)
  | unpublished (page : PageRef)

namespace Deed

def concerns (id : String) : Deed → Bool
  | .launched d => d.applicationId = id
  | .stopped other => other = id
  | .allStopped => true
  | .published other _ => other = id
  | .unpublished page => page.applicationId = id

/-- The last launch of an application, if it was not stopped since. The last deed comes first. -/
def launch? (id : String) : List Deed → Option Descriptor
  | [] => none
  | .launched d :: before => if d.applicationId = id then some d else launch? id before
  | .stopped other :: before => if other = id then none else launch? id before
  | .allStopped :: _ => none
  | _ :: before => launch? id before

/-- A page as it was published last, if that still counts. The last deed comes first, and of several
pages of one id in a launch the last one counts. -/
def page? (page : PageRef) : List Deed → Option Page
  | [] => none
  | .launched d :: before =>
    if d.applicationId = page.applicationId then d.pages.reverse.find? (·.id = page.pageId)
    else page? page before
  | .stopped id :: before => if id = page.applicationId then none else page? page before
  | .allStopped :: _ => none
  | .published id p :: before =>
    if id = page.applicationId ∧ p.id = page.pageId then some p else page? page before
  | .unpublished other :: before => if other = page then none else page? page before

theorem launch?_cons {id : String} {deed : Deed} (elsewhere : deed.concerns id = false)
    (before : List Deed) : launch? id (deed :: before) = launch? id before := by
  cases deed <;> simp_all [launch?, concerns]

theorem page?_cons {page : PageRef} {deed : Deed}
    (elsewhere : deed.concerns page.applicationId = false) (before : List Deed) :
    page? page (deed :: before) = page? page before := by
  cases deed with
  | unpublished other =>
    have different : other ≠ page := by
      rintro rfl
      simp [concerns] at elsewhere
    simp [page?, different]
  | _ => simp_all [page?, concerns]

end Deed

namespace Host

/-- What an operation does to pages, if it succeeds and does anything. -/
def deed? (h : Host) (now : Moment) : Operation → Option Deed
  | .launch id version =>
    match (h.launch now id version).1, h.catalog.find? id with
    | .ok _, some m => some (.launched { m.descriptor with version := version <|> m.version })
    | _, _ => none
  | .launchWith d handler => (h.launchWith now d handler).1.toOption.map fun _ => .launched d
  | .stop id => (h.stop now id).1.toOption.map fun _ => .stopped id
  | .stopAll _ => some .allStopped
  | .publishPage id page => (h.publishPage id page).1.toOption.map fun _ => .published id page
  | .unpublishPage page => (h.unpublishPage page).1.toOption.map fun _ => .unpublished page
  | _ => none

/-- All that was done in a run, after what was done before it. The last deed comes first. -/
def history (h : Host) (before : List Deed) : List (Moment × Operation) → List Deed
  | [] => before
  | (now, op) :: rest => (h.perform now op).history ((h.deed? now op).toList ++ before) rest

end Host

/-- What one operation can do to the running instance of an application. -/
inductive Turn (id : String) : Option Deed → Option Instance → Option Instance → Prop
  | launched {d : Descriptor} {handler : Handler} {buffer : Nat} {time : Calendar.Instant}
      {i : Instance} (here : d.applicationId = id)
      (served : (Instance.start id d.version handler buffer time).publishPages d.pages =
        (.ok (), i)) :
      Turn id (some (.launched d)) none (some i)
  | stopped {i? : Option Instance} : Turn id (some (.stopped id)) i? none
  | allStopped {i? : Option Instance} : Turn id (some .allStopped) i? none
  | published {i : Instance} {page : Page} (valid : page.validate = .ok ()) :
      Turn id (some (.published id page)) (some i) (some (i.serve page))
  | unpublished {i : Instance} {page : String} :
      Turn id (some (.unpublished ⟨id, page⟩)) (some i) (some (i.withdraw page))
  | quiet {deed? : Option Deed} {i : Instance} {steps : List HubStep} {log : Log}
      (elsewhere : ∀ deed ∈ deed?, deed.concerns id = false)
      (quiet : ∀ a ∈ steps, a.isQuiet = true) :
      Turn id deed? (some i) (some { i with hub := i.hub.run steps, log })
  | idle {deed? : Option Deed} (elsewhere : ∀ deed ∈ deed?, deed.concerns id = false) :
      Turn id deed? none none

theorem Turn.same {id : String} {deed? : Option Deed} (i? : Option Instance)
    (elsewhere : ∀ deed ∈ deed?, deed.concerns id = false) : Turn id deed? i? i? := by
  cases i? with
  | none => exact .idle elsewhere
  | some i =>
    have quiet : ∀ a ∈ ([] : List HubStep), a.isQuiet = true := by simp
    exact @Turn.quiet id deed? i [] i.log elsewhere quiet

namespace Host
variable {h : Host} {now : Moment} {id : String}

theorem running?_congr {after : Host} (same : after.application id = h.application id) :
    after.running? id = h.running? id :=
  congrArg Application.current same

theorem running?_alter (h : Host) (ref : InstanceRef) (change : Instance → Instance) (id : String) :
    (h.alter ref change).running? id =
      if ref = h.runningRef id then (h.running? id).map change else h.running? id := by
  unfold running?
  rw [application_alter]
  obtain ⟨other, launch⟩ := ref
  by_cases here : other = id
  · subst here
    simp [Application.current_alter, runningRef]
  · simp [here, runningRef]

theorem running?_retire (h : Host) (now : Moment) (id other : String) :
    (h.retire now id).running? other = if id = other then none else h.running? other := by
  unfold running?
  rw [application_retire]
  split
  · exact Application.current_retire _ _
  · rfl

theorem deed?_of_leavesPages {op : Operation} (leaves : op.leavesPages = true) :
    h.deed? now op = none := by
  cases op <;> first | rfl | cases leaves

theorem turn_of_leavesPages {op : Operation} (leaves : op.leavesPages = true) (id : String) :
    Turn id (h.deed? now op) (h.running? id) ((h.perform now op).running? id) := by
  have elsewhere : ∀ deed ∈ h.deed? now op, deed.concerns id = false := by
    simp [deed?_of_leavesPages leaves]
  cases works : op.addressee? with
  | none =>
    rw [running?_congr (application_perform_of_none h now leaves works id)]
    exact .same _ elsewhere
  | some addressee =>
    rw [running?_congr (application_perform h now works id), running?_alter]
    split
    · cases h.running? id with
      | none => exact .idle elsewhere
      | some i =>
        rcases i.perform_cases now op with
          ⟨_, _, rfl, -⟩ | ⟨_, rfl, -⟩ | ⟨quiet, log, goesOn⟩
        · cases leaves
        · cases leaves
        · rw [Option.map_some, goesOn]
          exact .quiet elsewhere quiet
    · exact .same _ elsewhere

theorem turn_launchWith {d : Descriptor} {handler : Handler} {after : Host}
    (launched : h.launchWith now d handler = (.ok (), after)) (id : String) :
    Turn id (some (.launched d)) (h.running? id) (after.running? id) := by
  obtain ⟨stopped, i, served, applications⟩ := application_launchWith launched
  have current : after.running? id =
      (if d.applicationId = id then (h.application id).start i else h.application id).current :=
    congrArg Application.current (applications id)
  rw [current]
  split
  · rename_i here
    subst here
    rw [stopped]
    exact .launched rfl served
  · rename_i elsewhere
    refine .same _ fun deed made => ?_
    cases made
    simpa [Deed.concerns] using elsewhere

-- What one operation does to the running instance of one application, and what is recorded.
theorem turn (h : Host) (now : Moment) (op : Operation) (id : String) :
    Turn id (h.deed? now op) (h.running? id) ((h.perform now op).running? id) := by
  cases op with
  | launchWith d handler =>
    simp only [deed?, perform]
    obtain ⟨e, failed⟩ | ⟨-, -, i, -, made⟩ := h.launchWith_cases now d handler
    · rw [failed]
      exact .same _ (by simp [Except.toOption])
    · have turn := turn_launchWith made id
      rw [made]
      exact turn
  | launch other version =>
    simp only [deed?, perform]
    obtain ⟨e, failed⟩ | ⟨m, found, -, same⟩ := h.launch_cases now other version
    · rw [failed]
      exact .same _ (by simp)
    · obtain ⟨e, failed⟩ | ⟨-, -, i, -, made⟩ := h.launchWith_cases now
        { m.descriptor with version := version <|> m.version } m.handler
      · rw [same, failed]
        exact .same _ (by simp)
      · have turn := turn_launchWith made id
        rw [same, made, found]
        exact turn
  | stop other =>
    cases runs : h.running? other with
    | none =>
      simp only [deed?, perform, stop_of_stopped runs]
      exact .same _ (by simp [Except.toOption])
    | some i =>
      have deed : h.deed? now (.stop other) = some (.stopped other) := by
        rw [deed?, stop_of_running runs]
        rfl
      have retired : (h.perform now (.stop other)).running? id = (h.retire now other).running? id := by
        rw [perform, stop_of_running runs]
        rfl
      rw [deed, retired, running?_retire]
      split
      · rename_i here
        subst here
        exact .stopped
      · rename_i elsewhere
        exact .same _ (by simpa [Deed.concerns] using elsewhere)
  | stopAll order =>
    have stopped : (h.perform now (.stopAll order)).running? id = none := by
      unfold running?
      rw [application_stopAll, Application.current_retire]
    rw [stopped]
    exact .allStopped
  | publishPage other page =>
    cases runs : h.running? other with
    | none =>
      simp only [deed?, perform, publishPage_of_stopped runs]
      exact .same _ (by simp [Except.toOption])
    | some i =>
      simp only [deed?, perform, publishPage_of_running runs]
      cases valid : page.validate with
      | error e =>
        rw [Instance.publishPage_of_invalid valid, setRunning_self runs]
        exact .same _ (by simp [Except.toOption])
      | ok u =>
        rw [Instance.publishPage_of_valid valid]
        change Turn id (some (.published other page)) (h.running? id)
          ((h.setRunning other (i.serve page)).running? id)
        rw [running?_setRunning]
        split
        · rename_i here
          subst here
          rw [runs]
          exact .published valid
        · rename_i elsewhere
          exact .same _ (by simpa [Deed.concerns] using elsewhere)
  | unpublishPage page =>
    cases runs : h.running? page.applicationId with
    | none =>
      simp only [deed?, perform, unpublishPage_of_stopped runs]
      exact .same _ (by simp [Except.toOption])
    | some i =>
      simp only [deed?, perform, unpublishPage_of_running runs]
      cases served : i.pages.pages.contains page.pageId with
      | false =>
        rw [Instance.unpublishPage_of_absent served, setRunning_self runs]
        exact .same _ (by simp [Except.toOption])
      | true =>
        rw [Instance.unpublishPage_of_served served]
        change Turn id (some (.unpublished page)) (h.running? id)
          ((h.setRunning page.applicationId (i.withdraw page.pageId)).running? id)
        rw [running?_setRunning]
        split
        · rename_i here
          subst here
          rw [runs]
          exact .unpublished
        · rename_i elsewhere
          exact .same _ (by simpa [Deed.concerns] using elsewhere)
  | _ => exact turn_of_leavesPages rfl id

end Host
end AppHost
