import AppHost.Proofs.Host.Catalog
import AppHost.Proofs.Host.Watching

/-!
Launches from the catalog. What is registered has been checked already, so a launch is refused only
if the application is unknown, may not be launched or runs; otherwise it serves the pages of the
manifest. So all applications that are to be started at first can be.
-/

set_option autoImplicit false
namespace AppHost
open Calendar (Instant)

namespace Manifest
variable {m : Manifest}

theorem pageList_valid (valid : m.validate = .ok ()) : ∀ page ∈ m.pageList, page.validate = .ok () :=
  ((validate_eq_ok_iff m).1 valid).2.1

theorem find?_pageList (m : Manifest) (id : String) :
    m.pageList.reverse.find? (·.id = id) =
      (m.pages.find? id).map fun spec => ⟨id, spec.file, spec.title⟩ := by
  cases found : m.pageList.reverse.find? (·.id = id) with
  | none =>
    have absent : m.pages.find? id = none := by
      refine Option.eq_none_iff_forall_ne_some.2 fun spec declared => ?_
      have member := (m.pages.mem_entries id spec).2 declared
      have other := List.find?_eq_none.1 found ⟨id, spec.file, spec.title⟩
        (List.mem_reverse.2 (List.mem_map_of_mem member))
      exact other (decide_eq_true rfl)
    rw [absent, Option.map_none]
  | some page =>
    obtain ⟨⟨key, spec⟩, member, rfl⟩ := List.mem_map.1 (List.mem_reverse.1 (List.mem_of_find?_eq_some found))
    have here : key = id := by simpa using List.find?_some found
    subst here
    rw [(m.pages.mem_entries key spec).1 member, Option.map_some]

end Manifest

namespace Host
variable {h : Host} {now : Moment} {id : String} {version : Option Instant} {m : Manifest}
  {i : Instance}

theorem find?_pages_of_starts (starts : h.Starts now { m.descriptor with version } m.handler i)
    (page : String) :
    i.pages.pages.find? page =
      (m.pages.find? page).map fun spec => ⟨page, spec.file, spec.title⟩ := by
  rw [Instance.pages_publishPages starts page]
  exact (Option.or_none).trans (m.find?_pageList page)

theorem pages_of_starts (starts : h.Starts now { m.descriptor with version } m.handler i) :
    i.pages.list = m.pageList := by
  have same : i.pages.pages = m.pages.map fun page spec => ⟨page, spec.file, spec.title⟩ := by
    refine Dictionary.eq_of_find? fun page => ?_
    rw [find?_pages_of_starts starts, Dictionary.find?_map]
  simp [PageRegistry.list, same, Dictionary.values, Dictionary.map, Manifest.pageList]

theorem version_of_starts (starts : h.Starts now { m.descriptor with version } m.handler i) :
    i.version = version :=
  Instance.version_publishPages starts

/-- A launch from the catalog cannot fail once it is known that the application may be launched and
does not run. -/
theorem launch_of_stopped (catalogued : h.Catalogued) (declared : h.catalog.find? id = some m)
    (allowed : m.allowLaunching = true) (stopped : h.running? id = none) (now : Moment)
    (version : Option Instant) :
    ∃ i, h.Starts now { m.descriptor with version := version <|> m.version } m.handler i ∧
      h.launch now id version =
        (.ok (), ((h.setRunning id i).announce (.launched i.summary)).updateWatched) := by
  obtain ⟨rfl, valid⟩ := catalogued id m declared
  have named := ((Manifest.validate_eq_ok_iff m).1 valid).1
  obtain ⟨i, starts⟩ := Instance.publishPages_of_valid (Manifest.pageList_valid valid)
    (.start m.id (version <|> m.version) m.handler h.options.eventBuffer now.date)
  refine ⟨i, starts, ?_⟩
  simp only [launch, declared, allowed, if_true, launchWith, Manifest.descriptor, named, isRunning,
    stopped, starts]
  rfl

theorem launch_of_running (catalogued : h.Catalogued) (declared : h.catalog.find? id = some m)
    (allowed : m.allowLaunching = true) (runs : h.isRunning id = true) (now : Moment)
    (version : Option Instant) :
    h.launch now id version = (.error (.applicationAlreadyRunning id), h) := by
  obtain ⟨rfl, valid⟩ := catalogued id m declared
  have named := ((Manifest.validate_eq_ok_iff m).1 valid).1
  simp only [launch, declared, allowed, if_true, launchWith, Manifest.descriptor, named, runs]
  rfl

/-- An instance as a manifest declares it runs, at a version of its own. -/
structure RunsAs (h : Host) (id : String) (m : Manifest) (version : Option Instant) : Prop where
  pages : (h.running? id).map (·.pages.list) = some m.pageList
  launchedAt : (h.running? id).map (·.version) = some version
  resolves : ∀ page ∈ m.pageList,
    h.resolvePage ⟨id, page.id⟩ = (.ok ⟨page.fileName, page.title, version⟩, h)

theorem runsAs_of_starts (catalogued : h.Catalogued) (declared : h.catalog.find? id = some m)
    {after : Host} (starts : h.Starts now { m.descriptor with version } m.handler i)
    (runs : after.running? id = some i) : after.RunsAs id m version where
  pages := by rw [runs, Option.map_some, pages_of_starts starts]
  launchedAt := by rw [runs, Option.map_some, version_of_starts starts]
  resolves page member := by
    obtain ⟨rfl, valid⟩ := catalogued id m declared
    have named : (⟨m.id, page.id⟩ : PageRef).isNamed = true := by
      have application := ((Manifest.validate_eq_ok_iff m).1 valid).1
      have inside := ((Page.validate_eq_ok_iff page).1 (Manifest.pageList_valid valid page member)).1
      simp [PageRef.isNamed, application, inside]
    have found : i.pages.pages.find? page.id = some page := by
      obtain ⟨⟨key, spec⟩, entry, rfl⟩ := List.mem_map.1 member
      rw [find?_pages_of_starts starts, (m.pages.mem_entries key spec).1 entry, Option.map_some]
    rw [resolvePage_of_running named runs, Instance.resolvePage_of_found found,
      version_of_starts starts]

/-! ### One after the other -/

/-- Launches applications of the catalog until one of them fails. -/
def launchEach (h : Host) (clock : String → Moment) : List String → Except RuntimeError Unit × Host
  | [] => (.ok (), h)
  | id :: rest =>
    match h.launch (clock id) id none with
    | (.error e, after) => (.error e, after)
    | (.ok (), after) => after.launchEach clock rest

def MayLaunch (h : Host) (id : String) : Prop :=
  ∃ m, h.catalog.find? id = some m ∧ m.allowLaunching = true

theorem launchEach_of_stopped (catalogued : h.Catalogued) (clock : String → Moment)
    {ids : List String} (once : ids.Nodup) (allowed : ∀ id ∈ ids, h.MayLaunch id)
    (stopped : ∀ id ∈ ids, h.running? id = none) :
    ∃ after, h.launchEach clock ids = (.ok (), after) ∧
      after = h.run (ids.map fun id => (clock id, .launch id none)) ∧
      ∀ id, after.isRunning id = true ↔ id ∈ ids ∨ h.isRunning id = true := by
  induction ids generalizing h with
  | nil => exact ⟨h, rfl, rfl, by simp⟩
  | cons id rest ih =>
    obtain ⟨m, declared, may⟩ := allowed id List.mem_cons_self
    obtain ⟨new, later⟩ := List.nodup_cons.1 once
    obtain ⟨i, -, launched⟩ := launch_of_stopped catalogued declared may
      (stopped id List.mem_cons_self) (clock id) none
    have performed : h.perform (clock id) (.launch id none) =
        ((h.setRunning id i).announce (.launched i.summary)).updateWatched := by
      rw [perform, launched]
    have runs (other : String) :
        (h.perform (clock id) (.launch id none)).running? other =
          if id = other then some i else h.running? other := by
      rw [performed]
      exact running?_setRunning h id i other
    -- The others are in the catalog still, and none of them runs yet.
    have next := ih (h := h.perform (clock id) (.launch id none))
      (catalogued_perform catalogued _ _) later
      (fun other member => by
        rw [MayLaunch, performed]
        exact allowed other (List.mem_cons_of_mem _ member))
      (fun other member => by
        rw [runs, if_neg]
        · exact stopped other (List.mem_cons_of_mem _ member)
        · rintro rfl
          exact new member)
    obtain ⟨after, done, same, running⟩ := next
    refine ⟨after, ?_, same, fun other => ?_⟩
    · rw [launchEach, launched, ← performed]
      exact done
    · rw [running, isRunning, runs, List.mem_cons]
      by_cases here : id = other
      · simp [here]
      · simp [here, Ne.symm here, isRunning]

theorem autostart_ascending (catalogued : h.Catalogued) :
    h.autostartApplications.Pairwise (· < ·) := by
  have keys : h.catalog.values.map (·.id) = h.catalog.keys :=
    Dictionary.map_values fun id m found => (catalogued id m found).1
  refine List.Pairwise.sublist (List.filter_sublist.map _) ?_
  rw [keys]
  exact h.catalog.keys_ascending

theorem mayLaunch_of_autostart (catalogued : h.Catalogued) (starts : id ∈ h.autostartApplications) :
    h.MayLaunch id := by
  obtain ⟨m, chosen, rfl⟩ := List.mem_map.1 starts
  obtain ⟨member, marked⟩ := List.mem_filter.1 chosen
  obtain ⟨⟨key, _⟩, entry, rfl⟩ := List.mem_map.1 member
  have found := (h.catalog.mem_entries key _).1 entry
  obtain ⟨-, allowed⟩ := (Bool.and_eq_true _ _).mp marked
  exact ⟨_, (catalogued key _ found).1.symm ▸ found, allowed⟩

theorem mem_running_ids (orderly : h.Orderly) (id : String) :
    id ∈ h.runningApplications.map (·.applicationId) ↔ h.isRunning id = true := by
  rw [runningApplications_ids orderly, Dictionary.mem_keys, find?_roster]
  rfl

theorem launchEach_autostart (catalogued : h.Catalogued) (orderly : h.Orderly)
    (stopped : ∀ id, h.running? id = none) (clock : String → Moment) :
    ∃ after, h.launchEach clock h.autostartApplications = (.ok (), after) ∧
      after.runningApplications.map (·.applicationId) = h.autostartApplications := by
  have ascending := autostart_ascending catalogued
  have once : h.autostartApplications.Nodup :=
    List.nodup_iff_pairwise_ne.2 (ascending.imp String.ne_of_lt)
  obtain ⟨after, done, same, running⟩ := launchEach_of_stopped catalogued clock once
    (fun _ starts => mayLaunch_of_autostart catalogued starts) fun id _ => stopped id
  have orderly : after.Orderly := same ▸ orderly_run orderly _
  refine ⟨after, done, ?_⟩
  refine Dictionary.eq_of_ascending (runningApplications_ascending orderly) ascending fun id => ?_
  rw [mem_running_ids orderly, running, isRunning, stopped]
  simp

theorem running?_registrations (options : HostOptions) (registrations : List (Moment × Manifest))
    (id : String) :
    ((new options).run (registrations.map fun r => (r.1, .register r.2))).running? id = none := by
  have each (h : Host) : (h.run (registrations.map fun r => (r.1, .register r.2))).running? id =
      h.running? id := by
    induction registrations generalizing h with
    | nil => rfl
    | cons r rest ih =>
      exact (ih _).trans (running?_congr (application_perform_of_none h r.1 rfl rfl id))
  exact each (new options)

/-- The catalog has the valid manifests that were registered last. A launch from it is refused if
the application is not in it, if its manifest does not allow it, and if the application runs, and
for no other reason; what it starts is what the manifest declares, at the version that is asked for
or the manifest's.
So after any registrations all applications that are to be started at first can be launched one
after the other, and they are then what runs, in this order. -/
theorem launching_from_catalog (options : HostOptions) :
    (∀ (operations : List (Moment × Operation)) (now : Moment) (id : String)
        (version : Option Instant),
      let h := (new options).run operations
      h.catalog.find? id = latest? id operations ∧
      match latest? id operations with
      | none => h.launch now id version = (.error (.applicationNotFound id), h)
      | some m =>
        if m.allowLaunching = false then
          h.launch now id version = (.error (.applicationNotEnabled id), h)
        else if h.isRunning id then
          h.launch now id version = (.error (.applicationAlreadyRunning id), h)
        else
          ∃ after, h.launch now id version = (.ok (), after) ∧
            after.RunsAs id m (version <|> m.version)) ∧
    ∀ (registrations : List (Moment × Manifest)) (clock : String → Moment),
      let h := (new options).run (registrations.map fun r => (r.1, .register r.2))
      ∃ after, h.launchEach clock h.autostartApplications = (.ok (), after) ∧
        after.runningApplications.map (·.applicationId) = h.autostartApplications := by
  refine ⟨fun operations now id version => ?_, fun registrations clock => ?_⟩
  · intro h
    have catalogued : h.Catalogued := catalogued_run (catalogued_new options) operations
    have latest : h.catalog.find? id = latest? id operations :=
      (find?_catalog_run _ operations id).trans (Option.or_none)
    refine ⟨latest, ?_⟩
    cases declared : latest? id operations with
    | none =>
      dsimp only
      rw [launch, latest, declared]
    | some m =>
      rw [declared] at latest
      dsimp only
      split
      · rename_i forbidden
        rw [launch, latest]
        simp [forbidden]
      · rename_i allowed
        have allowed : m.allowLaunching = true := by simpa using allowed
        split
        · rename_i runs
          exact launch_of_running catalogued latest allowed runs now version
        · rename_i idle
          have stopped : h.running? id = none := by simpa [isRunning] using idle
          obtain ⟨i, starts, launched⟩ :=
            launch_of_stopped catalogued latest allowed stopped now version
          refine ⟨_, launched, runsAs_of_starts catalogued latest starts ?_⟩
          exact (running?_setRunning h id i id).trans (if_pos rfl)
  · exact launchEach_autostart (catalogued_run (catalogued_new options) _)
      (orderly_run (orderly_new options) _) (running?_registrations options registrations) clock

/-- Of the two applications that are to be started at first, one is registered twice. -/
theorem launching_from_catalog_again :
    let page (file : String) : Dictionary PageSpec := Dictionary.empty.insert "p" ⟨file, "P"⟩
    let a : Manifest := ⟨"a", true, true, none, .empty, .empty, .empty⟩
    let b (file : String) : Manifest := ⟨"b", true, true, none, page file, .empty, .empty⟩
    let now : Moment := ⟨⟨0, 0, by decide⟩, 0⟩
    let registrations := [(now, b "old.html"), (now, a), (now, b "new.html")]
    let operations := registrations.map fun r => (r.1, Operation.register r.2)
    let h := (new .default).run operations
    (∃ after, h.launch now "b" none = (.ok (), after) ∧ after.RunsAs "b" (b "new.html") none) ∧
      ∃ after, h.launchEach (fun _ => now) h.autostartApplications = (.ok (), after) ∧
        after.runningApplications.map (·.applicationId) = ["a", "b"] := by
  intro page a b now registrations operations h
  obtain ⟨launches, starts⟩ := launching_from_catalog .default
  have both : h.autostartApplications = ["a", "b"] := by decide +kernel
  refine ⟨(launches operations now "b" none).2, ?_⟩
  rw [← both]
  exact starts registrations fun _ => now

end Host
end AppHost
