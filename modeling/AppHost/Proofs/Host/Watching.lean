import AppHost.Proofs.Host.Announcements
import AppHost.Proofs.Host.Serving

/-!
Three views of what runs: the instances, the events that tell of their launches and stops, and the
list that is kept for watchers. They agree after any run, except that the list does not follow the
pages of an application while it runs.
-/

set_option autoImplicit false
namespace AppHost

namespace Host
variable {h : Host} {now : Moment}

/-! ### The events -/

/-- Of every application, the events take turns, and the instance that runs is the one that was
launched last and not stopped. -/
def IsToldBy (h : Host) (events : List LifecycleEvent) : Prop :=
  ∀ id, ∃ last, Alternates (events.filter (·.isOf id)) last ∧
    last.map (·.identity) = (h.running? id).map (·.summary.identity)

theorem isToldBy_perform {events : List LifecycleEvent} (orderly : h.Orderly)
    (told : h.IsToldBy events) (now : Moment) (op : Operation) :
    (h.perform now op).IsToldBy (events ++ h.announced now op) := by
  intro id
  obtain ⟨last, alternates, runs⟩ := told id
  have turn := h.turn now op id
  rw [List.filter_append, announced_filter orderly]
  cases before : h.running? id with
  | none =>
    rw [before] at runs
    cases after : (h.perform now op).running? id with
    | none => exact ⟨last, by simpa [AppHost.told] using alternates, runs⟩
    | some i =>
      cases Option.map_eq_none_iff.1 runs
      exact ⟨some i.summary, .launched alternates, rfl⟩
  | some i =>
    rw [before] at runs turn
    cases after : (h.perform now op).running? id with
    | none =>
      obtain ⟨a, rfl, same⟩ := Option.map_eq_some_iff.1 runs
      exact ⟨none, .stopped alternates same.symm, rfl⟩
    | some j =>
      rw [after] at turn
      refine ⟨last, by simpa [AppHost.told] using alternates, runs.trans ?_⟩
      exact congrArg some turn.identity.symm

theorem isToldBy_run {events : List LifecycleEvent} (orderly : h.Orderly)
    (told : h.IsToldBy events) (operations : List (Moment × Operation)) :
    (h.run operations).IsToldBy (events ++ h.announcements operations) := by
  induction operations generalizing h events with
  | nil => rwa [announcements, List.append_nil]
  | cons o rest ih =>
    rw [announcements, ← List.append_assoc]
    exact ih (orderly_perform orderly o.1 o.2) (isToldBy_perform orderly told o.1 o.2)

theorem lifecycle_run (h : Host) (operations : List (Moment × Operation)) :
    (h.run operations).lifecycle = (h.announcements operations).foldl Feed.send h.lifecycle := by
  induction operations generalizing h with
  | nil => rfl
  | cons o rest ih =>
    rw [announcements, List.foldl_append, ← lifecycle_perform]
    exact ih _

theorem stopped_of_mem_announced (orderly : h.Orderly) {op : Operation} {b : RunningApplication}
    (told : .stopped b ∈ h.announced now op) :
    ∃ i, h.running? b.applicationId = some i ∧ b = i.summary := by
  obtain ⟨id, -, told⟩ := List.mem_flatMap.1 told
  rcases mem_told told with ⟨i, runs, same⟩ | ⟨i, runs, same⟩
  · cases same
  · cases same
    have own : i.applicationId = id := applicationId_of_orderly orderly runs
    exact ⟨i, (congrArg h.running? own).trans runs, rfl⟩

/-- What is told of pages are the pages that count, in the order of their ids. -/
theorem pages_summary {id : String} {deeds : List Deed} {i : Instance}
    (records : Records id deeds (some i)) :
    (i.summary.pages.map (·.id)).Pairwise (· < ·) ∧
      ∀ p, p ∈ i.summary.pages ↔ Deed.page? ⟨id, p.id⟩ deeds = some p := by
  have sound := records.sound i rfl
  refine ⟨sound.pages_ascending, fun p => ?_⟩
  rw [← records.page p.id, Option.bind_some]
  simp only [Instance.summary, PageRegistry.list, Dictionary.values, List.mem_map, Prod.exists,
    exists_eq_right, Dictionary.mem_entries]
  constructor
  · rintro ⟨key, found⟩
    rwa [(sound.valid key p found).1]
  · exact fun found => ⟨p.id, found⟩

/-! ### The list of running applications -/

theorem mem_runningApplications (orderly : h.Orderly) (a : RunningApplication) :
    a ∈ h.runningApplications ↔ (h.running? a.applicationId).map (·.summary) = some a := by
  rw [runningApplications_eq, List.mem_map]
  constructor
  · rintro ⟨i, present, rfl⟩
    obtain ⟨id, runs⟩ := (h.mem_values_roster i).1 present
    change (h.running? i.applicationId).map _ = _
    rw [applicationId_of_orderly orderly runs, runs, Option.map_some]
  · intro runs
    obtain ⟨i, runs, same⟩ := Option.map_eq_some_iff.1 runs
    exact ⟨i, (h.mem_values_roster i).2 ⟨_, runs⟩, same⟩

theorem runningApplications_ids (orderly : h.Orderly) :
    h.runningApplications.map (·.applicationId) = h.roster.keys := by
  rw [runningApplications_eq, List.map_map]
  refine Dictionary.map_values fun id i found => ?_
  exact applicationId_of_orderly orderly ((h.find?_roster id).symm.trans found)

theorem runningApplications_ascending (orderly : h.Orderly) :
    (h.runningApplications.map (·.applicationId)).Pairwise (· < ·) := by
  rw [runningApplications_ids orderly]
  exact h.roster.keys_ascending

/-! ### What watchers see -/

/-- The list for watchers has what runs, in the same order, and with the same pages unless pages
were published or unpublished since the last launch or stop. -/
structure Mirrors (h : Host) (deeds : List Deed) : Prop where
  identities : h.watched.value.map (·.identity) = h.runningApplications.map (·.identity)
  whole : deeds.takeWhile (·.changesPages) = [] → h.watched.value = h.runningApplications

/-- An operation brings the list up to date, leaves it alone while it changes pages at most, or
finds nothing to stop. -/
theorem watched_perform (h : Host) (now : Moment) (op : Operation) :
    (h.perform now op).watched.value = (h.perform now op).runningApplications ∨
      ((h.perform now op).watched = h.watched ∧
        ∀ deed ∈ h.deed? now op, deed.changesPages = true) ∨
      (h.perform now op = h ∧ h.runningApplications = []) := by
  cases h.outcome now op with
  | refused same nothing =>
    exact .inr (.inl ⟨by rw [same], fun deed made => by cases nothing.symm.trans made⟩)
  | registered asked valid after nothing =>
    exact .inr (.inl ⟨by rw [after], fun deed made => by cases nothing.symm.trans made⟩)
  | launched asked stopped starts after made => exact .inl (by rw [after]; rfl)
  | stopped asked runs after made => exact .inl (by rw [after]; rfl)
  | @allStopped order asked =>
    subst asked
    change (h.stopEach now (h.concerned (.stopAll order))).watched.value =
        (h.stopEach now (h.concerned (.stopAll order))).runningApplications ∨ _ ∨
      (h.stopEach now (h.concerned (.stopAll order)) = h ∧ _)
    by_cases empty : h.concerned (.stopAll order) = []
    · refine .inr (.inr ⟨by rw [empty]; rfl, ?_⟩)
      rw [runningApplications_eq, List.map_eq_nil_iff, List.eq_nil_iff_forall_not_mem]
      intro i present
      obtain ⟨id, runs⟩ := (h.mem_values_roster i).1 present
      have member := (h.mem_concerned_stopAll order id).2 (by rw [runs, Option.isSome_some])
      rw [empty] at member
      cases member
    · rw [stopEach, if_neg (by simpa using empty)]
      exact .inl rfl
  | within isLocal after logs =>
    exact .inr (.inl ⟨by rw [after], changesPages_of_isLocal isLocal⟩)

theorem mirrors_perform {deeds : List Deed} (mirrors : h.Mirrors deeds) (now : Moment)
    (op : Operation) : (h.perform now op).Mirrors ((h.deed? now op).toList ++ deeds) := by
  rcases h.watched_perform now op with current | ⟨same, changes⟩ | ⟨same, nothing⟩
  · exact ⟨by rw [current], fun _ => current⟩
  · have identities : (h.perform now op).runningApplications.map (·.identity) =
        h.runningApplications.map (·.identity) := by
      rw [runningApplications_eq, runningApplications_eq, List.map_map, List.map_map]
      exact values_roster_congr fun id => (h.turn now op id).identity_of_changesPages changes
    refine ⟨by rw [same, mirrors.identities, identities], fun none => ?_⟩
    cases made : h.deed? now op with
    | none =>
      have pages : (h.perform now op).runningApplications = h.runningApplications := by
        rw [runningApplications_eq, runningApplications_eq]
        refine values_roster_congr fun id => ?_
        have turn := h.turn now op id
        rw [made] at turn
        exact turn.summary_of_none
      rw [made] at none
      rw [same, pages]
      exact mirrors.whole none
    | some deed =>
      rw [made] at none
      simp [changes deed made] at none
  · have empty : h.watched.value = [] := by
      have identities := mirrors.identities
      rw [nothing] at identities
      exact List.map_eq_nil_iff.1 identities
    rw [same]
    exact ⟨mirrors.identities, fun _ => by rw [empty, nothing]⟩

theorem mirrors_run {deeds : List Deed} (mirrors : h.Mirrors deeds)
    (operations : List (Moment × Operation)) :
    (h.run operations).Mirrors (h.history deeds operations) := by
  induction operations generalizing h deeds with
  | nil => exact mirrors
  | cons o rest ih => exact ih (mirrors_perform mirrors o.1 o.2)

/-- After any run: the feed was sent the events that the run tells. Those of one application are a
launch, a stop of what was launched, and so on, and it runs if a launch is the last of them. A stop
tells of the pages that counted when it was made. The list of what runs has each running application
once, in the order of the ids, and watchers see the same list but for pages that were published or
unpublished since the last launch or stop. -/
theorem lifecycle_and_watch (options : HostOptions) (operations : List (Moment × Operation)) :
    let h := (new options).run operations
    let events := (new options).announcements operations
    let deeds := (new options).history [] operations
    h.lifecycle = events.foldl Feed.send (.empty lifecycleCapacity) ∧
    (∀ id,
      (∃ last, Alternates (events.filter (·.isOf id)) last ∧
        last.map (·.identity) = (h.running? id).map (·.summary.identity)) ∧
      (h.isRunning id = true ↔
        ∃ a, (events.filter (·.isOf id)).getLast? = some (.launched a))) ∧
    (∀ before now op after b, operations = before ++ (now, op) :: after →
      .stopped b ∈ ((new options).run before).announced now op →
      (b.pages.map (·.id)).Pairwise (· < ·) ∧
        ∀ p, p ∈ b.pages ↔
          Deed.page? ⟨b.applicationId, p.id⟩ ((new options).history [] before) = some p) ∧
    (h.runningApplications.map (·.applicationId)).Pairwise (· < ·) ∧
    (∀ a, a ∈ h.runningApplications ↔
      (h.running? a.applicationId).map (·.summary) = some a) ∧
    h.watched.value.map (·.identity) = h.runningApplications.map (·.identity) ∧
    (deeds.takeWhile (·.changesPages) = [] → h.watched.value = h.runningApplications) := by
  intro h events deeds
  have orderly : h.Orderly := orderly_run (orderly_new options) operations
  have start : (new options).IsToldBy [] := fun id => ⟨none, .nothing, rfl⟩
  have told : h.IsToldBy events := isToldBy_run (orderly_new options) start operations
  have mirrors : h.Mirrors deeds := mirrors_run ⟨rfl, fun _ => rfl⟩ operations
  refine ⟨lifecycle_run _ operations, fun id => ?_, ?_, runningApplications_ascending orderly,
    mem_runningApplications orderly, mirrors.identities, mirrors.whole⟩
  · obtain ⟨last, alternates, runs⟩ := told id
    refine ⟨⟨last, alternates, runs⟩, ?_⟩
    have same : last.isSome = (h.running? id).isSome := by
      simpa using congrArg Option.isSome runs
    rw [isRunning, ← same]
    exact alternates.isSome_iff
  · intro before now op after b _ stopped
    obtain ⟨i, runs, same⟩ :=
      stopped_of_mem_announced (orderly_run (orderly_new options) before) stopped
    have records : Records b.applicationId ((new options).history [] before)
        (((new options).run before).running? b.applicationId) :=
      Records.run (Records.none b.applicationId) before
    rw [runs] at records
    rw [same] at records ⊢
    exact pages_summary records

/-- An application that got a page after its launch, and was stopped. -/
theorem lifecycle_and_watch_stopped :
    let handler : Handler := ⟨fun _ _ _ => .done (.ok .null), Handler.ignoreEvent⟩
    let now : Moment := ⟨⟨0, 0, by decide⟩, 0⟩
    let operations := [(now, .launchWith ⟨"app", none, [⟨"p", "p.html", "P"⟩]⟩ handler),
      (now, .publishPage "app" ⟨"o", "o.html", "O"⟩), (now, Operation.stop "app")]
    let h := (new .default).run operations
    let b : RunningApplication :=
      ⟨"app", none, now.date, [⟨"o", "o.html", "O"⟩, ⟨"p", "p.html", "P"⟩]⟩
    .stopped b ∈ ((new .default).run (operations.take 2)).announced now (.stop "app") ∧
      (∀ p, p ∈ b.pages ↔
        Deed.page? ⟨"app", p.id⟩ ((new .default).history [] (operations.take 2)) = some p) ∧
      h.watched.value = h.runningApplications := by
  intro handler now operations h b
  have stopped : .stopped b ∈ ((new .default).run (operations.take 2)).announced now (.stop "app") :=
    List.mem_singleton.2 rfl
  obtain ⟨-, -, pages, -, -, -, watched⟩ := lifecycle_and_watch .default operations
  exact ⟨stopped, (pages (operations.take 2) now (.stop "app") [] b rfl stopped).2, watched rfl⟩

end Host
end AppHost
