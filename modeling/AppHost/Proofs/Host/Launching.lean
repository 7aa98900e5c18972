import AppHost.Proofs.Host.Operation

/-!
What launches and stops do to the applications. A launch that succeeds adds one running instance to
an application that has none; to stop it leaves it among those that were stopped.
-/

set_option autoImplicit false
namespace AppHost
open Calendar (Instant)

namespace Host

variable {h after : Host} {now : Moment}

/-- A launch fails and changes nothing, or there is one running instance more. -/
theorem launchWith_cases (h : Host) (now : Moment) (d : Descriptor) (handler : Handler) :
    (∃ e, h.launchWith now d handler = (.error e, h)) ∨
      d.applicationId.isEmpty = false ∧ h.running? d.applicationId = none ∧
        ∃ i, (Instance.start d.applicationId d.version handler h.options.eventBuffer
            now.date).publishPages d.pages = (.ok (), i) ∧
          h.launchWith now d handler = (.ok (),
            ((h.setRunning d.applicationId i).announce (.launched i.summary)).updateWatched) := by
  unfold launchWith
  split
  · exact .inl ⟨_, rfl⟩
  · rename_i named
    split
    · exact .inl ⟨_, rfl⟩
    · rename_i stopped
      dsimp only
      split
      · exact .inl ⟨_, rfl⟩
      · rename_i i served
        exact .inr ⟨Bool.eq_false_iff.2 named, by simpa [isRunning] using stopped, i, served, rfl⟩

theorem launchWith_eq_ok {d : Descriptor} {handler : Handler}
    (launched : h.launchWith now d handler = (.ok (), after)) :
    d.applicationId.isEmpty = false ∧ h.running? d.applicationId = none ∧
      ∃ i, (Instance.start d.applicationId d.version handler h.options.eventBuffer
          now.date).publishPages d.pages = (.ok (), i) ∧
        after = ((h.setRunning d.applicationId i).announce (.launched i.summary)).updateWatched := by
  obtain ⟨e, failed⟩ | ⟨named, stopped, i, served, made⟩ := h.launchWith_cases now d handler
  · cases failed.symm.trans launched
  · cases made.symm.trans launched
    exact ⟨named, stopped, i, served, rfl⟩

theorem launch_cases (h : Host) (now : Moment) (id : String) (version : Option Instant) :
    (∃ e, h.launch now id version = (.error e, h)) ∨
      ∃ m, h.catalog.find? id = some m ∧ m.allowLaunching = true ∧
        h.launch now id version =
          h.launchWith now { m.descriptor with version := version <|> m.version } m.handler := by
  unfold launch
  split
  · exact .inl ⟨_, rfl⟩
  · rename_i m found
    split
    · rename_i allowed
      exact .inr ⟨m, found, allowed, rfl⟩
    · exact .inl ⟨_, rfl⟩

theorem launch_eq_ok {id : String} {version : Option Instant}
    (launched : h.launch now id version = (.ok (), after)) :
    ∃ m, h.catalog.find? id = some m ∧
      h.launchWith now { m.descriptor with version := version <|> m.version } m.handler =
        (.ok (), after) := by
  obtain ⟨e, failed⟩ | ⟨m, found, -, same⟩ := h.launch_cases now id version
  · cases failed.symm.trans launched
  · exact ⟨m, found, same.symm.trans launched⟩

theorem application_launchWith {d : Descriptor} {handler : Handler}
    (launched : h.launchWith now d handler = (.ok (), after)) :
    h.running? d.applicationId = none ∧
      ∃ i, (Instance.start d.applicationId d.version handler h.options.eventBuffer
          now.date).publishPages d.pages = (.ok (), i) ∧
        ∀ id, after.application id =
          if d.applicationId = id then (h.application id).start i else h.application id := by
  obtain ⟨-, stopped, i, served, rfl⟩ := launchWith_eq_ok launched
  refine ⟨stopped, i, served, fun id => ?_⟩
  refine (application_setRunning h d.applicationId i id).trans ?_
  split
  · rename_i same
    rw [same]
  · rfl

theorem application_retire (h : Host) (now : Moment) (id other : String) :
    (h.retire now id).application other =
      if id = other then (h.application other).retire now.date else h.application other := by
  unfold retire
  cases runs : h.running? id with
  | none =>
    dsimp only
    split
    · rename_i same
      subst same
      exact (Application.retire_of_none runs _).symm
    · rfl
  | some i =>
    dsimp only
    refine (application_insert h id _ other).trans ?_
    split
    · rename_i same
      subst same
      have current : (h.application id).current = some i := runs
      simp [Application.retire, current]
    · rfl

theorem mem_runningIds (h : Host) (id : String) :
    id ∈ h.runningIds ↔ (h.running? id).isSome := by
  simp only [runningIds, List.mem_map, List.mem_filter, running?, application]
  constructor
  · rintro ⟨⟨key, a⟩, ⟨member, runs⟩, rfl⟩
    rw [(h.applications.mem_entries key a).1 member]
    exact runs
  · intro runs
    cases found : h.applications.find? id with
    | none =>
      rw [found] at runs
      cases runs
    | some a =>
      rw [found] at runs
      exact ⟨(id, a), ⟨(h.applications.mem_entries id a).2 found, runs⟩, rfl⟩

theorem application_stopEach (h : Host) (now : Moment) (order : List String) (id : String) :
    (h.stopEach now order).application id =
      if id ∈ order then (h.application id).retire now.date else h.application id := by
  have each : (order.foldl (fun h id => h.retire now id) h).application id =
      if id ∈ order then (h.application id).retire now.date else h.application id := by
    induction order generalizing h with
    | nil => rfl
    | cons first rest ih =>
      rw [List.foldl_cons, ih, application_retire]
      by_cases same : first = id
      · subst same
        -- Who is stopped already is not stopped again.
        have twice := Application.retire_of_none
          (Application.current_retire (h.application first) now.date) now.date
        simp [twice]
      · simp [same, Ne.symm same]
  unfold stopEach
  cases order with
  | nil => rfl
  | cons first rest => exact each

theorem mem_stopAll (h : Host) (order : List String) (id : String) :
    id ∈ (if order.isPerm h.runningIds then order else h.runningIds) ↔ (h.running? id).isSome := by
  rw [← mem_runningIds]
  split
  · rename_i same
    exact (List.isPerm_iff.1 same).mem_iff
  · rfl

theorem application_stopAll (h : Host) (now : Moment) (order : List String) (id : String) :
    (h.perform now (.stopAll order)).application id = (h.application id).retire now.date := by
  refine (application_stopEach h now _ id).trans ?_
  cases runs : h.running? id with
  | some i =>
    rw [if_pos ((h.mem_stopAll order id).2 (by rw [runs, Option.isSome_some]))]
  | none =>
    rw [if_neg (mt (h.mem_stopAll order id).1 (by simp [runs]))]
    exact (Application.retire_of_none runs _).symm

end Host
end AppHost
