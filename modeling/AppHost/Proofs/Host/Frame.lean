import AppHost.Proofs.Host.History

/-!
What one operation can do to a host, and so what it leaves alone. Launches, stops and registrations
apart, an operation changes instances and logs only.
-/

set_option autoImplicit false
namespace AppHost

def Operation.isLocal : Operation → Bool
  | .register _ => false
  | .launch _ _ => false
  | .launchWith _ _ => false
  | .stop _ => false
  | .stopAll _ => false
  | _ => true

theorem Operation.leavesPages_of_isLocal {op : Operation} (isLocal : op.isLocal = true)
    (none : op.addressee? = none) : op.leavesPages = true := by
  cases op with
  | publishPage _ _ | unpublishPage _ => cases none
  | register _ | launch _ _ | launchWith _ _ | stop _ | stopAll _ => cases isLocal
  | _ => rfl

def Deed.changesPages : Deed → Bool
  | .published _ _ => true
  | .unpublished _ => true
  | _ => false

namespace Host
variable {h : Host} {now : Moment}

theorem frame_alter (h : Host) (ref : InstanceRef) (change : Instance → Instance) :
    ∃ applications, h.alter ref change = { h with applications } := by
  unfold alter
  cases h.instance? ref with
  | none => exact ⟨_, rfl⟩
  | some i => exact ⟨_, rfl⟩

theorem frame_ask {α : Type} (h : Host) (id : String) (found : Except RuntimeError Instance)
    (request : Instance → Except RuntimeError α × Instance) :
    ∃ applications, (h.ask id found request).2 = { h with applications } := by
  cases found with
  | error e => exact ⟨_, rfl⟩
  | ok i => exact ⟨_, rfl⟩

theorem frame_perform (h : Host) (now : Moment) {op : Operation} (isLocal : op.isLocal = true) :
    ∃ applications recentLogs,
      (recentLogs = h.recentLogs ∨ recentLogs = (h.pruneLogs now).recentLogs) ∧
        h.perform now op = { h with applications, recentLogs } := by
  cases op with
  | register _ | launch _ _ | launchWith _ _ | stop _ | stopAll _ => cases isLocal
  | publishPage _ _ | unpublishPage _ | resolvePage _ | subscribe _ | invoke _ | trigger _
  | emitToPage _ _ | emitToAll _ _ =>
    obtain ⟨applications, same⟩ := h.frame_ask _ _ _
    exact ⟨applications, _, .inl rfl, same⟩
  | receive stream =>
    obtain ⟨applications, same⟩ := h.frame_alter stream.target fun i => (i.receive stream.number).2
    exact ⟨applications, _, .inl rfl, (receive_eq_alter h stream).trans same⟩
  | unsubscribe stream =>
    obtain ⟨applications, same⟩ := h.frame_alter stream.target (·.unsubscribe stream.number)
    exact ⟨applications, _, .inl rfl, (unsubscribe_eq_alter h stream).trans same⟩
  | sendToPage source page event =>
    obtain ⟨applications, same⟩ := h.frame_alter source fun i => (i.emitToPage page event).2
    exact ⟨applications, _, .inl rfl, same⟩
  | sendToAll source event =>
    obtain ⟨applications, same⟩ := h.frame_alter source fun i => (i.emitToAll event).2
    exact ⟨applications, _, .inl rfl, same⟩
  | findLog id =>
    simp only [perform, findLog]
    split
    · exact ⟨_, _, .inl rfl, rfl⟩
    · split <;> exact ⟨_, _, .inr rfl, rfl⟩

theorem changesPages_of_isLocal {op : Operation} (isLocal : op.isLocal = true) :
    ∀ deed ∈ h.deed? now op, deed.changesPages = true := by
  cases op with
  | register _ | launch _ _ | launchWith _ _ | stop _ | stopAll _ => cases isLocal
  | publishPage id page =>
    intro deed made
    obtain ⟨after, -, rfl⟩ := Option.map_eq_some_iff.1 made
    rfl
  | unpublishPage page =>
    intro deed made
    obtain ⟨after, -, rfl⟩ := Option.map_eq_some_iff.1 made
    rfl
  | _ =>
    intro deed made
    cases made

theorem register_of_valid {m : Manifest} (valid : m.validate = .ok ()) (h : Host) :
    h.register m = (.ok (), { h with catalog := h.catalog.insert m.id m }) := by
  rw [register, valid]

theorem register_of_invalid {m : Manifest} {e : RuntimeError} (invalid : m.validate = .error e)
    (h : Host) : h.register m = (.error e, h) := by
  rw [register, invalid]

/-- An operation asks for a launch, of an application of the catalog or of any other. -/
inductive Asks (h : Host) : Operation → Descriptor → Handler → Prop
  | launch {id : String} {version : Option Calendar.Instant} {m : Manifest}
      (declared : h.catalog.find? id = some m) :
      Asks h (.launch id version) { m.descriptor with version := version <|> m.version } m.handler
  | launchWith {d : Descriptor} {handler : Handler} : Asks h (.launchWith d handler) d handler

def Starts (h : Host) (now : Moment) (d : Descriptor) (handler : Handler) (i : Instance) : Prop :=
  (Instance.start d.applicationId d.version handler h.options.eventBuffer now.date).publishPages
    d.pages = (.ok (), i)

/-- What comes of an operation, and what is recorded of it. -/
inductive Outcome (h : Host) (now : Moment) (op : Operation) : Prop
  | refused (same : h.perform now op = h) (nothing : h.deed? now op = none)
  | registered {m : Manifest} (asked : op = .register m) (valid : m.validate = .ok ())
      (after : h.perform now op = { h with catalog := h.catalog.insert m.id m })
      (nothing : h.deed? now op = none)
  | launched {d : Descriptor} {handler : Handler} {i : Instance} (asked : h.Asks op d handler)
      (stopped : h.running? d.applicationId = none) (starts : h.Starts now d handler i)
      (after : h.perform now op =
        ((h.setRunning d.applicationId i).announce (.launched i.summary)).updateWatched)
      (made : h.deed? now op = some (.launched d))
  | stopped {id : String} {i : Instance} (asked : op = .stop id) (runs : h.running? id = some i)
      (after : h.perform now op = (h.retire now id).updateWatched)
      (made : h.deed? now op = some (.stopped id))
  | allStopped {order : List String} (asked : op = .stopAll order)
  | within {applications : Dictionary Application} {recentLogs : Dictionary RecentLog}
      (isLocal : op.isLocal = true)
      (after : h.perform now op = { h with applications, recentLogs })
      (logs : recentLogs = h.recentLogs ∨ recentLogs = (h.pruneLogs now).recentLogs)

theorem outcome (h : Host) (now : Moment) (op : Operation) : h.Outcome now op := by
  have within (isLocal : op.isLocal = true) : h.Outcome now op := by
    obtain ⟨applications, recentLogs, logs, after⟩ := h.frame_perform now isLocal
    exact .within isLocal after logs
  cases op with
  | register m =>
    cases valid : m.validate with
    | error e => exact .refused (by rw [perform, register_of_invalid valid]) rfl
    | ok u => exact .registered rfl valid (by rw [perform, register_of_valid valid]) rfl
  | launch id version =>
    obtain ⟨e, failed⟩ | ⟨m, declared, -, same⟩ := h.launch_cases now id version
    · exact .refused (by rw [perform, failed]) (by simp only [deed?, failed])
    · obtain ⟨e, failed⟩ | ⟨-, stopped, i, starts, made⟩ := h.launchWith_cases now
        { m.descriptor with version := version <|> m.version } m.handler
      · exact .refused (by rw [perform, same, failed]) (by simp only [deed?, same, failed])
      · exact .launched (.launch declared) stopped starts (by rw [perform, same, made])
          (by simp only [deed?, same, made, declared])
  | launchWith d handler =>
    obtain ⟨e, failed⟩ | ⟨-, stopped, i, starts, made⟩ := h.launchWith_cases now d handler
    · exact .refused (by rw [perform, failed]) (by rw [deed?, failed]; rfl)
    · exact .launched .launchWith stopped starts (by rw [perform, made]) (by rw [deed?, made]; rfl)
  | stop id =>
    cases runs : h.running? id with
    | none =>
      have fails := stop_of_stopped runs now
      exact .refused (by rw [perform, fails]) (by rw [deed?, fails]; rfl)
    | some i =>
      have done := stop_of_running runs now
      exact .stopped rfl runs (by rw [perform, done]) (by rw [deed?, done]; rfl)
  | stopAll order => exact .allStopped rfl
  | _ => exact within rfl

theorem catalog_retire (h : Host) (now : Moment) (id : String) :
    (h.retire now id).catalog = h.catalog := by
  unfold retire
  split <;> rfl

theorem stopEach_congr {α : Type} {f : Host → α} (retires : ∀ h now id, f (retire h now id) = f h)
    (updates : ∀ h, f (updateWatched h) = f h) (h : Host) (now : Moment) (order : List String) :
    f (h.stopEach now order) = f h := by
  have each : f (order.foldl (fun h id => h.retire now id) h) = f h := by
    induction order generalizing h with
    | nil => rfl
    | cons first rest ih => rw [List.foldl_cons, ih, retires]
  unfold stopEach
  split
  · rfl
  · exact (updates _).trans each

theorem catalog_stopEach (h : Host) (now : Moment) (order : List String) :
    (h.stopEach now order).catalog = h.catalog :=
  stopEach_congr (f := Host.catalog) catalog_retire (fun _ => rfl) h now order

/-- The catalog changes only where a valid manifest is registered. -/
theorem catalog_perform (h : Host) (now : Moment) (op : Operation) :
    (h.perform now op).catalog = h.catalog ∨
      ∃ m, op = .register m ∧ m.validate = .ok () ∧
        (h.perform now op).catalog = h.catalog.insert m.id m := by
  cases h.outcome now op with
  | refused same nothing => exact .inl (by rw [same])
  | @registered m asked valid after nothing => exact .inr ⟨m, asked, valid, by rw [after]⟩
  | launched asked stopped starts after made => exact .inl (by rw [after]; rfl)
  | stopped asked runs after made => exact .inl (by rw [after]; exact catalog_retire ..)
  | allStopped asked =>
    subst asked
    exact .inl (catalog_stopEach ..)
  | within isLocal after logs => exact .inl (by rw [after])

end Host
end AppHost
