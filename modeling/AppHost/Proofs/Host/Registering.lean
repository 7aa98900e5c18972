import AppHost.Proofs.Host.Renewal

/-!
A manifest that is registered for an application while it runs. Registrations change the catalog, and
but for launches from it no operation looks there; what was launched has its own copy of all that it
needs. So two hosts that differ in the catalog entry of a running application go on alike until that
application is stopped, and its next launch knows nothing but the entry.
-/

set_option autoImplicit false
namespace AppHost
open Calendar (Instant)

def Operation.usesCatalog : Operation → Bool
  | .register _ => true
  | .launch _ _ => true
  | _ => false

namespace Host

def withCatalog (h : Host) (catalog : Dictionary Manifest) : Host := { h with catalog }

/-- The same answer, from a host with another catalog. -/
def swapCatalog {α : Type} (catalog : Dictionary Manifest) (made : α × Host) : α × Host :=
  (made.1, made.2.withCatalog catalog)

variable {h g : Host} {now : Moment} {op : Operation} {id : String} {catalog : Dictionary Manifest}

@[simp] theorem running?_withCatalog (h : Host) (catalog : Dictionary Manifest) (id : String) :
    (h.withCatalog catalog).running? id = h.running? id := rfl

@[simp] theorem instance?_withCatalog (h : Host) (catalog : Dictionary Manifest) (ref : InstanceRef) :
    (h.withCatalog catalog).instance? ref = h.instance? ref := rfl

/-! ### What does not look into the catalog -/

theorem retire_withCatalog (h : Host) (catalog : Dictionary Manifest) (now : Moment) (id : String) :
    (h.withCatalog catalog).retire now id = (h.retire now id).withCatalog catalog := by
  unfold retire
  rw [running?_withCatalog]
  cases h.running? id <;> rfl

theorem stopEach_withCatalog (h : Host) (catalog : Dictionary Manifest) (now : Moment)
    (order : List String) :
    (h.withCatalog catalog).stopEach now order = (h.stopEach now order).withCatalog catalog := by
  have each : order.foldl (fun h id => h.retire now id) (h.withCatalog catalog) =
      (order.foldl (fun h id => h.retire now id) h).withCatalog catalog := by
    induction order generalizing h with
    | nil => rfl
    | cons first rest ih => rw [List.foldl_cons, List.foldl_cons, retire_withCatalog, ih]
  unfold stopEach
  rw [each]
  split <;> rfl

theorem alter_withCatalog (h : Host) (catalog : Dictionary Manifest) (ref : InstanceRef)
    (change : Instance → Instance) :
    (h.withCatalog catalog).alter ref change = (h.alter ref change).withCatalog catalog := by
  unfold alter
  rw [instance?_withCatalog]
  cases h.instance? ref <;> rfl

theorem launchWith_withCatalog (h : Host) (catalog : Dictionary Manifest) (now : Moment)
    (d : Descriptor) (handler : Handler) :
    (h.withCatalog catalog).launchWith now d handler =
      swapCatalog catalog (h.launchWith now d handler) := by
  have runs : (h.withCatalog catalog).isRunning d.applicationId = h.isRunning d.applicationId := rfl
  have options : (h.withCatalog catalog).options = h.options := rfl
  rw [launchWith, launchWith, runs, options]
  split
  · rfl
  · split
    · rfl
    · dsimp only
      split <;> rfl

theorem stop_withCatalog (h : Host) (catalog : Dictionary Manifest) (now : Moment) (id : String) :
    (h.withCatalog catalog).stop now id = swapCatalog catalog (h.stop now id) := by
  simp only [stop, running, running?_withCatalog, retire_withCatalog]
  cases h.running? id <;> rfl

theorem ask_withCatalog {α : Type} (h : Host) (catalog : Dictionary Manifest) (id : String)
    (found : Except RuntimeError Instance) (request : Instance → Except RuntimeError α × Instance) :
    (h.withCatalog catalog).ask id found request = swapCatalog catalog (h.ask id found request) := by
  cases found <;> rfl

theorem receive_withCatalog (h : Host) (catalog : Dictionary Manifest) (stream : SubscriptionRef) :
    (h.withCatalog catalog).receive stream = swapCatalog catalog (h.receive stream) := by
  simp only [receive, instance?_withCatalog]
  cases h.instance? stream.target <;> rfl

theorem findLog_withCatalog (h : Host) (catalog : Dictionary Manifest) (now : Moment) (id : String) :
    (h.withCatalog catalog).findLog now id = swapCatalog catalog (h.findLog now id) := by
  have pruned : ((h.withCatalog catalog).pruneLogs now).recentLogs =
      (h.pruneLogs now).recentLogs := rfl
  have runs : (h.withCatalog catalog).isRunning id = h.isRunning id := rfl
  simp only [findLog, runs, pruned]
  split
  · rfl
  · cases (h.pruneLogs now).recentLogs.find? id <;> rfl

theorem perform_withCatalog (h : Host) (catalog : Dictionary Manifest) (now : Moment)
    (apart : op.usesCatalog = false) :
    (h.withCatalog catalog).perform now op = (h.perform now op).withCatalog catalog := by
  cases op with
  | register _ | launch _ _ => cases apart
  | launchWith d handler => exact congrArg Prod.snd (h.launchWith_withCatalog catalog now d handler)
  | stop id => exact congrArg Prod.snd (h.stop_withCatalog catalog now id)
  | stopAll order => exact h.stopEach_withCatalog catalog now _
  | publishPage _ _ | unpublishPage _ | resolvePage _ | subscribe _ | invoke _ | trigger _
  | emitToPage _ _ | emitToAll _ _ => exact congrArg Prod.snd (h.ask_withCatalog catalog _ _ _)
  | receive stream => exact congrArg Prod.snd (h.receive_withCatalog catalog stream)
  | unsubscribe stream => simp only [perform, unsubscribe_eq_alter, alter_withCatalog]
  | sendToPage _ _ _ | sendToAll _ _ => exact h.alter_withCatalog catalog _ _
  | findLog id => exact congrArg Prod.snd (h.findLog_withCatalog catalog now id)

theorem answer_withCatalog (h : Host) (catalog : Dictionary Manifest) (now : Moment)
    (apart : op.usesCatalog = false) :
    (h.withCatalog catalog).answer now op = h.answer now op := by
  cases op with
  | register _ | launch _ _ => cases apart
  | launchWith d handler =>
    simp only [answer, launchWith_withCatalog, swapCatalog]
  | stop id => simp only [answer, stop_withCatalog, swapCatalog]
  | publishPage _ _ | unpublishPage _ | trigger _ =>
    exact congrArg (fun made => Answer.done made.1) (h.ask_withCatalog catalog _ _ _)
  | resolvePage _ =>
    exact congrArg (fun made => Answer.resolved made.1) (h.ask_withCatalog catalog _ _ _)
  | subscribe _ =>
    exact congrArg (fun made => Answer.subscribed made.1) (h.ask_withCatalog catalog _ _ _)
  | invoke _ =>
    exact congrArg (fun made => Answer.invoked made.1) (h.ask_withCatalog catalog _ _ _)
  | emitToPage _ _ | emitToAll _ _ =>
    exact congrArg (fun made => Answer.reached made.1) (h.ask_withCatalog catalog _ _ _)
  | receive stream => simp only [answer, receive_withCatalog, swapCatalog]
  | findLog id => simp only [answer, findLog_withCatalog, swapCatalog, instance?_withCatalog]
  | stopAll _ | unsubscribe _ | sendToPage _ _ _ | sendToAll _ _ => rfl

/-! ### Runs that differ in the catalog entry of one application -/

/-- Two hosts are the same but for the catalog entry of one application. -/
structure SameButEntry (id : String) (h g : Host) : Prop where
  rest : ∃ catalog, g = h.withCatalog catalog
  others : ∀ other, other ≠ id → h.catalog.find? other = g.catalog.find? other

theorem launch_fails_of_running (catalogued : h.Catalogued) (runs : h.isRunning id = true)
    (now : Moment) (version : Option Instant) : ∃ e, h.launch now id version = (.error e, h) := by
  obtain failed | ⟨m, declared, allowed, -⟩ := h.launch_cases now id version
  · exact failed
  · exact ⟨_, launch_of_running catalogued declared allowed runs now version⟩

theorem sameButEntry_register {m : Manifest} (valid : m.validate = .ok ()) (h : Host)
    (now : Moment) : SameButEntry m.id h (h.perform now (.register m)) where
  rest := by
    rw [perform, register_of_valid valid]
    exact ⟨_, rfl⟩
  others other different := by
    have declares : (Operation.register m).declares? other = none := by
      simp [Operation.declares?, Ne.symm different]
    rw [find?_catalog_perform, declares, Option.none_or]

namespace SameButEntry

theorem running? (same : SameButEntry id h g) (other : String) :
    g.running? other = h.running? other := by
  obtain ⟨catalog, rfl⟩ := same.rest
  exact running?_withCatalog h catalog other

theorem launch_of_other (same : SameButEntry id h g) {other : String} (different : other ≠ id)
    (now : Moment) (version : Option Instant) :
    g.launch now other version = swapCatalog g.catalog (h.launch now other version) := by
  rw [launch, launch, same.others other different]
  obtain ⟨catalog, rfl⟩ := same.rest
  cases (h.withCatalog catalog).catalog.find? other with
  | none => rfl
  | some m =>
    dsimp only
    split
    · exact launchWith_withCatalog h catalog now _ _
    · rfl

theorem answer_eq (same : SameButEntry id h g) (now : Moment)
    (apart : ∀ version, op ≠ .launch id version) : g.answer now op = h.answer now op := by
  cases uses : op.usesCatalog with
  | false =>
    obtain ⟨catalog, rfl⟩ := same.rest
    exact answer_withCatalog h catalog now uses
  | true =>
    cases op with
    | register m =>
      simp only [answer, register]
      cases m.validate <;> rfl
    | launch other version =>
      have different : other ≠ id := by
        rintro rfl
        exact apart version rfl
      simp only [answer, same.launch_of_other different, swapCatalog]
    | _ => cases uses

/-- As long as the application runs, no operation adds to the difference. A launch of it fails in
both hosts, though perhaps for another reason. -/
theorem perform (same : SameButEntry id h g) (catalogued : h.Catalogued)
    (otherCatalogued : g.Catalogued) (runs : h.isRunning id = true) (now : Moment) (op : Operation) :
    SameButEntry id (h.perform now op) (g.perform now op) where
  others other different := by
    rw [find?_catalog_perform, find?_catalog_perform, same.others other different]
  rest := by
    cases uses : op.usesCatalog with
    | false =>
      obtain ⟨catalog, rfl⟩ := same.rest
      exact ⟨catalog, perform_withCatalog h catalog now uses⟩
    | true =>
      cases op with
      | register m =>
        obtain ⟨catalog, rfl⟩ := same.rest
        simp only [Host.perform, register]
        cases m.validate with
        | error e => exact ⟨catalog, rfl⟩
        | ok u => exact ⟨catalog.insert m.id m, rfl⟩
      | launch name version =>
        by_cases here : name = id
        · subst here
          have alsoRuns : g.isRunning name = true := by rwa [isRunning, same.running?]
          obtain ⟨e, fails⟩ := launch_fails_of_running catalogued runs now version
          obtain ⟨e', alsoFails⟩ := launch_fails_of_running otherCatalogued alsoRuns now version
          rw [Host.perform, Host.perform, fails, alsoFails]
          exact same.rest
        · rw [Host.perform, Host.perform, same.launch_of_other here]
          exact ⟨g.catalog, rfl⟩
      | _ => cases uses

theorem run (same : SameButEntry id h g) (catalogued : h.Catalogued)
    (otherCatalogued : g.Catalogued) (runs : h.isRunning id = true)
    {operations : List (Moment × Operation)} (goesOn : ∀ o ∈ operations, o.2.stops id = false) :
    SameButEntry id (h.run operations) (g.run operations) ∧ (h.run operations).isRunning id = true := by
  induction operations generalizing h g with
  | nil => exact ⟨same, runs⟩
  | cons o rest ih =>
    obtain ⟨first, later⟩ := List.forall_mem_cons.1 goesOn
    exact ih (same.perform catalogued otherCatalogued runs o.1 o.2)
      (catalogued_perform catalogued o.1 o.2) (catalogued_perform otherCatalogued o.1 o.2)
      (isSome_running?_of_not_stops runs o.1 first) later

end SameButEntry

/-! ### The next launch -/

theorem handler_of_starts {d : Descriptor} {handler : Handler} {i : Instance}
    (starts : h.Starts now d handler i) : i.handler = handler :=
  Instance.holds_publishPages (p := fun i => i.handler = handler) starts rfl fun _ _ same => same

theorem perform_launch {after : Host} {version : Option Instant}
    (launched : h.launch now id version = (.ok (), after)) :
    h.perform now (.launch id version) = after := by
  rw [perform, launched]

/-- What a launch of the application starts where nothing was ever registered but one manifest. -/
def launchedAlone (options : HostOptions) (m : Manifest) (now : Moment) (version : Option Instant) :
    Option Instance :=
  (((new options).perform now (.register m)).perform now (.launch m.id version)).running? m.id

theorem launch_alone (catalogued : h.Catalogued) {m : Manifest}
    (declared : h.catalog.find? m.id = some m) (allowed : m.allowLaunching = true)
    (stopped : h.running? m.id = none) (now : Moment) (version : Option Instant) :
    ∃ after i, h.launch now m.id version = (.ok (), after) ∧ after.running? m.id = some i ∧
      launchedAlone h.options m now version = some i ∧ i.pages.list = m.pageList ∧
      i.version = (version <|> m.version) ∧ i.handler = m.handler := by
  have valid := (catalogued m.id m declared).2
  obtain ⟨i, starts, launched⟩ := launch_of_stopped catalogued declared allowed stopped now version
  refine ⟨_, i, launched, ?_, ?_, pages_of_starts starts, version_of_starts starts,
    handler_of_starts starts⟩
  · exact (running?_setRunning h m.id i m.id).trans (if_pos rfl)
  · have fresh := find?_catalog_register valid (new h.options) now
    have none : ((new h.options).perform now (.register m)).running? m.id = none :=
      running?_congr (application_perform_of_none (new h.options) now rfl rfl m.id)
    obtain ⟨j, alone, launched⟩ := launch_of_stopped
      (catalogued_perform (catalogued_new h.options) now _) fresh allowed none now version
    have same : i = j := by
      unfold Starts at starts alone
      rw [options_perform] at alone
      exact congrArg Prod.snd (starts.symm.trans alone)
    rw [launchedAlone, perform_launch launched, same]
    exact (running?_setRunning _ m.id j m.id).trans (if_pos rfl)

/-- A valid manifest that is registered for an application while it runs is not noticed there. Until
the application is stopped, all that is asked of the host is answered as without the registration,
and the host is the same but for its catalog; only a launch of the application itself, which fails as
long as it runs, may be refused for another reason. Once it does not run any more, it is launched by
the manifest that was registered last and starts as where no other was ever registered. -/
theorem registering_while_running (options : HostOptions) (before : List (Moment × Operation))
    (now : Moment) (m : Manifest) :
    let h := (new options).run before
    let again := h.perform now (.register m)
    m.validate = .ok () → h.isRunning m.id = true →
    h.answer now (.register m) = .done (.ok ()) ∧
    (∀ later, (∀ o ∈ later, o.2.stops m.id = false) →
      (∃ catalog, again.run later = { h.run later with catalog }) ∧
      (∀ time op, (∀ version, op ≠ .launch m.id version) →
        (again.run later).answer time op = (h.run later).answer time op) ∧
      ∀ time version,
        (∃ e, (again.run later).launch time m.id version = (.error e, again.run later)) ∧
          ∃ e, (h.run later).launch time m.id version = (.error e, h.run later)) ∧
    ∀ later,
      let last := again.run later
      let latest := (latest? m.id later).getD m
      last.running? m.id = none → ∀ time version,
        if latest.allowLaunching = false then
          last.launch time m.id version = (.error (.applicationNotEnabled m.id), last)
        else
          ∃ after i, last.launch time m.id version = (.ok (), after) ∧ after.running? m.id = some i ∧
            launchedAlone options latest time version = some i ∧ i.pages.list = latest.pageList ∧
            i.version = (version <|> latest.version) ∧ i.handler = latest.handler := by
  intro h again valid runs
  have catalogued : h.Catalogued := catalogued_run (catalogued_new options) before
  have otherCatalogued : again.Catalogued := catalogued_perform catalogued now _
  have same : SameButEntry m.id h again := sameButEntry_register valid h now
  refine ⟨?_, fun later goesOn => ?_, fun later => ?_⟩
  · rw [answer, register_of_valid valid]
  · obtain ⟨same, runs⟩ := same.run catalogued otherCatalogued runs goesOn
    refine ⟨same.rest, fun time op apart => same.answer_eq time apart, fun time version => ⟨?_, ?_⟩⟩
    · exact launch_fails_of_running (catalogued_run otherCatalogued later)
        (by rwa [isRunning, same.running?]) time version
    · exact launch_fails_of_running (catalogued_run catalogued later) runs time version
  · intro last latest stopped time version
    have catalogued : last.Catalogued := catalogued_run otherCatalogued later
    have declared : last.catalog.find? m.id = some latest := by
      have entry : again.catalog.find? m.id = some m := find?_catalog_register valid h now
      rw [find?_catalog_run, entry, Option.or_some]
    have own : latest.id = m.id := (catalogued _ _ declared).1
    split
    · rename_i forbidden
      rw [launch, declared]
      simp [forbidden]
    · rename_i allowed
      have options : last.options = options := by
        have later : (again.run later).options = again.options := options_run again later
        rw [later, options_perform, options_run]
        rfl
      have launched := launch_alone catalogued (own.symm ▸ declared) (by simpa using allowed)
        (own.symm ▸ stopped) time version
      rwa [own, options] at launched

/-- The page goes on being served from the file of the first manifest. After the stop the second one
forbids a launch, and the third one is launched. -/
theorem registering_while_running_withdrawn :
    let page (file : String) : Dictionary PageSpec := Dictionary.empty.insert "p" ⟨file, "P"⟩
    let first : Manifest := ⟨"a", true, false, none, page "first.html", .empty, .empty⟩
    let withdrawn : Manifest := ⟨"a", false, false, none, page "second.html", .empty, .empty⟩
    let renewed : Manifest := ⟨"a", true, false, none, page "third.html", .empty, .empty⟩
    let now : Moment := ⟨⟨0, 0, by decide⟩, 0⟩
    let h := (new .default).run [(now, .register first), (now, .launch "a" none)]
    let again := h.perform now (.register withdrawn)
    let later : List (Moment × Operation) := [(now, .launch "a" none), (now, .subscribe ⟨"a", "p"⟩)]
    withdrawn.validate = .ok () ∧ h.isRunning "a" = true ∧
      (again.run later).answer now (.resolvePage ⟨"a", "p"⟩) =
        .resolved (.ok ⟨"first.html", "P", none⟩) ∧
      (let last := again.run [(now, .stop "a")]
       last.launch now "a" none = (.error (.applicationNotEnabled "a"), last)) ∧
      ∃ after i, (again.run [(now, .stop "a"), (now, .register renewed)]).launch now "a" none =
        (.ok (), after) ∧ after.running? "a" = some i ∧ i.pages.list = [⟨"p", "third.html", "P"⟩] := by
  intro page first withdrawn renewed now h again later
  have valid : withdrawn.validate = .ok () := by rfl
  have runs : h.isRunning "a" = true := by decide +kernel
  obtain ⟨-, unnoticed, launched⟩ := registering_while_running .default
    [(now, .register first), (now, .launch "a" none)] now withdrawn valid runs
  have resolved := (unnoticed later (by simp [later, Operation.stops])).2.1 now
    (.resolvePage ⟨"a", "p"⟩) (fun _ => by simp)
  have stopped : ((again.run [(now, .stop "a")]).running? "a").isNone = true := by decide +kernel
  have renews : ((again.run [(now, .stop "a"), (now, .register renewed)]).running? "a").isNone =
      true := by decide +kernel
  refine ⟨valid, runs, resolved.trans (by decide +kernel), ?_, ?_⟩
  · exact launched [(now, .stop "a")] (Option.isNone_iff_eq_none.1 stopped) now none
  · obtain ⟨after, i, done, running, -, pages, -⟩ :=
      launched [(now, .stop "a"), (now, .register renewed)] (Option.isNone_iff_eq_none.1 renews) now
        none
    exact ⟨after, i, done, running, pages⟩

end Host
end AppHost
