import AppHost.Proofs.Host.Announcements
import AppHost.Proofs.Host.Answers
import AppHost.Proofs.Host.Catalog
import AppHost.Proofs.Host.RecentLogs

/-!
One application in two hosts. They may differ in all that concerns other applications, and one of
them may have had instances of the application before the other began. What is asked of the
application is answered by both alike and leaves them alike to it, but that the numbers of instances
differ by how many there were before.

The one place where applications meet is the logs of those that were stopped: any stop, and any
search for a log, throws away the old ones of all. But a log that is too old when it is thrown away
will not be found later either. While an application runs nobody asks for the log of an earlier
instance, and when it stops that log is replaced.
-/

set_option autoImplicit false
namespace AppHost

/-! ### The numbers of instances -/

/-- The number of an instance where so many earlier ones are not counted. -/
def InstanceRef.since (n : Nat) (ref : InstanceRef) : InstanceRef :=
  { ref with launch := ref.launch - n }

def InstanceRef.shift (n : Nat) (ref : InstanceRef) : InstanceRef :=
  { ref with launch := ref.launch + n }

theorem InstanceRef.since_shift (n : Nat) (ref : InstanceRef) : (ref.shift n).since n = ref := by
  simp [since, shift]

def Addressee.since (n : Nat) : Addressee → Addressee
  | .running id => .running id
  | .known ref => .known (ref.since n)

def RecentLog.shift (n : Nat) (log : RecentLog) : RecentLog := { log with launch := log.launch + n }

def SubscriptionRef.since (n : Nat) (stream : SubscriptionRef) : SubscriptionRef :=
  { stream with target := stream.target.since n }

def SubscriptionRef.shift (n : Nat) (stream : SubscriptionRef) : SubscriptionRef :=
  { stream with target := stream.target.shift n }

namespace Answer

def shift (n : Nat) : Answer → Answer
  | .subscribed result => .subscribed (result.map (·.shift n))
  | .logged result => .logged (result.map fun found => (found.1.shift n, found.2))
  | answer => answer

@[simp] theorem shift_zero (answer : Answer) : answer.shift 0 = answer := by
  cases answer with
  | subscribed result => cases result <;> rfl
  | logged result => cases result <;> rfl
  | _ => rfl

end Answer

namespace Operation

def mayConcern (id : String) (op : Operation) : Bool := op.application?.all (· = id)

def instance? : Operation → Option InstanceRef
  | .receive stream => some stream.target
  | .unsubscribe stream => some stream.target
  | .sendToPage source _ _ => some source
  | .sendToAll source _ => some source
  | _ => none

/-- Neither is addressed to another application nor names one of the first instances of this one. -/
def mayConcernSince (id : String) (n : Nat) (op : Operation) : Bool :=
  op.mayConcern id && op.instance?.all (n ≤ ·.launch)

/-- The same operation where so many earlier instances are not counted. -/
def since (n : Nat) : Operation → Operation
  | .receive stream => .receive (stream.since n)
  | .unsubscribe stream => .unsubscribe (stream.since n)
  | .sendToPage source page event => .sendToPage (source.since n) page event
  | .sendToAll source event => .sendToAll (source.since n) event
  | op => op

variable {id : String} {n : Nat} {op : Operation}

@[simp] theorem since_zero (op : Operation) : op.since 0 = op := by
  cases op <;> rfl

@[simp] theorem mayConcernSince_zero (id : String) (op : Operation) :
    op.mayConcernSince id 0 = op.mayConcern id := by
  cases named : op.instance? <;> simp [mayConcernSince, named]

@[simp] theorem application?_since (n : Nat) (op : Operation) :
    (op.since n).application? = op.application? := by
  cases op <;> rfl

@[simp] theorem declares?_since (id : String) (n : Nat) (op : Operation) :
    (op.since n).declares? id = op.declares? id := by
  cases op <;> rfl

@[simp] theorem stops_since (id : String) (n : Nat) (op : Operation) :
    (op.since n).stops id = op.stops id := by
  cases op <;> rfl

@[simp] theorem perform_since (i : Instance) (now : Moment) (n : Nat) (op : Operation) :
    i.perform now (op.since n) = i.perform now op := by
  cases op <;> rfl

theorem other_of_not_mayConcern (apart : op.mayConcern id = false) :
    ∃ other, op.application? = some other ∧ other ≠ id := by
  unfold mayConcern at apart
  cases meant : op.application? with
  | none =>
    rw [meant] at apart
    cases apart
  | some other =>
    rw [meant] at apart
    exact ⟨other, rfl, of_decide_eq_false apart⟩

theorem addressee?_eq_known_iff {ref : InstanceRef} :
    op.addressee? = some (.known ref) ↔ op.instance? = some ref := by
  cases op <;> simp [addressee?, instance?]

theorem application?_of_instance? {ref : InstanceRef} (named : op.instance? = some ref) :
    op.application? = some ref.applicationId := by
  cases op with
  | receive _ | unsubscribe _ | sendToPage _ _ _ | sendToAll _ _ =>
    cases named
    rfl
  | _ => cases named

theorem addressee?_since (n : Nat) {addressee : Addressee}
    (addressed : op.addressee? = some addressee) :
    (op.since n).addressee? = some (addressee.since n) := by
  cases op with
  | receive _ | unsubscribe _ | sendToPage _ _ _ | sendToAll _ _ =>
    cases addressed
    rfl
  | _ =>
    cases addressee with
    | running _ => exact addressed
    | known ref => simp [addressee?] at addressed

end Operation

/-! ### Applications without their first instances -/

namespace Application
variable {a : Application} {n launch : Nat}

def since (n : Nat) (a : Application) : Application := { a with retired := a.retired.drop n }

theorem instance?_since (within : n ≤ a.retired.length) (launch : Nat) :
    (a.since n).instance? launch = a.instance? (n + launch) := by
  rw [instance?, instance?, ← List.getElem?_drop, instances, instances, since,
    List.drop_append_of_le_length within]

theorem length_since (n : Nat) (a : Application) :
    (a.since n).retired.length = a.retired.length - n :=
  List.length_drop

theorem length_set (a : Application) (launch : Nat) (i : Instance) :
    (a.set launch i).retired.length = a.retired.length := by
  unfold set
  split
  · exact List.length_set
  · split <;> rfl

theorem length_alter (a : Application) (launch : Nat) (change : Instance → Instance) :
    (a.alter launch change).retired.length = a.retired.length := by
  unfold alter
  split
  · exact a.length_set launch _
  · rfl

theorem since_set (within : n ≤ a.retired.length) (counted : n ≤ launch) (i : Instance) :
    (a.set launch i).since n = (a.since n).set (launch - n) i := by
  unfold set
  rw [length_since]
  rcases Nat.lt_trichotomy launch a.retired.length with before | last | after
  · have earlier : launch - n < a.retired.length - n := by omega
    rw [if_pos before, if_pos earlier, since, List.drop_set, if_neg (Nat.not_lt.2 counted)]
    rfl
  · subst last
    simp only [Nat.lt_irrefl, if_true, if_false]
    rfl
  · have later : ¬launch - n < a.retired.length - n := by omega
    have other : launch - n ≠ a.retired.length - n := by omega
    rw [if_neg (Nat.lt_asymm after), if_neg (Nat.ne_of_gt after), if_neg later, if_neg other]

theorem since_alter (within : n ≤ a.retired.length) (counted : n ≤ launch)
    (change : Instance → Instance) :
    (a.alter launch change).since n = (a.since n).alter (launch - n) change := by
  have same : (a.since n).instance? (launch - n) = a.instance? launch := by
    rw [instance?_since within, Nat.add_sub_cancel' counted]
  unfold alter
  rw [same]
  cases a.instance? launch with
  | none => rfl
  | some i => exact since_set within counted _

theorem since_alter_of_lt (within : n ≤ a.retired.length) (earlier : launch < n)
    (change : Instance → Instance) : (a.alter launch change).since n = a.since n := by
  unfold alter
  cases a.instance? launch with
  | none => rfl
  | some i =>
    have before : launch < a.retired.length := by omega
    dsimp only
    rw [set, if_pos before, since, List.drop_set_of_lt earlier]
    rfl

theorem since_retire (within : n ≤ a.retired.length) (time : Calendar.Instant) :
    (a.retire time).since n = (a.since n).retire time := by
  unfold retire
  rw [show (a.since n).current = a.current from rfl]
  cases a.current with
  | none => rfl
  | some i => simp [since, List.drop_append_of_le_length within]

theorem length_retire_le (a : Application) (time : Calendar.Instant) :
    a.retired.length ≤ (a.retire time).retired.length := by
  unfold retire
  split
  · simp
  · exact Nat.le_refl _

end Application

namespace Host
variable {h g : Host} {now : Moment} {op : Operation} {id : String} {n elapsed : Nat}

/-- Two hosts agree on an application, but for its first instances in one of them. -/
structure AgreeSince (id : String) (n : Nat) (h g : Host) : Prop where
  options : h.options = g.options
  manifest : h.catalog.find? id = g.catalog.find? id
  within : n ≤ (h.application id).retired.length
  application : (h.application id).since n = g.application id

/-- They will find the same log of it as well, however much time goes by from now on. -/
structure SameSince (id : String) (n elapsed : Nat) (h g : Host) : Prop
    extends AgreeSince id n h g where
  kept : h.running? id = none → ∀ later, elapsed ≤ later →
    h.keptLog later id = (g.keptLog later id).map (·.shift n)

namespace AgreeSince

theorem running? (agree : AgreeSince id n h g) : h.running? id = g.running? id := by
  rw [Host.running?, Host.running?, ← agree.application]
  rfl

theorem length (agree : AgreeSince id n h g) :
    (h.application id).retired.length = (g.application id).retired.length + n := by
  have within := agree.within
  rw [← agree.application, Application.length_since]
  omega

theorem running (agree : AgreeSince id n h g) : h.running id = g.running id := by
  rw [Host.running, Host.running, agree.running?]

theorem runningPage {page : PageRef} (agree : AgreeSince page.applicationId n h g) :
    h.runningPage page = g.runningPage page := by
  rw [Host.runningPage, Host.runningPage, agree.running?]

theorem pageTarget {page : PageRef} (agree : AgreeSince page.applicationId n h g) :
    h.pageTarget page = g.pageTarget page := by
  rw [Host.pageTarget, Host.pageTarget, agree.runningPage]

theorem runningRef (agree : AgreeSince id n h g) : h.runningRef id = (g.runningRef id).shift n := by
  rw [Host.runningRef, Host.runningRef, agree.length]
  rfl

theorem instance? (agree : AgreeSince id n h g) {ref : InstanceRef} (here : ref.applicationId = id)
    (counted : n ≤ ref.launch) : h.instance? ref = g.instance? (ref.since n) := by
  subst here
  have same := Application.instance?_since agree.within (ref.launch - n)
  rw [agree.application, Nat.add_sub_cancel' counted] at same
  exact same.symm

theorem instance?_shift (agree : AgreeSince id n h g) {ref : InstanceRef}
    (here : ref.applicationId = id) : h.instance? (ref.shift n) = g.instance? ref := by
  have same := agree.instance? (show (ref.shift n).applicationId = id from here)
    (Nat.le_add_left _ _)
  rwa [InstanceRef.since_shift] at same

end AgreeSince

theorem SameSince.refl (id : String) (elapsed : Nat) (h : Host) : SameSince id 0 elapsed h h where
  options := rfl
  manifest := rfl
  within := Nat.zero_le _
  application := rfl
  kept _ later _ := by
    cases h.keptLog later id <;> rfl

theorem SameSince.later (same : SameSince id n elapsed h g) {other : Nat} (after : elapsed ≤ other) :
    SameSince id n other h g :=
  { same with
    kept := fun stopped later beyond => same.kept stopped later (Nat.le_trans after beyond) }

/-! ### Operations that do not concern the application -/

theorem ref_applicationId {addressee : Addressee} (addressed : op.addressee? = some addressee)
    (meant : op.application? = some id) (h : Host) : (addressee.ref h).applicationId = id := by
  cases op with
  | publishPage _ _ | unpublishPage _ | receive _ | unsubscribe _ | emitToAll _ _
    | sendToPage _ _ _ | sendToAll _ _ =>
    cases addressed
    cases meant
    rfl
  | subscribe page | emitToPage page _ | trigger t =>
    simp only [Operation.addressee?] at addressed
    split at addressed
    · cases addressed
      cases meant
      rfl
    · cases addressed
  | invoke call =>
    simp only [Operation.addressee?] at addressed
    split at addressed
    · cases addressed
    · cases addressed
      cases meant
      rfl
  | _ => cases addressed

theorem application_perform_of_other (catalogued : h.Catalogued) {other : String}
    (meant : op.application? = some other) (different : other ≠ id) :
    (h.perform now op).application id = h.application id := by
  cases h.outcome now op with
  | refused same nothing => rw [same]
  | registered asked valid after nothing =>
    rw [after]
    rfl
  | @launched d handler i asked stopped starts after made =>
    have here : d.applicationId = other := by
      cases asked with
      | launch declared =>
        cases meant
        exact (catalogued _ _ declared).1
      | launchWith =>
        cases meant
        rfl
    rw [after]
    refine (application_setRunning h d.applicationId i id).trans (if_neg ?_)
    rwa [here]
  | stopped asked runs after made =>
    subst asked
    cases meant
    exact (application_perform_stop h now _ id).trans (if_neg different)
  | allStopped asked =>
    subst asked
    cases meant
  | within isLocal after logs =>
    cases addressed : op.addressee? with
    | none =>
      exact application_perform_of_none h now (op.leavesPages_of_isLocal isLocal addressed) addressed id
    | some addressee =>
      rw [application_perform h now addressed, application_alter, if_neg]
      rwa [ref_applicationId addressed meant]

theorem declares?_of_other {other : String} (meant : op.application? = some other)
    (different : other ≠ id) : op.declares? id = none := by
  cases op with
  | register m =>
    cases meant
    simp [Operation.declares?, different]
  | _ => rfl

theorem stops_of_other {other : String} (meant : op.application? = some other)
    (different : other ≠ id) : op.stops id = false := by
  cases op with
  | stop _ =>
    cases meant
    simpa [Operation.stops] using different
  | stopAll _ => cases meant
  | _ => rfl

theorem SameSince.perform_of_other (same : SameSince id n now.elapsed h g)
    (catalogued : h.Catalogued) {other : String} (meant : op.application? = some other)
    (different : other ≠ id) : SameSince id n now.elapsed (h.perform now op) g := by
  have application : (h.perform now op).application id = h.application id :=
    application_perform_of_other catalogued meant different
  refine ⟨⟨?_, ?_, ?_, ?_⟩, fun stopped later after => ?_⟩
  · rw [options_perform, same.options]
  · rw [find?_catalog_perform, declares?_of_other meant different, Option.none_or, same.manifest]
  · rw [application]
    exact same.within
  · rw [application, same.application]
  · rw [keptLog_perform h after op id, stops_of_other meant different]
    exact same.kept ((running?_congr application).symm.trans stopped) later after

theorem SameSince.perform_of_earlier (same : SameSince id n now.elapsed h g) {ref : InstanceRef}
    (named : op.instance? = some ref) (here : ref.applicationId = id) (earlier : ref.launch < n) :
    SameSince id n now.elapsed (h.perform now op) g := by
  subst here
  have addressed := Operation.addressee?_eq_known_iff.2 named
  have application : (h.perform now op).application ref.applicationId =
      (h.application ref.applicationId).alter ref.launch (·.perform now op) := by
    rw [application_perform h now addressed, application_alter, Addressee.ref, if_pos rfl]
  have declares : op.declares? ref.applicationId = none := by
    cases op <;> first | rfl | cases named
  have stops : op.stops ref.applicationId = false := by
    cases op <;> first | rfl | cases named
  refine ⟨⟨?_, ?_, ?_, ?_⟩, fun stopped later after => ?_⟩
  · rw [options_perform, same.options]
  · rw [find?_catalog_perform, declares, Option.none_or, same.manifest]
  · rw [application, Application.length_alter]
    exact same.within
  · rw [application, Application.since_alter_of_lt same.within earlier, same.application]
  · have stopped : h.running? ref.applicationId = none := by
      have distinct : ref.launch ≠ (h.application ref.applicationId).retired.length :=
        Nat.ne_of_lt (Nat.lt_of_lt_of_le earlier same.within)
      rw [Host.running?, application, Application.current_alter, if_neg distinct] at stopped
      exact stopped
    rw [keptLog_perform h after op _, stops]
    exact same.kept stopped later after

/-! ### Operations that concern the application -/

def LeavesAlike (id : String) (n : Nat) (after other : Host) : Prop :=
  n ≤ (after.application id).retired.length ∧ (after.application id).since n = other.application id

/-- Two attempts are answered alike and leave the same of an application. -/
structure EndsAlike (id : String) (n : Nat) (x y : Except RuntimeError Unit × Host) : Prop where
  answer : x.1 = y.1
  leaves : LeavesAlike id n x.2 y.2

namespace AgreeSince
variable {after other : Host}

theorem leavesAlike_self (agree : AgreeSince id n h g)
    (unchanged : after.application id = h.application id)
    (alike : other.application id = g.application id) : LeavesAlike id n after other := by
  rw [LeavesAlike, unchanged, alike]
  exact ⟨agree.within, agree.application⟩

theorem leavesAlike_start (agree : AgreeSince id n h g) {i : Instance}
    (started : after.application id = (h.application id).start i)
    (alike : other.application id = (g.application id).start i) : LeavesAlike id n after other := by
  rw [LeavesAlike, started, alike, ← agree.application]
  exact ⟨agree.within, rfl⟩

theorem leavesAlike_retire (agree : AgreeSince id n h g)
    (stopped : after.application id = (h.application id).retire now.date)
    (alike : other.application id = (g.application id).retire now.date) :
    LeavesAlike id n after other := by
  rw [LeavesAlike, stopped, alike, Application.since_retire agree.within, agree.application]
  exact ⟨Nat.le_trans agree.within (Application.length_retire_le _ _), rfl⟩

theorem leavesAlike_alter (agree : AgreeSince id n h g) {launch : Nat}
    (counted : n ≤ launch) {change : Instance → Instance}
    (altered : after.application id = (h.application id).alter launch change)
    (alike : other.application id = (g.application id).alter (launch - n) change) :
    LeavesAlike id n after other := by
  rw [LeavesAlike, altered, alike, Application.since_alter agree.within counted, agree.application,
    Application.length_alter]
  exact ⟨agree.within, rfl⟩

theorem launchWith_endsAlike (agree : AgreeSince id n h g) {d : Descriptor}
    (here : d.applicationId = id) (now : Moment) (handler : Handler) :
    EndsAlike id n (h.launchWith now d handler) (g.launchWith now d handler) := by
  subst here
  have refused (e : RuntimeError) : EndsAlike d.applicationId n (.error e, h) (.error e, g) :=
    ⟨rfl, agree.leavesAlike_self rfl rfl⟩
  rw [launchWith, launchWith, isRunning, isRunning, agree.running?, agree.options]
  split
  · exact refused _
  · split
    · exact refused _
    · dsimp only
      split
      · exact refused _
      · rename_i i served
        exact ⟨rfl, agree.leavesAlike_start
          ((application_setRunning h d.applicationId i _).trans (if_pos rfl))
          ((application_setRunning g d.applicationId i _).trans (if_pos rfl))⟩

theorem launch_endsAlike (agree : AgreeSince id n h g) (catalogued : h.Catalogued) (now : Moment)
    (version : Option Calendar.Instant) :
    EndsAlike id n (h.launch now id version) (g.launch now id version) := by
  have refused (e : RuntimeError) : EndsAlike id n (.error e, h) (.error e, g) :=
    ⟨rfl, agree.leavesAlike_self rfl rfl⟩
  rw [launch, launch, agree.manifest]
  cases found : g.catalog.find? id with
  | none => exact refused _
  | some m =>
    have own : m.id = id := (catalogued id m (agree.manifest.trans found)).1
    dsimp only
    split
    · exact agree.launchWith_endsAlike own now m.handler
    · exact refused _

theorem leavesAlike_perform (agree : AgreeSince id n h g) (catalogued : h.Catalogued)
    (concerns : op.mayConcernSince id n = true) :
    LeavesAlike id n (h.perform now op) (g.perform now (op.since n)) := by
  obtain ⟨concerns, counted⟩ := Bool.and_eq_true_iff.1 concerns
  cases meant : op.application? with
  | none =>
    cases op with
    | stopAll order =>
      exact agree.leavesAlike_retire (application_stopAll h now order id)
        (application_stopAll g now order id)
    | _ => cases meant
  | some other =>
    have own : other = id := by simpa [Operation.mayConcern, meant] using concerns
    subst own
    cases addressed : op.addressee? with
    | some addressee =>
      have here := ref_applicationId addressed meant h
      have there : ((addressee.since n).ref g).applicationId = other :=
        ref_applicationId (Operation.addressee?_since n addressed)
          ((op.application?_since n).trans meant) g
      have altered := Host.application_perform h now addressed other
      have alike := Host.application_perform g now (Operation.addressee?_since n addressed) other
      rw [application_alter, if_pos here] at altered
      cases addressee with
      | running name =>
        cases here
        rw [application_alter, if_pos there] at alike
        simp only [Operation.perform_since] at alike
        refine agree.leavesAlike_alter agree.within altered ?_
        rw [agree.length, Nat.add_sub_cancel]
        exact alike
      | known ref =>
        have counted : n ≤ ref.launch := by
          simpa [Operation.addressee?_eq_known_iff.1 addressed] using counted
        rw [application_alter, if_pos there] at alike
        simp only [Operation.perform_since] at alike
        exact agree.leavesAlike_alter counted altered alike
    | none =>
      cases op with
      | launch _ version =>
        cases meant
        exact (agree.launch_endsAlike catalogued now version).leaves
      | launchWith d handler =>
        cases meant
        exact (agree.launchWith_endsAlike rfl now handler).leaves
      | stop _ =>
        cases meant
        exact agree.leavesAlike_retire
          ((application_perform_stop h now other other).trans (if_pos rfl))
          ((application_perform_stop g now other other).trans (if_pos rfl))
      | stopAll _ => cases meant
      | publishPage _ _ | unpublishPage _ | receive _ | unsubscribe _ | sendToPage _ _ _
        | sendToAll _ _ => cases addressed
      | _ =>
        exact agree.leavesAlike_self (application_perform_of_none h now rfl addressed other)
          (application_perform_of_none g now rfl addressed other)

end AgreeSince

theorem isSome_running?_of_not_stops (runs : (h.running? id).isSome) (now : Moment)
    (goesOn : op.stops id = false) : ((h.perform now op).running? id).isSome := by
  by_cases elsewhere : id ∈ h.concerned op
  · cases h.outcome now op with
    | refused same nothing => rwa [same]
    | registered asked valid after nothing => rwa [after]
    | launched asked stopped starts after made =>
      rw [concerned_of_asks asked, List.mem_singleton] at elsewhere
      rw [elsewhere, stopped] at runs
      cases runs
    | stopped asked here after made =>
      subst asked
      rw [concerned, List.mem_singleton] at elsewhere
      simp [Operation.stops, elsewhere] at goesOn
    | allStopped asked =>
      subst asked
      cases goesOn
    | within isLocal after logs =>
      have same := (h.turn now op id).identity_of_changesPages (changesPages_of_isLocal isLocal)
      simpa [runs] using congrArg Option.isSome same
  · rwa [isSome_running?_perform h now elsewhere]

theorem SameSince.keptLogOfStop (same : SameSince id n elapsed h g) {later : Nat}
    (after : elapsed ≤ later) :
    h.keptLogOfStop now later id = (g.keptLogOfStop now later id).map (·.shift n) := by
  unfold Host.keptLogOfStop isRunning
  rw [same.running?, same.options, same.length]
  cases runs : g.running? id with
  | none => exact same.kept (same.running?.trans runs) later after
  | some i =>
    simp only [Option.isSome_some, if_true, Option.filter]
    split <;> rfl

theorem AgreeSince.perform (agree : AgreeSince id n h g) (catalogued : h.Catalogued) (now : Moment)
    (concerns : op.mayConcernSince id n = true) :
    AgreeSince id n (h.perform now op) (g.perform now (op.since n)) := by
  obtain ⟨within, application⟩ := agree.leavesAlike_perform catalogued concerns
  refine ⟨?_, ?_, within, application⟩
  · rw [options_perform, options_perform, agree.options]
  · rw [find?_catalog_perform, find?_catalog_perform, agree.manifest, Operation.declares?_since]

theorem SameSince.perform (same : SameSince id n now.elapsed h g) (catalogued : h.Catalogued)
    (concerns : op.mayConcernSince id n = true) :
    SameSince id n now.elapsed (h.perform now op) (g.perform now (op.since n)) where
  toAgreeSince := same.toAgreeSince.perform catalogued now concerns
  kept stopped later after := by
    rw [keptLog_perform h after, keptLog_perform g after, Operation.stops_since]
    cases stops : op.stops id with
    | true => exact same.keptLogOfStop after
    | false =>
      have before : h.running? id = none := by
        cases runs : h.running? id with
        | none => rfl
        | some i =>
          have goesOn := isSome_running?_of_not_stops (by rw [runs]; rfl) now stops
          rw [stopped] at goesOn
          cases goesOn
      exact same.kept before later after

theorem SameSince.findLog (same : SameSince id n now.elapsed h g) :
    (h.findLog now id).1 = (g.findLog now id).1.map (·.shift n) := by
  rw [findLog_eq, findLog_eq, isRunning, isRunning, same.running?]
  cases runs : g.running? id with
  | some i => exact congrArg Except.ok same.runningRef
  | none =>
    rw [same.kept (same.running?.trans runs) now.elapsed (Nat.le_refl _)]
    cases g.keptLog now.elapsed id <;> rfl

theorem ask_answer {α : Type} {found other : Except RuntimeError Instance} (same : found = other)
    (request : Instance → Except RuntimeError α × Instance) :
    (h.ask id found request).1 = (g.ask id other request).1 := by
  subst same
  cases found <;> rfl

theorem AgreeSince.subscribe (agree : AgreeSince id n h g) {page : PageRef}
    (here : page.applicationId = id) :
    (h.subscribe page).1 = (g.subscribe page).1.map (·.shift n) := by
  subst here
  rw [Host.subscribe, Host.subscribe, agree.pageTarget, agree.runningRef]
  cases g.pageTarget page with
  | error e => rfl
  | ok i =>
    dsimp only [ask]
    cases (i.subscribe page.pageId).1 <;> rfl

theorem SameSince.answer_eq (same : SameSince id n now.elapsed h g) (catalogued : h.Catalogued)
    (meant : op.application? = some id) (concerns : op.mayConcernSince id n = true) :
    h.answer now op = (g.answer now (op.since n)).shift n := by
  have counted := (Bool.and_eq_true_iff.1 concerns).2
  cases op with
  | register m =>
    simp only [answer, Operation.since, Answer.shift, register]
    cases m.validate <;> rfl
  | launch _ version =>
    cases meant
    exact congrArg Answer.done (same.launch_endsAlike catalogued now version).answer
  | launchWith d handler =>
    cases meant
    exact congrArg Answer.done (same.launchWith_endsAlike rfl now handler).answer
  | stop _ =>
    cases meant
    simp only [answer, Operation.since, Answer.shift, stop, same.running]
    cases g.running id <;> rfl
  | stopAll _ => cases meant
  | publishPage _ page =>
    cases meant
    exact congrArg Answer.done (ask_answer same.running _)
  | unpublishPage page =>
    cases meant
    exact congrArg Answer.done (ask_answer same.running _)
  | resolvePage page =>
    cases meant
    exact congrArg Answer.resolved (ask_answer same.pageTarget _)
  | subscribe page =>
    cases meant
    exact congrArg Answer.subscribed (same.subscribe rfl)
  | receive stream =>
    cases meant
    have present := same.instance? rfl (of_decide_eq_true counted)
    simp only [answer, Operation.since, Answer.shift, SubscriptionRef.since, receive, present]
    cases g.instance? (stream.target.since n) <;> rfl
  | unsubscribe stream => rfl
  | invoke call =>
    cases meant
    have target : h.callTarget call = g.callTarget call := by
      simp only [callTarget, same.running]
    exact congrArg Answer.invoked (ask_answer target _)
  | trigger t =>
    cases meant
    have target : h.triggerTarget t = g.triggerTarget t := by
      simp only [triggerTarget, (show h.runningPage t.page = g.runningPage t.page from same.runningPage)]
    exact congrArg Answer.done (ask_answer target _)
  | emitToPage page event =>
    cases meant
    exact congrArg Answer.reached (ask_answer same.pageTarget _)
  | emitToAll _ event =>
    cases meant
    exact congrArg Answer.reached (ask_answer same.running _)
  | sendToPage source page event | sendToAll source event =>
    cases meant
    have present := same.instance? rfl (of_decide_eq_true counted)
    simp only [answer, Operation.since, Answer.shift, present]
  | findLog _ =>
    cases meant
    simp only [answer, Operation.since, Answer.shift, same.findLog]
    cases answered : (g.findLog now id).1 with
    | error e => rfl
    | ok ref =>
      have present := same.instance?_shift (applicationId_of_findLog answered)
      simp only [Except.map, present]

/-! ### Runs -/

/-- What of a run may concern an application, where its first instances are neither named nor
counted. -/
def sinceLaunch (id : String) (n : Nat) (operations : List (Moment × Operation)) :
    List (Moment × Operation) :=
  (operations.filter fun o => o.2.mayConcernSince id n).map fun o => (o.1, o.2.since n)

/-- The answers that a run gives to the operations addressed to one application which do not name
one of its first instances. -/
def answersSince (h : Host) (id : String) (n : Nat) : List (Moment × Operation) → List Answer
  | [] => []
  | (now, op) :: rest =>
    let later := (h.perform now op).answersSince id n rest
    if op.application? = some id ∧ op.mayConcernSince id n then h.answer now op :: later else later

theorem sinceLaunch_zero (id : String) (operations : List (Moment × Operation)) :
    sinceLaunch id 0 operations = operations.filter fun o => o.2.mayConcern id := by
  simp [sinceLaunch]

theorem answersSince_zero (h : Host) (id : String) (operations : List (Moment × Operation)) :
    h.answersSince id 0 operations = h.answersTo id operations := by
  induction operations generalizing h with
  | nil => rfl
  | cons o rest ih =>
    obtain ⟨now, op⟩ := o
    have concerns : op.application? = some id → op.mayConcern id = true := by
      intro meant
      simp [Operation.mayConcern, meant]
    simp only [answersSince, answersTo, ih, Operation.mayConcernSince_zero,
      and_iff_left_of_imp concerns]

theorem SameSince.perform_of_not_concerns (same : SameSince id n now.elapsed h g)
    (catalogued : h.Catalogued) (apart : op.mayConcernSince id n = false) :
    SameSince id n now.elapsed (h.perform now op) g := by
  rcases Bool.and_eq_false_iff.1 apart with other | earlier
  · obtain ⟨other, meant, different⟩ := Operation.other_of_not_mayConcern other
    exact same.perform_of_other catalogued meant different
  · cases named : op.instance? with
    | none =>
      rw [named] at earlier
      cases earlier
    | some ref =>
      rw [named] at earlier
      have earlier : ref.launch < n := Nat.lt_of_not_le (of_decide_eq_false earlier)
      by_cases here : ref.applicationId = id
      · exact same.perform_of_earlier named here earlier
      · exact same.perform_of_other catalogued (Operation.application?_of_instance? named) here

/-- As long as time does not go back, a run answers alike and leaves the application alike, without
all that is asked of other applications and of earlier instances. -/
theorem SameSince.run (same : SameSince id n elapsed h g) (catalogued : h.Catalogued)
    {operations : List (Moment × Operation)} (start : ∀ o ∈ operations, elapsed ≤ o.1.elapsed)
    (forward : operations.Pairwise fun a b => a.1.elapsed ≤ b.1.elapsed) :
    h.answersSince id n operations =
        (g.answersTo id (sinceLaunch id n operations)).map (·.shift n) ∧
      ∃ last, SameSince id n last (h.run operations) (g.run (sinceLaunch id n operations)) := by
  induction operations generalizing h g elapsed with
  | nil => exact ⟨rfl, elapsed, same⟩
  | cons o rest ih =>
    obtain ⟨now, op⟩ := o
    obtain ⟨beyond, forward⟩ := List.pairwise_cons.1 forward
    have here : SameSince id n now.elapsed h g := same.later (start _ List.mem_cons_self)
    have later := catalogued_perform catalogued now op
    cases concerns : op.mayConcernSince id n with
    | true =>
      have own : sinceLaunch id n ((now, op) :: rest) =
          (now, op.since n) :: sinceLaunch id n rest := by
        simp [sinceLaunch, concerns]
      obtain ⟨answers, last⟩ := ih (here.perform catalogued concerns) later beyond forward
      rw [own]
      refine ⟨?_, last⟩
      simp only [answersSince, answersTo, answers, concerns, and_true, Operation.application?_since]
      split
      · rename_i meant
        rw [here.answer_eq catalogued meant concerns, List.map_cons]
      · rfl
    | false =>
      -- The other run goes without this operation.
      have without : sinceLaunch id n ((now, op) :: rest) = sinceLaunch id n rest := by
        simp [sinceLaunch, concerns]
      have apart := here.perform_of_not_concerns catalogued concerns
      obtain ⟨answers, last⟩ := ih apart later beyond forward
      rw [without]
      refine ⟨?_, last⟩
      simp [answersSince, concerns, answers]

end Host
end AppHost
