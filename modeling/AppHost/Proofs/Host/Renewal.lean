import AppHost.Proofs.Host.Autostart
import AppHost.Proofs.Host.Instances
import AppHost.Proofs.Host.Succession
import AppHost.Proofs.Instance.Shutdown

/-!
An application that was stopped and is launched again. Its new instance is like that of a host which
has nothing but the application's catalog entry and never had an earlier instance.
-/

set_option autoImplicit false
namespace AppHost
open Calendar (Instant)

def Operation.launches (id : String) : Operation → Bool
  | .launch other _ => other = id
  | .launchWith d _ => d.applicationId = id
  | _ => false

namespace Operation
variable {id : String} {op : Operation}

theorem application?_of_launches (launches : op.launches id = true) : op.application? = some id := by
  cases op with
  | launch _ _ | launchWith _ _ =>
    cases of_decide_eq_true launches
    rfl
  | _ => cases launches

theorem since_of_launches (launches : op.launches id = true) (n : Nat) : op.since n = op := by
  cases op <;> first | rfl | cases launches

theorem mayConcernSince_of_launches (launches : op.launches id = true) (n : Nat) :
    op.mayConcernSince id n = true := by
  have meant := application?_of_launches launches
  have unnamed : op.instance? = none := by
    cases op <;> first | rfl | cases launches
  simp [mayConcernSince, mayConcern, meant, unnamed]

end Operation

def Descriptor.startEntry (d : Descriptor) (time : Instant) : LogEntry where
  time := time
  level := .runtime
  message :=
    match d.version with
    | some v => "application instance started at version " ++ v.offsetText
    | none => "application instance started"

namespace Host
variable {h : Host} {now : Moment} {id : String} {d : Descriptor} {handler : Handler} {i : Instance}

/-! ### What a launch starts -/

theorem log_of_starts (starts : h.Starts now d handler i) :
    i.log.entries = [d.startEntry now.date] :=
  Instance.holds_publishPages (p := fun i => i.log.entries = [d.startEntry now.date]) starts rfl
    fun _ _ same => same

theorem subscriptions_of_starts (starts : h.Starts now d handler i) : i.hub.subscriptions = [] := by
  refine Instance.holds_publishPages (p := fun i => i.hub.subscriptions = []) starts rfl ?_
  intro i page none
  have closed : (i.hub.closePage page.id).2.subscriptions = [] := by
    unfold Hub.closePage
    split
    · exact none
    · rw [none]
      rfl
  have opened (hub : Hub) : (hub.openPage page.id).subscriptions = hub.subscriptions := by
    unfold Hub.openPage
    split <;> rfl
  rw [Instance.serve, opened]
  split
  · exact closed
  · exact none

theorem subscriberCount_of_starts (starts : h.Starts now d handler i) (page : String) :
    i.hub.subscriberCount page = 0 := by
  rw [Hub.subscriberCount, subscriptions_of_starts starts]
  exact ite_self 0

theorem find?_pages_of_starts_eq (starts : h.Starts now d handler i) (page : String) :
    i.pages.pages.find? page = d.pages.reverse.find? (·.id = page) :=
  (Instance.pages_publishPages starts page).trans Option.or_none

theorem asks_of_launches (catalogued : h.Catalogued) {op : Operation}
    (launches : op.launches id = true) (launched : h.answer now op = .done (.ok ())) :
    h.running? id = none ∧ ∃ d handler i, h.Asks op d handler ∧ h.Starts now d handler i ∧
      (h.perform now op).running? id = some i := by
  cases op with
  | launch other version =>
    obtain rfl : other = id := of_decide_eq_true launches
    have answer : h.launch now other version = (.ok (), h.perform now (.launch other version)) :=
      Prod.ext (Answer.done.inj launched) rfl
    obtain ⟨m, declared, done⟩ := launch_eq_ok answer
    obtain ⟨rfl, valid⟩ := catalogued other m declared
    obtain ⟨-, stopped, i, starts, after⟩ := launchWith_eq_ok done
    refine ⟨stopped, _, m.handler, i, .launch declared, starts, ?_⟩
    rw [after]
    exact (running?_setRunning h m.id i m.id).trans (if_pos rfl)
  | launchWith d handler =>
    obtain rfl : d.applicationId = id := of_decide_eq_true launches
    have answer : h.launchWith now d handler = (.ok (), h.perform now (.launchWith d handler)) :=
      Prod.ext (Answer.done.inj launched) rfl
    obtain ⟨-, stopped, i, starts, after⟩ := launchWith_eq_ok answer
    refine ⟨stopped, d, handler, i, .launchWith, starts, ?_⟩
    rw [after]
    exact (running?_setRunning h d.applicationId i d.applicationId).trans (if_pos rfl)
  | _ => cases launches

/-! ### Before and after -/

/-- A host that has nothing but the catalog entry of an application. -/
def withOnly (h : Host) (now : Moment) (id : String) : Host :=
  match h.catalog.find? id with
  | some m => (new h.options).perform now (.register m)
  | none => new h.options

theorem application_withOnly (h : Host) (now : Moment) (id other : String) :
    (h.withOnly now id).application other = .none := by
  unfold withOnly
  cases h.catalog.find? id with
  | none => rfl
  | some m =>
    have none : (Operation.register m).addressee? = none := rfl
    exact application_perform_of_none _ now rfl none other

theorem agreeSince_withOnly (catalogued : h.Catalogued) (now : Moment)
    (stopped : h.running? id = none) :
    AgreeSince id (h.application id).retired.length h (h.withOnly now id) where
  options := by
    unfold withOnly
    cases h.catalog.find? id with
    | none => rfl
    | some m => exact (options_perform (new h.options) now _).symm
  manifest := by
    unfold withOnly
    cases declared : h.catalog.find? id with
    | none => rfl
    | some m =>
      obtain ⟨rfl, valid⟩ := catalogued id m declared
      exact (find?_catalog_register valid (new h.options) now).symm
  within := Nat.le_refl _
  application := by
    rw [application_withOnly, Application.since, List.drop_length]
    exact congrArg (Application.mk []) stopped

theorem receive_of_earlier (orderly : h.Orderly) {stream : SubscriptionRef}
    (earlier : stream.target.launch < (h.application stream.target.applicationId).retired.length) :
    (h.receive stream).1 = .closed := by
  unfold receive
  cases present : h.instance? stream.target with
  | none => rfl
  | some i =>
    have retired : i ∈ (h.application stream.target.applicationId).retired := by
      rw [instance?, Application.instance?, Application.instances,
        List.getElem?_append_left earlier] at present
      exact List.mem_of_getElem? present
    exact Hub.receive_of_isShutDown ((orderly _).retired i retired).2 stream.number

theorem AgreeSince.subscriberCount {g : Host} {n : Nat} (agree : AgreeSince id n h g) (page : String) :
    h.subscriberCount ⟨id, page⟩ = g.subscriberCount ⟨id, page⟩ := by
  simp only [Host.subscriberCount, agree.running?]

theorem AgreeSince.answer_of_launches {g : Host} {n : Nat} (agree : AgreeSince id n h g)
    (catalogued : h.Catalogued) {op : Operation} (launches : op.launches id = true) :
    h.answer now op = (g.answer now op).shift n := by
  cases op with
  | launch other version =>
    obtain rfl : other = id := of_decide_eq_true launches
    exact congrArg Answer.done (agree.launch_endsAlike catalogued now version).answer
  | launchWith d handler =>
    exact congrArg Answer.done
      (agree.launchWith_endsAlike (of_decide_eq_true launches) now handler).answer
  | _ => cases launches

/-- However an application ran before, whatever was done to its pages then and whoever still holds
its streams, a launch of it starts over: it serves the pages that it is launched with, its log has
one entry and it has no subscriptions. From then on the application answers as one of a host that
never had an instance of it, and those who subscribed before receive nothing. -/
theorem renewal (options : HostOptions) (before : List (Moment × Operation)) (id : String)
    (now : Moment) (op : Operation) (later : List (Moment × Operation)) :
    let h := (new options).run before
    let n := (h.application id).retired.length
    let fresh := h.withOnly now id
    let own := sinceLaunch id n later
    op.launches id = true → h.answer now op = .done (.ok ()) →
    ((now, op) :: later).Pairwise (fun a b => a.1.elapsed ≤ b.1.elapsed) →
    (∃ d handler i, h.Asks op d handler ∧ (h.perform now op).running? id = some i ∧
      (∀ page, i.pages.pages.find? page = d.pages.reverse.find? (·.id = page)) ∧
      i.version = d.version ∧ i.log.entries = [d.startEntry now.date] ∧
      ∀ page, i.hub.subscriberCount page = 0) ∧
    h.answersSince id n ((now, op) :: later) =
      (fresh.answersTo id ((now, op) :: own)).map (·.shift n) ∧
    (let last := h.run ((now, op) :: later)
    let freshLast := fresh.run ((now, op) :: own)
    last.running? id = freshLast.running? id ∧
      (∀ page, last.subscriberCount ⟨id, page⟩ = freshLast.subscriberCount ⟨id, page⟩) ∧
      ∀ stream, stream.target.applicationId = id → stream.target.launch < n →
        (last.receive stream).1 = .closed) := by
  intro h n fresh own launches launched forward
  have catalogued : h.Catalogued := catalogued_run (catalogued_new options) before
  have orderly : h.Orderly := orderly_run (orderly_new options) before
  obtain ⟨stopped, d, handler, i, asked, starts, runs⟩ :=
    asks_of_launches catalogued launches launched
  obtain ⟨beyond, forward⟩ := List.pairwise_cons.1 forward
  have agree : AgreeSince id n h fresh := agreeSince_withOnly catalogued now stopped
  have concerns := Operation.mayConcernSince_of_launches launches n
  have renewed := agree.perform catalogued now concerns
  rw [Operation.since_of_launches launches] at renewed
  have same : SameSince id n now.elapsed (h.perform now op) (fresh.perform now op) :=
    { renewed with kept := fun none => by rw [runs] at none; cases none }
  obtain ⟨answers, last, ends⟩ := same.run (catalogued_perform catalogued now op) beyond forward
  refine ⟨⟨d, handler, i, asked, runs, find?_pages_of_starts_eq starts, ?_, ?_, ?_⟩, ?_, ?_, ?_, ?_⟩
  · exact Instance.version_publishPages starts
  · exact log_of_starts starts
  · exact subscriberCount_of_starts starts
  · simp only [answersSince, answersTo, Operation.application?_of_launches launches, concerns,
      and_self, if_true, List.map_cons, answers]
    rw [agree.answer_of_launches catalogued launches]
  · exact ends.running?
  · exact fun page => ends.subscriberCount page
  · rintro stream rfl earlier
    exact receive_of_earlier (orderly_run (orderly_perform orderly now op) later)
      (Nat.lt_of_lt_of_le earlier ends.within)

/-- The page that was published while the first instance ran is not there in the second one, and the
stream of the first one is closed. -/
theorem renewal_after_stop :
    let m : Manifest :=
      ⟨"a", true, false, none, Dictionary.empty.insert "p" ⟨"p.html", "P"⟩, .empty, .empty⟩
    let after (elapsed : Nat) : Moment := ⟨⟨0, 0, by decide⟩, elapsed⟩
    let before : List (Moment × Operation) :=
      [(after 0, .register m), (after 0, .launch "a" none), (after 1, .subscribe ⟨"a", "p"⟩),
        (after 1, .publishPage "a" ⟨"p", "q.html", "Q"⟩), (after 2, .stop "a")]
    let h := (new .default).run before
    let old : SubscriptionRef := ⟨⟨"a", 0⟩, 0⟩
    let later : List (Moment × Operation) :=
      [(after 4, .resolvePage ⟨"a", "p"⟩), (after 4, .subscribe ⟨"a", "p"⟩),
        (after 5, .emitToPage ⟨"a", "p"⟩ ⟨"e", []⟩), (after 5, .receive old),
        (after 5, .receive ⟨⟨"a", 1⟩, 0⟩)]
    let launch := (after 3, Operation.launch "a" none)
    h.answersSince "a" 1 (launch :: later) =
        ((h.withOnly (after 3) "a").answersTo "a" (launch :: sinceLaunch "a" 1 later)).map (·.shift 1) ∧
      h.answersSince "a" 1 (launch :: later) =
        [.done (.ok ()), .resolved (.ok ⟨"p.html", "P", none⟩),
          .subscribed (.ok ⟨⟨"a", 1⟩, 0⟩), .reached (.ok 1), .received (.message ⟨"e", []⟩)] ∧
      ((h.run (launch :: later)).receive old).1 = .closed := by
  intro m after before h old later launch
  have renewed := renewal .default before "a" (after 3) (.launch "a" none) later (by decide)
    (by decide +kernel) (by simp [later, after])
  have launches : (h.application "a").retired.length = 1 := by decide +kernel
  rw [launches] at renewed
  exact ⟨renewed.2.1, by decide +kernel, renewed.2.2.2.2 old rfl (by decide)⟩

end Host
end AppHost
