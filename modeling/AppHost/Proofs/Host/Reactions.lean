import AppHost.Proofs.Host.Failures
import AppHost.Proofs.Host.StreamEnd
import AppHost.Proofs.Hub.Readers
import AppHost.Proofs.Instance.Arguments

/-!
How an application that a manifest describes answers its pages. Each call and each event leads to
one event at most, which the manifest names, and that comes once to every stream it is for; nothing
else in the host is changed but the application's log.
-/

set_option autoImplicit false
namespace AppHost
open Json (Value)

namespace Hub

/-- Sends an event to one page, or to all if none is given. -/
def send (h : Hub) (page? : Option String) (event : ApplicationEvent) : Hub :=
  match page? with
  | some page => (h.emitToPage page event).2
  | none => (h.emitToAll event).2

end Hub

namespace Standing

def hears (s : Standing) (page? : Option String) : Bool := s.isOpen && page?.all (s.page = ·)

/-- An event more is before the subscription if it is one of those that it is sent to. -/
def hear (capacity : Nat) (page? : Option String) (event : ApplicationEvent) (s : Standing) :
    Standing :=
  if s.hears page? then { s with backlog := s.backlog.push capacity event } else s

end Standing

namespace Hub
variable {h : Hub}

theorem standing?_send (coherent : h.Coherent) (page? : Option String) (event : ApplicationEvent)
    (number : Nat) :
    (h.send page? event).standing? number =
      (h.standing? number).map (·.hear h.capacity page? event) := by
  cases page? with
  | none =>
    refine (standing?_emitToAll coherent event number).trans (Option.map_congr fun s _ => ?_)
    simp [Standing.accept, Standing.hear, Standing.hears]
  | some page =>
    refine (standing?_emitToPage coherent page event number).trans (Option.map_congr fun s _ => ?_)
    by_cases here : s.page = page
    · simp [Standing.accept, Standing.hear, Standing.hears, here]
    · simp [Standing.hear, Standing.hears, here]

theorem isSome_send (h : Hub) (page? : Option String) (event : ApplicationEvent) (page : String) :
    ((h.send page? event).pages.find? page).isSome = (h.pages.find? page).isSome := by
  cases page? with
  | none => exact h.isSome_step_of_isQuiet (a := .emitToAll event) rfl page
  | some other => exact h.isSome_step_of_isQuiet (a := .emitToPage other event) rfl page

end Hub

namespace ListenerSpec

/-- The page that a listener answers to, if it does not answer to all. -/
def audience (l : ListenerSpec) (page : String) : Option String :=
  match l.target with
  | .page => some page
  | .all => none

theorem run_answer (l : ListenerSpec) (page event : String) (values : List Value)
    (time : Calendar.Instant) (o : Outlets) :
    ∃ log, (l.answer page event values).run time o =
      (.ok (), ⟨o.hub.send (l.audience page) (.ofValues (l.eventName event) values), log⟩) := by
  obtain ⟨target, emit⟩ := l
  cases target with
  | page => exact ⟨_, rfl⟩
  | all => exact ⟨_, rfl⟩

end ListenerSpec

namespace Instance
variable {i : Instance} {m : Manifest} {time : Calendar.Instant} {heading : String}

theorem run_of_run {α : Type} {activity : Activity (Except RuntimeError α)} {answer : α}
    {hub : Hub} {log : Log} (runs : activity.run time ⟨i.hub, i.log⟩ = (.ok answer, ⟨hub, log⟩)) :
    i.run time heading activity = (.ok answer, { i with hub, log }) := by
  simp only [run, runs]

/-- A listener sends one event and notes it; without a listener nothing is done. -/
theorem run_handleEvent (behaves : i.handler = m.handler) (time : Calendar.Instant)
    (heading : String) (context : EventContext) (event : String) (values : List Value) :
    let after := (i.run time heading (i.handler.handleEvent context event values)).2
    match m.listeners.find? event with
    | none => after = i
    | some l => ∃ log, after =
      { i with
        hub := i.hub.send (l.audience context.pageId) (.ofValues (l.eventName event) values)
        log } := by
  have listens : i.handler.handleEvent context event values =
      m.handler.handleEvent context event values := by rw [behaves]
  rw [listens]
  cases found : m.listeners.find? event with
  | none =>
    simp only [Manifest.handler, found]
    rfl
  | some l =>
    obtain ⟨log, answered⟩ := l.run_answer context.pageId event values time ⟨i.hub, i.log⟩
    simp only [Manifest.handler, found]
    exact ⟨log, congrArg Prod.snd (run_of_run answered)⟩

theorem run_invoke (behaves : i.handler = m.handler) (context : InvocationContext) {method : String}
    {values : List Value} {answer : Value}
    (answered : (i.run time heading (i.handler.invoke context method values)).1 = .ok answer) :
    ∃ spec, m.methods.find? method = some spec ∧
      let after := (i.run time heading (i.handler.invoke context method values)).2
      match spec with
      | .reply value => answer = value ∧ after = i
      | .echo => answer = .array values ∧ after = i
      | .emit event => answer = .null ∧ ∃ log,
          after = { i with hub := i.hub.send none (.ofValues event values), log } := by
  have answers : i.handler.invoke context method values =
      m.handler.invoke context method values := by rw [behaves]
  rw [answers] at answered ⊢
  cases found : m.methods.find? method with
  | none =>
    simp only [Manifest.handler, found] at answered
    cases answered
  | some spec =>
    refine ⟨spec, rfl, ?_⟩
    simp only [Manifest.handler, found] at answered ⊢
    cases spec with
    | reply value =>
      cases answered
      exact ⟨rfl, rfl⟩
    | echo =>
      cases answered
      exact ⟨rfl, rfl⟩
    | emit event =>
      cases answered
      exact ⟨rfl, i.log, rfl⟩

end Instance

namespace Host
variable {h after : Host} {id : String} {i : Instance} {now : Moment}

theorem trigger_eq_ok {t : EventTrigger} (runs : h.running? t.applicationId = some i)
    (triggered : h.trigger now t = (.ok (), after)) :
    (∃ page, i.pages.pages.find? t.pageId = some page) ∧ ∃ values, Decode t.arguments values ∧
      after = h.setRunning t.applicationId (i.run now.date ("listener for " ++ t.name)
        (i.handler.handleEvent ⟨i.applicationId, t.pageId, false⟩ t.name values)).2 := by
  obtain ⟨j, target, handled, rfl⟩ := ask_eq_ok triggered
  cases runs.symm.trans (running?_of_triggerTarget target)
  cases found : i.pages.pages.find? t.pageId with
  | none =>
    rw [Instance.handleEvent, Instance.resolvePage_of_absent found] at handled
    cases handled
  | some page =>
    simp only [Instance.handleEvent, Instance.resolvePage_of_found found] at handled ⊢
    cases decoded : decodeArguments t.arguments with
    | error e =>
      rw [decoded] at handled
      cases handled
    | ok values => exact ⟨⟨page, rfl⟩, values, decodeArguments_eq_ok_iff.1 decoded, rfl⟩

theorem invoke_eq_ok {call : MethodInvocation} {result : MethodResult}
    (runs : h.running? call.applicationId = some i)
    (invoked : h.invoke now call = (.ok result, after)) :
    ∃ values answer, Decode call.arguments values ∧ result = ⟨answer.text⟩ ∧
      let ran := i.run now.date ("method " ++ call.method)
        (i.handler.invoke ⟨i.applicationId, false⟩ call.method values)
      ran.1 = .ok answer ∧ after = h.setRunning call.applicationId ran.2 := by
  obtain ⟨j, target, answered, rfl⟩ := ask_eq_ok invoked
  cases runs.symm.trans (running?_of_callTarget target)
  simp only [Instance.invoke] at answered ⊢
  cases decoded : decodeArguments call.arguments with
  | error e =>
    rw [decoded] at answered
    cases answered
  | ok values =>
    simp only [decoded] at answered ⊢
    refine ⟨values, ?_⟩
    cases ran : (i.run now.date ("method " ++ call.method)
        (i.handler.invoke ⟨i.applicationId, false⟩ call.method values)).1 with
    | error e =>
      rw [ran] at answered
      cases answered
    | ok answer =>
      rw [ran] at answered
      cases answered
      exact ⟨answer, decodeArguments_eq_ok_iff.1 decoded, rfl, rfl, rfl⟩

theorem trigger_of_served {m : Manifest} {t : EventTrigger} {page : Page} {values : List Value}
    (named : t.page.isNamed = true) (event : t.name.isEmpty = false)
    (runs : h.running? t.applicationId = some i) (behaves : i.handler = m.handler)
    (served : i.pages.pages.find? t.pageId = some page)
    (decoded : decodeArguments t.arguments = .ok values) (now : Moment) :
    (h.trigger now t).1 = .ok () := by
  rw [trigger_of_running named event runs]
  simp only [Instance.handleEvent, Instance.resolvePage_of_found served, decoded, behaves]
  exact Instance.run_of_answered (handleEvent_manifest m _ t.name values now.date _) _

theorem invoke_of_declared {m : Manifest} {call : MethodInvocation} {spec : MethodSpec}
    {values : List Value} (application : call.applicationId.isEmpty = false)
    (method : call.method.isEmpty = false) (runs : h.running? call.applicationId = some i)
    (behaves : i.handler = m.handler) (declared : m.methods.find? call.method = some spec)
    (decoded : decodeArguments call.arguments = .ok values) (now : Moment) :
    ∃ result, (h.invoke now call).1 = .ok result := by
  obtain ⟨text, answered⟩ := Instance.invoke_of_known behaves decoded declared now.date
  refine ⟨⟨text⟩, ?_⟩
  have named : (call.applicationId.isEmpty || call.method.isEmpty) = false := by
    rw [application, method, Bool.or_self]
  rw [invoke_of_running named runs, answered]
  rfl

/-! ### What is sent, and to whom -/

theorem instance?_of_running (runs : h.running? id = some i) {ref : InstanceRef}
    (target : ref = h.runningRef id) : h.instance? ref = some i := by
  rw [target]
  exact (h.instance?_runningRef id).trans runs

theorem standing?_setRunning (runs : h.running? id = some i) (next : Instance)
    (stream : SubscriptionRef) :
    (h.setRunning id next).standing? stream =
      if stream.target = h.runningRef id then next.hub.standing? stream.number
      else h.standing? stream := by
  have same : (h.setRunning id next).instance? stream.target =
      (h.alter (h.runningRef id) fun _ => next).instance? stream.target := by
    apply instance?_congr
    apply application_running
    · intro stopped
      cases runs.symm.trans stopped
    · exact fun _ _ => rfl
  simp only [standing?, same, instance?_alter]
  split
  · rename_i target
    rw [instance?_of_running runs target]
    rfl
  · rfl

/-- All streams stand as before, but those of the running instance that the event is sent to have it
before them, once more than what they had. -/
def Delivers (h : Host) (id : String) (capacity : Nat) (page? : Option String)
    (event : ApplicationEvent) (after : Host) : Prop :=
  ∀ stream, after.standing? stream = (h.standing? stream).map fun s =>
    if stream.target = h.runningRef id then s.hear capacity page? event else s

def Silent (h after : Host) : Prop := ∀ stream, after.standing? stream = h.standing? stream

/-- The running instance of an application has other events and another log than before. Nothing
else is changed: neither its pages nor any other application. -/
structure LeavesPages (h : Host) (id : String) (i : Instance) (after : Host) : Prop where
  goesOn : ∃ hub log, after = h.setRunning id { i with hub, log } ∧
    ∀ page, (hub.pages.find? page).isSome = (i.hub.pages.find? page).isSome
  others : ∀ other, other ≠ id → after.application other = h.application other

theorem leavesPages_of_hub {hub : Hub}
    (pages : ∀ page, (hub.pages.find? page).isSome = (i.hub.pages.find? page).isSome) (log : Log) :
    h.LeavesPages id i (h.setRunning id { i with hub, log }) where
  goesOn := ⟨hub, log, rfl, pages⟩
  others other different := by rw [application_setRunning, if_neg (Ne.symm different)]

theorem delivers_send (orderly : h.Orderly) (runs : h.running? id = some i)
    (page? : Option String) (event : ApplicationEvent) (log : Log) :
    h.Delivers id i.hub.capacity page? event
      (h.setRunning id { i with hub := i.hub.send page? event, log }) := by
  intro stream
  rw [standing?_setRunning runs]
  split
  · rename_i target
    have present := instance?_of_running runs target
    have coherent := coherent_of_orderly orderly present
    rw [Hub.standing?_send coherent, standing?, present]
    rfl
  · exact Option.map_id'.symm

theorem silent_of_hub (runs : h.running? id = some i) : h.Silent (h.setRunning id i) := by
  rw [setRunning_self runs]
  exact fun _ => rfl

/-- To read a stream is no concern of any other, and lets no application do anything. -/
theorem receive_only (h : Host) (stream : SubscriptionRef) :
    (∀ other, other ≠ stream → (h.receive stream).2.standing? other = h.standing? other) ∧
      ∀ ref j, h.instance? ref = some j →
        ∃ hub, (h.receive stream).2.instance? ref = some { j with hub } := by
  rw [receive_eq_alter]
  constructor
  · intro other different
    rw [standing?, standing?, instance?_alter]
    split
    · rename_i target
      cases present : h.instance? other.target with
      | none => rfl
      | some j =>
        have apart : other.number ≠ stream.number := fun same => different <| by
          cases other
          cases stream
          cases same
          cases target
          rfl
        exact Hub.standing?_receive_of_ne apart
    · rfl
  · intro ref j present
    rw [instance?_alter, present]
    split
    · exact ⟨_, rfl⟩
    · exact ⟨j.hub, rfl⟩

theorem served_of_isOpen (orderly : h.Orderly) (runs : h.running? id = some i)
    {stream : SubscriptionRef} (target : stream.target = h.runningRef id) {s : Standing}
    (present : h.standing? stream = some s) (isOpen : s.isOpen = true) :
    (i.pages.pages.find? s.page).isSome = true := by
  rw [standing?, instance?_of_running runs target, Option.bind_some] at present
  have opened := (Dictionary.mem_keys _ _).1 (Hub.isOpen_page_of_standing? present isOpen)
  exact ((Instance.agrees_iff_isSome i).1 ((orderly id).running i runs).agrees _).trans opened

theorem leavesPages_self (h : Host) (id : String) (i : Instance) :
    h.LeavesPages id i (h.setRunning id i) :=
  leavesPages_of_hub (fun _ => rfl) i.log

theorem trigger_delivers (orderly : h.Orderly) {m : Manifest} {t : EventTrigger}
    (runs : h.running? t.applicationId = some i) (behaves : i.handler = m.handler)
    (triggered : h.trigger now t = (.ok (), after)) :
    h.LeavesPages t.applicationId i after ∧ ∃ values, Decode t.arguments values ∧
      match m.listeners.find? t.name with
      | none => h.Silent after
      | some l => h.Delivers t.applicationId i.hub.capacity (l.audience t.pageId)
          (.ofValues (l.emit.getD t.name) values) after := by
  obtain ⟨-, values, decoded, rfl⟩ := trigger_eq_ok runs triggered
  have does := Instance.run_handleEvent behaves now.date ("listener for " ++ t.name)
    ⟨i.applicationId, t.pageId, false⟩ t.name values
  cases listens : m.listeners.find? t.name with
  | none =>
    rw [listens] at does
    dsimp only at does
    rw [does]
    exact ⟨h.leavesPages_self _ i, values, decoded, silent_of_hub runs⟩
  | some l =>
    rw [listens] at does
    obtain ⟨log, left⟩ := does
    rw [left]
    exact ⟨leavesPages_of_hub (i.hub.isSome_send _ _) log, values, decoded,
      delivers_send orderly runs _ _ log⟩

theorem invoke_delivers (orderly : h.Orderly) {m : Manifest} {call : MethodInvocation}
    {result : MethodResult} (runs : h.running? call.applicationId = some i)
    (behaves : i.handler = m.handler) (invoked : h.invoke now call = (.ok result, after)) :
    h.LeavesPages call.applicationId i after ∧ ∃ spec values,
      m.methods.find? call.method = some spec ∧ Decode call.arguments values ∧
      match spec with
      | .reply value => result = ⟨value.text⟩ ∧ h.Silent after
      | .echo => result = ⟨(Value.array values).text⟩ ∧ h.Silent after
      | .emit event => result = ⟨"null"⟩ ∧
        h.Delivers call.applicationId i.hub.capacity none (.ofValues event values) after := by
  obtain ⟨values, answer, decoded, rfl, answered, rfl⟩ := invoke_eq_ok runs invoked
  obtain ⟨spec, found, does⟩ := Instance.run_invoke behaves _ answered
  cases spec with
  | reply value =>
    obtain ⟨rfl, left⟩ := does
    rw [left]
    exact ⟨h.leavesPages_self _ i, _, values, found, decoded, rfl, silent_of_hub runs⟩
  | echo =>
    obtain ⟨rfl, left⟩ := does
    rw [left]
    exact ⟨h.leavesPages_self _ i, _, values, found, decoded, rfl, silent_of_hub runs⟩
  | emit event =>
    obtain ⟨rfl, log, left⟩ := does
    rw [left]
    exact ⟨leavesPages_of_hub (i.hub.isSome_send _ _) log, _, values, found, decoded, rfl,
      delivers_send orderly runs _ _ log⟩

/-- How an application that behaves as its manifest says answers events from its pages and calls. -/
structure Reacts (h : Host) (now : Moment) (id : String) (i : Instance) (m : Manifest) : Prop where
  triggered : ∀ t after, t.applicationId = id → h.trigger now t = (.ok (), after) →
    h.LeavesPages id i after ∧ ∃ values, Decode t.arguments values ∧
      match m.listeners.find? t.name with
      | none => h.Silent after
      | some l => h.Delivers id i.hub.capacity (l.audience t.pageId)
          ⟨l.emit.getD t.name, values.map (·.text)⟩ after
  -- Events from a page that is served do not fail,
  triggers : ∀ t values, t.applicationId = id → t.page.isNamed = true → t.name.isEmpty = false →
    (i.pages.pages.find? t.pageId).isSome = true → Decode t.arguments values →
    (h.trigger now t).1 = .ok ()
  invoked : ∀ call result after, call.applicationId = id → h.invoke now call = (.ok result, after) →
    h.LeavesPages id i after ∧ ∃ spec values,
      m.methods.find? call.method = some spec ∧ Decode call.arguments values ∧
      match spec with
      | .reply value => result = ⟨value.text⟩ ∧ h.Silent after
      | .echo => result = ⟨(Value.array values).text⟩ ∧ h.Silent after
      | .emit event => result = ⟨"null"⟩ ∧
        h.Delivers id i.hub.capacity none ⟨event, values.map (·.text)⟩ after
  -- and calls of declared methods do not either.
  invokes : ∀ call spec values, call.applicationId = id → id.isEmpty = false →
    call.method.isEmpty = false → m.methods.find? call.method = some spec →
    Decode call.arguments values → ∃ result, (h.invoke now call).1 = .ok result
  served : ∀ stream s, stream.target = h.runningRef id → h.standing? stream = some s →
    s.isOpen = true → (i.pages.pages.find? s.page).isSome = true
  received : ∀ stream,
    (∀ other, other ≠ stream → (h.receive stream).2.standing? other = h.standing? other) ∧
    ∀ ref j, h.instance? ref = some j →
      ∃ hub, (h.receive stream).2.instance? ref = some { j with hub }

/-- How a running application answers that behaves as a manifest says, after any run. To an event
from a page it sends nothing if nobody listens; a listener sends one event, to that page or to all,
by the name that it gives it or else by the old one. A method that sends one sends it to all, under
the declared name, and answers null; the other methods send nothing. The arguments are the given
ones, in their order. Each open stream that an event is for has it once more than before, and no
other stream has anything. No page is changed, and no other application. All open streams are of
pages that are served; to receive what was sent leads to nothing further. -/
theorem reactions (options : HostOptions) (operations : List (Moment × Operation)) {id : String}
    {i : Instance} {m : Manifest}
    (runs : ((new options).run operations).running? id = some i) (behaves : i.handler = m.handler)
    (now : Moment) : ((new options).run operations).Reacts now id i m := by
  have orderly : ((new options).run operations).Orderly :=
    orderly_run (orderly_new options) operations
  constructor
  case triggered =>
    rintro t after rfl triggered
    exact trigger_delivers orderly runs behaves triggered
  case triggers =>
    rintro t values rfl named event found decoded
    obtain ⟨page, served⟩ := Option.isSome_iff_exists.1 found
    exact trigger_of_served named event runs behaves served (decodeArguments_eq_ok_iff.2 decoded) now
  case invoked =>
    rintro call result after rfl invoked
    exact invoke_delivers orderly runs behaves invoked
  case invokes =>
    rintro call spec values rfl application method declared decoded
    exact invoke_of_declared application method runs behaves declared
      (decodeArguments_eq_ok_iff.2 decoded) now
  case served => exact fun _ _ target => served_of_isOpen orderly runs target
  case received => exact receive_only _

/-- An event comes back under another name, which has a listener as well. -/
theorem reactions_to_hello :
    let listeners := (Dictionary.empty.insert "hello" ⟨.page, some "bye"⟩).insert "bye" ⟨.all, none⟩
    let m : Manifest := ⟨"app", true, false, none, .empty, .empty, listeners⟩
    let now : Moment := ⟨⟨0, 0, by decide⟩, 0⟩
    let h := (new ⟨1, 0⟩).run [
      (now, .launchWith ⟨"app", none, [⟨"p", "p.html", "P"⟩]⟩ m.handler),
      (now, .subscribe ⟨"app", "p"⟩)]
    let after := (h.trigger now ⟨"app", "p", "hello", ["1"]⟩).2
    (h.trigger now ⟨"app", "p", "hello", ["1"]⟩).1 = .ok () ∧
      h.Delivers "app" 1 (some "p") ⟨"bye", ["1"]⟩ after ∧
      after.receives ⟨⟨"app", 0⟩, 0⟩ 2 = [.message ⟨"bye", ["1"]⟩, .pending] := by
  intro listeners m now h after
  have triggered : (h.trigger now ⟨"app", "p", "hello", ["1"]⟩).1 = .ok () := by decide +kernel
  have capacity : (h.running? "app").map (·.hub.capacity) = some 1 := by decide +kernel
  have handler : (h.running? "app").map (·.handler) = some m.handler := rfl
  obtain ⟨i, runs, capacity⟩ := Option.map_eq_some_iff.1 capacity
  rw [runs] at handler
  have reacts := reactions ⟨1, 0⟩ _ runs (Option.some.inj handler) now
  obtain ⟨-, values, decoded, delivers⟩ :=
    reacts.triggered ⟨"app", "p", "hello", ["1"]⟩ after rfl (Prod.ext triggered rfl)
  have delivers : h.Delivers "app" i.hub.capacity (some "p") ⟨"bye", values.map (·.text)⟩ after :=
    delivers
  obtain ⟨given, parsed, texts⟩ : ∃ given, decodeArguments ["1"] = .ok given ∧
    given.map (·.text) = ["1"] := by decide +kernel
  cases (decodeArguments_eq_ok_iff.2 decoded).symm.trans parsed
  rw [capacity, texts] at delivers
  exact ⟨triggered, delivers, by decide +kernel⟩

end Host
end AppHost
