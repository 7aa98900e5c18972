import AppHost.Proofs.Host.LogLookup
import AppHost.Proofs.Host.Reactions
import AppHost.Proofs.Host.Renewal
import AppHost.Proofs.Log.Newest

/-!
What is in the log of an instance that behaves as a manifest says. Everything that it ever wrote is
read off the run: the entry of its launch, what the calls and events that came to it left, and the
entry of its stop. The log has the newest of that, as many entries as it can hold.
-/

set_option autoImplicit false
namespace AppHost
open Calendar (Instant)
open Json (Value)

/-! ### Entries -/

namespace LogEntry

def stopped (time : Instant) : LogEntry := ⟨time, .runtime, "application instance stopped"⟩

def failed (time : Instant) (method : String) (e : RuntimeError) : LogEntry :=
  ⟨time, .warn, "method " ++ method ++ " failed: " ++ e.message⟩

def answered (time : Instant) (event page name : String) (reached : Nat) : LogEntry :=
  ⟨time, .info, event ++ " from page " ++ page ++ " answered with " ++ name ++ " (" ++
    toString reached ++ " stream(s))"⟩

end LogEntry

namespace Hub

/-- Those who get what is sent to this page, or to all if none is given. -/
def hearers (h : Hub) (page? : Option String) : List Nat :=
  match page? with
  | some page => h.readers page
  | none => h.listeners

end Hub

theorem ListenerSpec.log_answer (l : ListenerSpec) (page event : String) (values : List Value)
    (time : Instant) {o : Outlets} (up : o.hub.isShutDown = false) :
    ((l.answer page event values).run time o).2.log = o.log.push
      (.answered time event page (l.eventName event) (o.hub.hearers (l.audience page)).length) := by
  obtain ⟨target, emit⟩ := l
  cases target with
  | page =>
    have reached := o.hub.reached_emitToPage page
      (.ofValues (eventName ⟨.page, emit⟩ event) values)
    simp only [audience, Hub.hearers, ← Hub.subscriberCount_eq up, ← reached]
    rfl
  | all =>
    have reached := Hub.reached_emitToAll_of_up up (.ofValues (eventName ⟨.all, emit⟩ event) values)
    simp only [audience, Hub.hearers, ← reached]
    rfl

namespace Instance
variable {i : Instance} {m : Manifest}

/-- What an operation leaves in the log of the instance that it works on. A call that comes to the
code of the application is noted if it fails there, and an event if there is a listener. -/
def notes (i : Instance) (m : Manifest) (now : Moment) : Operation → List LogEntry
  | .invoke call =>
    match decodeArguments call.arguments, (i.invoke now.date call.method call.arguments).1 with
    | .ok _, .error e => [.failed now.date call.method e]
    | _, _ => []
  | .trigger t =>
    match i.pages.pages.find? t.pageId, decodeArguments t.arguments, m.listeners.find? t.name with
    | some _, .ok _, some l =>
      [.answered now.date t.name t.pageId (l.eventName t.name)
        (i.hub.hearers (l.audience t.pageId)).length]
    | _, _, _ => []
  | _ => []

theorem log_perform (behaves : i.handler = m.handler) (up : i.hub.isShutDown = false) (now : Moment)
    (op : Operation) : (i.perform now op).log = (i.notes m now op).foldl Log.push i.log := by
  cases op with
  | invoke call =>
    simp only [perform, notes]
    cases decoded : decodeArguments call.arguments with
    | error e =>
      rw [invoke_of_undecoded decoded]
      rfl
    | ok values =>
      cases found : m.methods.find? call.method with
      | none =>
        rw [invoke_of_unknown behaves decoded found]
        rfl
      | some spec =>
        obtain ⟨text, answered⟩ := invoke_of_known behaves decoded found now.date
        rw [answered]
        simp only [invoke, decoded, behaves, Manifest.handler, found]
        cases spec <;> rfl
  | trigger t =>
    simp only [perform, notes, handleEvent]
    cases found : i.pages.pages.find? t.pageId with
    | none =>
      rw [resolvePage_of_absent found]
      rfl
    | some page =>
      rw [resolvePage_of_found found]
      cases decoded : decodeArguments t.arguments with
      | error e => rfl
      | ok values =>
        simp only [behaves, Manifest.handler]
        cases listens : m.listeners.find? t.name with
        | none => rfl
        | some l =>
          have noted := l.log_answer t.pageId t.name values now.date (o := ⟨i.hub, i.log⟩) up
          obtain ⟨log, answered⟩ := l.run_answer t.pageId t.name values now.date ⟨i.hub, i.log⟩
          rw [answered] at noted
          rw [run_of_run answered]
          exact noted
  | publishPage _ page =>
    simp only [perform]
    cases valid : page.validate with
    | error e => rw [publishPage_of_invalid valid]; rfl
    | ok u => rw [publishPage_of_valid valid]; rfl
  | unpublishPage page =>
    simp only [perform]
    cases served : i.pages.pages.contains page.pageId with
    | true => rw [unpublishPage_of_served served]; rfl
    | false => rw [unpublishPage_of_absent served]; rfl
  | subscribe page =>
    obtain ⟨hub, same⟩ := i.outlets_subscribe page.pageId
    simp only [perform, same]
    rfl
  | emitToPage page event =>
    obtain ⟨hub, same⟩ := i.outlets_emitToServed page.pageId event
    simp only [perform, same]
    rfl
  | _ => rfl

theorem level_of_mem_notes {now : Moment} {op : Operation} {entry : LogEntry}
    (noted : entry ∈ i.notes m now op) : entry.level ≠ .runtime := by
  cases op with
  | invoke call =>
    simp only [notes] at noted
    split at noted
    · cases List.mem_singleton.1 noted
      exact LogLevel.noConfusion
    · cases noted
  | trigger t =>
    simp only [notes] at noted
    split at noted
    · cases List.mem_singleton.1 noted
      exact LogLevel.noConfusion
    · cases noted
  | _ => cases noted

end Instance

/-! ### Instances of a host -/

namespace Host

def entries (h : Host) (m : Manifest) (now : Moment) (op : Operation) (ref : InstanceRef) :
    List LogEntry :=
  match h.instance? ref with
  | none =>
    match h.deed? now op with
    | some (.launched d) =>
      if h.runningRef d.applicationId = ref then [d.startEntry now.date] else []
    | _ => []
  | some i =>
    if ref ≠ h.runningRef ref.applicationId then []
    else if (h.perform now op).isRunning ref.applicationId then
      if op.worksOn h ref then i.notes m now op else []
    else [.stopped now.date]

/-- All that a run writes to the log of an instance. -/
def chronicle (h : Host) (m : Manifest) (ref : InstanceRef) :
    List (Moment × Operation) → List LogEntry
  | [] => []
  | (now, op) :: rest => h.entries m now op ref ++ (h.perform now op).chronicle m ref rest

/-- The log of an instance, where one that is not there yet has an empty one. -/
def logOf (h : Host) (ref : InstanceRef) : Log :=
  match h.instance? ref with
  | some i => i.log
  | none => .new Log.defaultCapacity

/-- What becomes of one instance in an operation, and what is written then. -/
inductive Passage (h : Host) (m : Manifest) (now : Moment) (op : Operation) (ref : InstanceRef) :
    List LogEntry → Prop
  | absent (before : h.instance? ref = none) (after : (h.perform now op).instance? ref = none) :
    Passage h m now op ref []
  | launched {d : Descriptor} {handler : Handler} {i : Instance} (before : h.instance? ref = none)
    (starts : h.Starts now d handler i) (after : (h.perform now op).instance? ref = some i)
    (runs : ref = (h.perform now op).runningRef ref.applicationId) :
    Passage h m now op ref [d.startEntry now.date]
  | goesOn {i : Instance} (before : h.instance? ref = some i)
    (last : ref = h.runningRef ref.applicationId) (runs : h.running? ref.applicationId = some i)
    (after : (h.perform now op).instance? ref =
      some (if op.worksOn h ref then i.perform now op else i))
    (still : ref = (h.perform now op).runningRef ref.applicationId) :
    Passage h m now op ref (if op.worksOn h ref then i.notes m now op else [])
  | stopped {i : Instance} (before : h.instance? ref = some i)
    (last : ref = h.runningRef ref.applicationId)
    (after : (h.perform now op).instance? ref = some (i.stop now.date))
    (ends : ref ≠ (h.perform now op).runningRef ref.applicationId) :
    Passage h m now op ref [.stopped now.date]
  | retired {i j : Instance} (before : h.instance? ref = some i)
    (past : ref ≠ h.runningRef ref.applicationId)
    (after : (h.perform now op).instance? ref = some j) (kept : j.log = i.log)
    (still : ref ≠ (h.perform now op).runningRef ref.applicationId) :
    Passage h m now op ref []

variable {h : Host} {m : Manifest} {now : Moment} {op : Operation} {ref : InstanceRef}
  {i : Instance}

theorem entries_of_absent (absent : h.instance? ref = none)
    (elsewhere : ∀ d, h.deed? now op = some (.launched d) → h.runningRef d.applicationId ≠ ref) :
    h.entries m now op ref = [] := by
  simp only [entries, absent]
  split
  · rename_i d made
    exact if_neg (elsewhere d made)
  · rfl

theorem passage_of_absent (m : Manifest) (now : Moment) (op : Operation)
    (absent : h.instance? ref = none) : h.Passage m now op ref (h.entries m now op ref) := by
  obtain ⟨id, launch⟩ := ref
  cases stops : op.stops id with
  | true =>
    rw [entries_of_absent absent fun d made => absurd made (deed?_of_stops stops d)]
    refine .absent absent ?_
    rw [instance?, application_perform_of_stops h now stops, Application.instance?_retire,
      show (h.application id).instance? launch = none from absent]
    exact ite_self _
  | false =>
    cases h.change_of_not_stops now stops with
    | same elsewhere after =>
      rw [entries_of_absent absent fun d made here =>
        elsewhere d made (congrArg InstanceRef.applicationId here)]
      exact .absent absent ((instance?_congr after).trans absent)
    | altered _ _ none after =>
      rw [entries_of_absent absent fun d made => absurd made (none d)]
      refine .absent absent ?_
      rw [instance?, after, Application.instance?_alter,
        show (h.application id).instance? launch = Option.none from absent]
      exact ite_self _
    | @started d _ i here stopped starts made after =>
      subst here
      have started := Application.instance?_start (i := i) stopped launch
      by_cases new : launch = (h.application d.applicationId).retired.length
      · subst new
        rw [if_pos rfl] at started
        have noted :
            h.entries m now op (h.runningRef d.applicationId) = [d.startEntry now.date] := by
          have absent : h.instance? (h.runningRef d.applicationId) = none := absent
          simp only [entries, absent, made, if_true]
        refine noted ▸ .launched absent starts ?_ ?_
        · rw [instance?, after]
          exact started
        · rw [runningRef, after]
          rfl
      · rw [if_neg new] at started
        rw [entries_of_absent absent]
        · refine .absent absent ?_
          rw [instance?, after]
          exact started.trans absent
        · rintro other same here
          cases made.symm.trans same
          exact new (congrArg InstanceRef.launch here).symm

theorem passage (h : Host) (m : Manifest) (now : Moment) (op : Operation) (ref : InstanceRef) :
    h.Passage m now op ref (h.entries m now op ref) := by
  cases before : h.instance? ref with
  | none => exact passage_of_absent m now op before
  | some i =>
    have after := instance?_perform h now op before
    by_cases last : ref = h.runningRef ref.applicationId
    · have runs : h.running? ref.applicationId = some i := by
        rw [last, instance?_runningRef] at before
        exact before
      have length := h.length_retired_perform now op ref.applicationId
      have launch := (h.eq_runningRef_iff ref).1 last
      cases stops : op.stops ref.applicationId with
      | true =>
        rw [Operation.effect_of_stops h now i stops, if_pos last] at after
        have stopped : (h.perform now op).isRunning ref.applicationId = false := by
          rw [isRunning, running?_perform_of_stops h now stops]
          rfl
        have noted : h.entries m now op ref = [.stopped now.date] := by
          simp [entries, before, ← last, stopped]
        rw [noted]
        refine .stopped before last after ?_
        rw [Ne, eq_runningRef_iff, length, stops, runs, launch]
        exact Nat.ne_of_lt (Nat.lt_succ_self _)
      | false =>
        rw [Operation.effect_of_not_stops h now i stops] at after
        have goesOn : (h.perform now op).isRunning ref.applicationId = true :=
          isSome_running?_of_not_stops (by rw [runs]; rfl) now stops
        have noted : h.entries m now op ref =
            if op.worksOn h ref then i.notes m now op else [] := by
          simp [entries, before, ← last, goesOn]
        rw [noted]
        refine .goesOn before last runs after ?_
        rw [eq_runningRef_iff, length, stops, launch]
        rfl
    · have nothing : h.entries m now op ref = [] := by
        simp only [entries, before]
        exact if_pos last
      obtain ⟨j, present, kept⟩ := log_perform_of_retired before last now op
      rw [nothing]
      exact .retired before last present kept (retired_perform before last now op)

/-! ### What is in a log -/

theorem log_eq_of_starts {d : Descriptor} {handler : Handler} (starts : h.Starts now d handler i) :
    i.log = (Log.new Log.defaultCapacity).push (d.startEntry now.date) :=
  Instance.holds_publishPages
    (p := fun i => i.log = (Log.new Log.defaultCapacity).push (d.startEntry now.date)) starts rfl
    fun _ _ same => same

theorem logOf_of_present (present : h.instance? ref = some i) : h.logOf ref = i.log := by
  rw [logOf, present]

theorem logOf_of_absent (absent : h.instance? ref = none) :
    h.logOf ref = .new Log.defaultCapacity := by
  rw [logOf, absent]

theorem logOf_perform (orderly : h.Orderly)
    (behaves : ∀ i, h.instance? ref = some i → i.handler = m.handler) (now : Moment)
    (op : Operation) :
    (h.perform now op).logOf ref = (h.entries m now op ref).foldl Log.push (h.logOf ref) := by
  have passed := h.passage m now op ref
  generalize h.entries m now op ref = written at passed ⊢
  cases passed with
  | absent before after =>
    rw [logOf_of_absent before, logOf_of_absent after]
    rfl
  | launched before starts after runs =>
    rw [logOf_of_absent before, logOf_of_present after, log_eq_of_starts starts]
    rfl
  | goesOn before last runs after still =>
    have sound := (orderly ref.applicationId).running _ runs
    rw [logOf_of_present before, logOf_of_present after]
    split
    · exact Instance.log_perform (behaves _ before) sound.up now op
    · rfl
  | stopped before last after ends =>
    rw [logOf_of_present before, logOf_of_present after]
    rfl
  | retired before past after kept still =>
    rw [logOf_of_present before, logOf_of_present after, kept]
    rfl

theorem logOf_run (orderly : h.Orderly) {operations : List (Moment × Operation)}
    (behaves : ∀ i, (h.run operations).instance? ref = some i → i.handler = m.handler) :
    (h.run operations).logOf ref =
      (h.chronicle m ref operations).foldl Log.push (h.logOf ref) := by
  induction operations generalizing h with
  | nil => rfl
  | cons o rest ih =>
    obtain ⟨now, op⟩ := o
    have behaved : ∀ i, h.instance? ref = some i → i.handler = m.handler := by
      intro i present
      obtain ⟨j, later, same⟩ := instance?_run present ((now, op) :: rest)
      exact same.symm.trans (behaves j later)
    rw [chronicle, List.foldl_append, ← logOf_perform orderly behaved]
    exact ih (orderly_perform orderly now op) behaves

/-- How far the entries of an instance have come: to its launch, through its run, or to its stop. -/
inductive Tells (h : Host) (ref : InstanceRef) : List LogEntry → Prop
  | absent (absent : h.instance? ref = none) : Tells h ref []
  | running {i : Instance} {d : Descriptor} {time : Instant} {middle : List LogEntry}
    (present : h.instance? ref = some i) (runs : ref = h.runningRef ref.applicationId)
    (own : ∀ entry ∈ middle, entry.level ≠ .runtime) : Tells h ref (d.startEntry time :: middle)
  | retired {i : Instance} {d : Descriptor} {time : Instant} {middle : List LogEntry}
    {finish : Instant} (present : h.instance? ref = some i)
    (past : ref ≠ h.runningRef ref.applicationId)
    (own : ∀ entry ∈ middle, entry.level ≠ .runtime) :
    Tells h ref (d.startEntry time :: (middle ++ [.stopped finish]))

theorem Tells.perform {history : List LogEntry} (tells : h.Tells ref history) (m : Manifest)
    (now : Moment) (op : Operation) :
    (h.perform now op).Tells ref (history ++ h.entries m now op ref) := by
  have passed := h.passage m now op ref
  generalize h.entries m now op ref = written at passed ⊢
  cases tells with
  | absent absent =>
    cases passed with
    | absent before after => exact .absent after
    | launched before starts after runs => exact .running after runs (by simp)
    | goesOn before _ _ _ _ | stopped before _ _ _ | retired before _ _ _ _ =>
      cases absent.symm.trans before
  | running present runs own =>
    cases passed with
    | absent before _ | launched before _ _ _ => cases present.symm.trans before
    | retired before past after kept still => exact absurd runs past
    | goesOn before _ _ after still =>
      refine .running after still fun entry member => ?_
      rcases List.mem_append.1 member with earlier | new
      · exact own entry earlier
      · split at new
        · exact Instance.level_of_mem_notes new
        · cases new
    | stopped before _ after ends => exact .retired after ends own
  | retired present past own =>
    cases passed with
    | absent before _ | launched before _ _ _ => cases present.symm.trans before
    | goesOn _ last _ _ _ | stopped _ last _ _ => exact absurd last past
    | retired before _ after kept still =>
      rw [List.append_nil]
      exact .retired after still own

theorem Tells.run {history : List LogEntry} (tells : h.Tells ref history) (m : Manifest)
    (operations : List (Moment × Operation)) :
    (h.run operations).Tells ref (history ++ h.chronicle m ref operations) := by
  induction operations generalizing h history with
  | nil =>
    rw [chronicle, List.append_nil]
    exact tells
  | cons o rest ih =>
    rw [chronicle, ← List.append_assoc]
    exact ih (tells.perform m o.1 o.2)

/-- The log of an instance that behaves as a manifest says, after any run, has the newest thousand
of all the entries that the run wrote to it, the oldest first. These begin with the one of its
launch, and end with the one of its stop if it was stopped; each one between was left by a call that
its code failed to answer, or by an event that found a listener. -/
theorem log_of_manifest (options : HostOptions) (operations : List (Moment × Operation))
    (present : ((new options).run operations).instance? ref = some i)
    (behaves : i.handler = m.handler) :
    let h := (new options).run operations
    let history := (new options).chronicle m ref operations
    i.log.entries = history.rtake 1000 ∧
      ∃ (d : Descriptor) (time : Instant) (middle : List LogEntry),
        (∀ entry ∈ middle, entry.level ≠ .runtime) ∧
        (ref = h.runningRef ref.applicationId → history = d.startEntry time :: middle) ∧
        (ref ≠ h.runningRef ref.applicationId →
          ∃ finish, history = d.startEntry time :: (middle ++ [.stopped finish])) := by
  intro h history
  constructor
  · have behave : ∀ j, h.instance? ref = some j → j.handler = m.handler := by
      intro j same
      cases present.symm.trans same
      exact behaves
    have written : h.logOf ref = history.foldl Log.push ((new options).logOf ref) :=
      logOf_run (orderly_new options) behave
    have capacity : max Log.defaultCapacity 1 = 1000 := by decide
    have absent : (new options).instance? ref = none := rfl
    rw [logOf_of_present present, logOf_of_absent absent, Log.foldl_push, capacity] at written
    rw [written]
  · have tells : h.Tells ref ([] ++ history) := Tells.run (.absent rfl) m operations
    rw [List.nil_append] at tells
    generalize history = written at tells ⊢
    cases tells with
    | absent absent => cases present.symm.trans absent
    | running _ runs own => exact ⟨_, _, _, own, fun _ => rfl, fun past => absurd runs past⟩
    | retired _ past own => exact ⟨_, _, _, own, fun runs => absurd runs past, fun _ => ⟨_, rfl⟩⟩

/-- Of two calls and two events one each is noted; the page that is published and what is sent to
all are not. -/
theorem log_of_manifest_stopped :
    let m : Manifest := ⟨"a", true, false, some ⟨1704067200, 0, by decide⟩,
      .empty, .empty, Dictionary.empty.insert "hello" ⟨.all, some "bye"⟩⟩
    let now : Moment := ⟨⟨0, 0, by decide⟩, 0⟩
    let operations := [(now, .register m), (now, .launch "a" none),
      (now, .publishPage "a" ⟨"p", "p.html", "P"⟩), (now, .subscribe ⟨"a", "p"⟩),
      (now, .trigger ⟨"a", "p", "hello", ["1"]⟩), (now, .trigger ⟨"a", "p", "other", []⟩),
      (now, .invoke ⟨"a", "x", ["1,"]⟩), (now, .invoke ⟨"a", "x", []⟩),
      (now, .emitToAll "a" ⟨"news", []⟩), (now, .stop "a")]
    (((new .default).run operations).instance? ⟨"a", 0⟩).map (·.log.entries) = some [
      ⟨now.date, .runtime, "application instance started at version 2024-01-01T00:00:00+00:00"⟩,
      ⟨now.date, .info, "hello from page p answered with bye (1 stream(s))"⟩,
      ⟨now.date, .warn, "method x failed: unknown method: x"⟩,
      ⟨now.date, .runtime, "application instance stopped"⟩] := by
  intro m now operations
  let start : Instance := .start "a" m.version m.handler HostOptions.default.eventBuffer now.date
  have launched : ((new .default).run (operations.take 2)).instance? ⟨"a", 0⟩ = some start := rfl
  obtain ⟨i, present, behaves⟩ := instance?_run launched (operations.drop 2)
  have whole : ((new .default).run (operations.take 2)).run (operations.drop 2) =
      (new .default).run operations := List.foldl_append.symm
  rw [whole] at present
  have behaves : i.handler = m.handler := behaves
  obtain ⟨newest, -⟩ := log_of_manifest .default operations present behaves
  rw [present, Option.map_some, newest]
  decide +kernel

end Host
end AppHost
