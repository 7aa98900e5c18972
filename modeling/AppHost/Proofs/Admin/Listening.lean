import AppHost.Proofs.Admin.EventSource
import AppHost.Proofs.Host.Watching
import AppHost.Proofs.Hub.Backlog
import AppHost.Proofs.Json.Controls

/-!
What a listener gets from its opening on. As long as no more events wait for it than the feed keeps, it
reads one frame for each launch and stop, in their order, and the data of each frame are the JSON object
of the event, whatever its ids and titles say.
-/

set_option autoImplicit false
namespace AppHost

/-! ### The object of an event -/

namespace LifecycleEvent
open Json (Value)
open Admin

theorem kind_eq (e : LifecycleEvent) : e.kind = "launched" ∨ e.kind = "stopped" := by
  cases e with
  | launched a => exact .inl rfl
  | stopped a => exact .inr rfl

theorem kind_ne (e : LifecycleEvent) : e.kind ≠ "" := by
  rcases kind_eq e with kind | kind <;> rw [kind] <;> decide

theorem inOneLine_kind (e : LifecycleEvent) : EventSource.InOneLine e.kind.toList := by
  rcases kind_eq e with kind | kind <;> rw [kind] <;>
    exact EventSource.inOneLine_of_all (by decide)

def pageObject (p : Page) : Value :=
  .object [("file_name", .string p.fileName), ("id", .string p.id), ("title", .string p.title)]

def object (e : LifecycleEvent) : Value :=
  .object ([("application_id", .string e.application.applicationId)] ++
    (e.application.version.map fun v => ("application_version", .string v.text)).toList ++
    [("pages", .array (e.application.pages.map pageObject)),
      ("started_at", .string e.application.startedAt.text), ("type", .string e.kind)])

theorem sorted_page (p : Page) : p.toJson.sorted = pageObject p := by
  simp only [Page.toJson, pageObject, Value.sorted, Value.sortedFields_eq, List.map, Value.arrange,
    List.foldl, Entries.insert, String.reduceLT, String.reduceEq, if_true, if_false]

theorem sorted_pages (pages : List Page) :
    (Value.array (pages.map Page.toJson)).sorted = .array (pages.map pageObject) := by
  rw [Value.sorted, Value.sortedItems_eq, List.map_map]
  exact congrArg Value.array (List.map_congr_left fun p _ => sorted_page p)

theorem sorted_toJson (e : LifecycleEvent) : e.toJson.sorted = e.object := by
  unfold toJson object RunningApplication.fields
  rw [← sorted_pages]
  generalize Value.array (e.application.pages.map Page.toJson) = pages
  cases e.application.version <;>
    simp only [Option.map, Option.toList, List.cons_append, List.nil_append, Value.sorted,
      Value.sortedFields_eq, List.map, Value.arrange, List.foldl, Entries.insert, String.reduceLT,
      String.reduceEq, if_true, if_false]

theorem whole_pages (pages : List Page) : (Value.array (pages.map Page.toJson)).Whole :=
  Value.wholeItems_iff.2 (List.forall_mem_map.2 fun _ _ => ⟨trivial, trivial, trivial, trivial⟩)

theorem whole_toJson (e : LifecycleEvent) : e.toJson.Whole := by
  have pages := whole_pages e.application.pages
  unfold toJson RunningApplication.fields
  cases e.application.version with
  | none => exact ⟨trivial, trivial, trivial, pages, trivial⟩
  | some v => exact ⟨trivial, trivial, trivial, trivial, pages, trivial⟩

theorem depth_pages_le (pages : List Page) : (Value.array (pages.map Page.toJson)).depth ≤ 2 :=
  Nat.succ_le_succ (Value.depthItems_le_iff.2 (List.forall_mem_map.2 fun _ _ => Nat.le_refl 1))

theorem depth_toJson_le (e : LifecycleEvent) : e.toJson.depth ≤ 3 := by
  have pages := depth_pages_le e.application.pages
  refine Nat.succ_le_succ (Value.depthFields_le_iff.2 ?_)
  unfold RunningApplication.fields
  cases e.application.version <;> simpa [Value.depth] using pages

theorem parse_toJson (e : LifecycleEvent) : Json.parse e.toJson.text = .ok e.object := by
  have shallow := Nat.lt_of_le_of_lt e.depth_toJson_le (show 3 < Json.nestingLimit by decide)
  rw [Json.parse_text e.whole_toJson shallow, sorted_toJson]

end LifecycleEvent

/-! ### The pages of an event -/

namespace Host
variable {h : Host} {e : LifecycleEvent}

theorem pages_ascending_of_announced (orderly : h.Orderly) {now : Moment} {op : Operation}
    (told : e ∈ h.announced now op) : (e.application.pages.map (·.id)).Pairwise (· < ·) := by
  obtain ⟨id, -, told⟩ := List.mem_flatMap.1 told
  rcases mem_told told with ⟨i, runs, rfl⟩ | ⟨i, runs, rfl⟩
  · exact ((orderly_perform orderly now op id).running i runs).pages_ascending
  · exact ((orderly id).running i runs).pages_ascending

theorem pages_ascending_of_announcements (orderly : h.Orderly)
    {operations : List (Moment × Operation)} (told : e ∈ h.announcements operations) :
    (e.application.pages.map (·.id)).Pairwise (· < ·) := by
  induction operations generalizing h with
  | nil => cases told
  | cons o rest ih =>
    obtain now | later := List.mem_append.1 told
    · exact pages_ascending_of_announced orderly now
    · exact ih (orderly_perform orderly o.1 o.2) later

end Host

namespace Admin
open EventSource (ReadsAs)

/-! ### What a listener gets at once -/

theorem readsAs_ofEvent (e : LifecycleEvent) :
    ReadsAs (Frame.ofEvent e).text.toList [Frame.ofEvent e] := by
  refine EventSource.readsAs_frame e.kind_ne e.inOneLine_kind ?_
  have printed := Json.Value.printed_chars e.whole_toJson
  rw [Frame.ofEvent, Json.Value.text, String.toList_ofList]
  exact printed.not_mem (by decide)

theorem readsAs_aliveText : ReadsAs Listener.aliveText.toList [] := by
  have text : Listener.aliveText.toList = EventSource.terminated [':' :: " keepalive".toList, []] := by
    decide
  rw [text]
  exact EventSource.readsAs_comment (EventSource.inOneLine_of_all (by decide))

namespace Listener
variable {h : Host} {l : Listener} {waiting : List LifecycleEvent}

theorem take_of_awaits (awaits : h.lifecycle.Awaits l.position waiting)
    (fits : waiting.length ≤ h.lifecycle.capacity) (now : Nat) :
    ReadsAs (l.take h now).1.toList ((waiting.take 1).map .ofEvent) ∧
      h.lifecycle.Awaits (l.take h now).2.position waiting.tail := by
  cases waiting with
  | nil =>
    obtain ⟨next, read, caughtUp⟩ := awaits.read_nil
    rw [take, read]
    dsimp only
    split
    · exact ⟨readsAs_aliveText, caughtUp⟩
    · exact ⟨.nil, caughtUp⟩
  | cons e waiting =>
    obtain ⟨next, read, awaits⟩ := awaits.read_cons fits
    rw [take, read]
    exact ⟨readsAs_ofEvent e, awaits⟩

theorem takes_of_awaits (awaits : h.lifecycle.Awaits l.position waiting)
    (fits : waiting.length ≤ h.lifecycle.capacity) (now turns : Nat) :
    ReadsAs (l.takes h now turns).1.toList ((waiting.take turns).map .ofEvent) ∧
      h.lifecycle.Awaits (l.takes h now turns).2.position (waiting.drop turns) := by
  induction turns generalizing l waiting with
  | zero => exact ⟨.nil, awaits⟩
  | succ turns ih =>
    obtain ⟨first, next⟩ := take_of_awaits awaits fits now
    have fewer : waiting.tail.length ≤ h.lifecycle.capacity :=
      Nat.le_trans (List.length_tail ▸ Nat.sub_le _ 1) fits
    obtain ⟨rest, last⟩ := ih next fewer
    have taken : waiting.take (turns + 1) = waiting.take 1 ++ waiting.tail.take turns := by
      cases waiting <;> simp
    rw [takes, taken, ← List.drop_tail, List.map_append, String.toList_append]
    exact ⟨first.append rest, last⟩

theorem drain_of_awaits (awaits : h.lifecycle.Awaits l.position waiting)
    (fits : waiting.length ≤ h.lifecycle.capacity) (now : Nat) :
    ReadsAs (l.drain h now).1.toList (waiting.map .ofEvent) ∧
      h.lifecycle.Awaits (l.drain h now).2.position [] := by
  have enough := Nat.le_add_right_of_le (k := 2) (awaits.length_le fits)
  have all := takes_of_awaits awaits fits now (h.lifecycle.kept.length + 2)
  rwa [List.take_of_length_le enough, List.drop_of_length_le enough] at all

end Listener

/-! ### What a listener gets from its opening on -/

/-- What happens while a listener is there: an operation, or the listener takes one event or all that
wait for it. -/
inductive Listening
  | perform (now : Moment) (op : Operation)
  | take (now : Nat)
  | drain (now : Nat)

namespace Listening

def operations (steps : List Listening) : List (Moment × Operation) :=
  steps.filterMap fun
    | .perform now op => some (now, op)
    | .take _ | .drain _ => none

def received (h : Host) (l : Listener) : List Listening → String
  | [] => ""
  | .perform now op :: rest => received (h.perform now op) l rest
  | .take now :: rest => (l.take h now).1 ++ received h (l.take h now).2 rest
  | .drain now :: rest => (l.drain h now).1 ++ received h (l.drain h now).2 rest

/-- The events that wait for the listener in the end, if these do at first. -/
def unread (h : Host) (waiting : List LifecycleEvent) : List Listening → List LifecycleEvent
  | [] => waiting
  | .perform now op :: rest => unread (h.perform now op) (waiting ++ h.announced now op) rest
  | .take _ :: rest => unread h waiting.tail rest
  | .drain _ :: rest => unread h [] rest

/-- At no time more events wait for the listener than the feed keeps. -/
def KeepsUp (h : Host) (waiting : List LifecycleEvent) (steps : List Listening) : Prop :=
  ∀ front, front <+: steps → (unread h waiting front).length ≤ Host.lifecycleCapacity

variable {h : Host} {l : Listener} {waiting : List LifecycleEvent} {steps : List Listening}

theorem KeepsUp.now (keepsUp : KeepsUp h waiting steps) :
    waiting.length ≤ Host.lifecycleCapacity :=
  keepsUp [] List.nil_prefix

theorem KeepsUp.later {step : Listening} (keepsUp : KeepsUp h waiting (step :: steps)) :
    match step with
    | .perform now op => KeepsUp (h.perform now op) (waiting ++ h.announced now op) steps
    | .take _ => KeepsUp h waiting.tail steps
    | .drain _ => KeepsUp h [] steps := by
  have later (front : List Listening) (leads : front <+: steps) :
      (unread h waiting (step :: front)).length ≤ Host.lifecycleCapacity :=
    keepsUp (step :: front) (List.cons_prefix_cons.2 ⟨rfl, leads⟩)
  cases step <;> exact later

theorem unread_of_drained (h : Host) (waiting : List LifecycleEvent) (front : List Listening)
    (now : Nat) : unread h waiting (front ++ [.drain now]) = [] := by
  induction front generalizing h waiting with
  | nil => rfl
  | cons step front ih =>
    cases step <;> exact ih _ _

/-- What a listener that keeps up has got are the frames of all that was told and does not wait. -/
theorem readsAs_received (capacity : h.lifecycle.capacity = Host.lifecycleCapacity)
    (awaits : h.lifecycle.Awaits l.position waiting) (keepsUp : KeepsUp h waiting steps) :
    ∃ read, waiting ++ h.announcements (operations steps) = read ++ unread h waiting steps ∧
      ReadsAs (received h l steps).toList (read.map .ofEvent) := by
  induction steps generalizing h l waiting with
  | nil => exact ⟨[], by simp [operations, Host.announcements, unread], .nil⟩
  | cons step rest ih =>
    cases step with
    | perform now op =>
      have told := h.lifecycle_perform now op
      have same : (h.perform now op).lifecycle.capacity = Host.lifecycleCapacity := by
        rw [told, Feed.capacity_sendAll, capacity]
      have next : (h.perform now op).lifecycle.Awaits l.position (waiting ++ h.announced now op) := by
        rw [told]
        exact awaits.sendAll _
      obtain ⟨read, all, reads⟩ := ih same next keepsUp.later
      rw [List.append_assoc] at all
      exact ⟨read, all, reads⟩
    | take now =>
      obtain ⟨text, next⟩ := Listener.take_of_awaits awaits (capacity ▸ keepsUp.now) now
      obtain ⟨read, all, reads⟩ := ih capacity next keepsUp.later
      refine ⟨waiting.take 1 ++ read, ?_, ?_⟩
      · rw [List.append_assoc, unread, ← all, ← List.append_assoc, ← List.drop_one,
          List.take_append_drop]
        rfl
      · rw [received, String.toList_append, List.map_append]
        exact text.append reads
    | drain now =>
      obtain ⟨text, caughtUp⟩ := Listener.drain_of_awaits awaits (capacity ▸ keepsUp.now) now
      obtain ⟨read, all, reads⟩ := ih capacity caughtUp keepsUp.later
      rw [List.nil_append] at all
      refine ⟨waiting ++ read, ?_, ?_⟩
      · rw [List.append_assoc]
        exact congrArg (waiting ++ ·) all
      · rw [received, String.toList_append, List.map_append]
        exact text.append reads

theorem keepsUp_of_few
    (few : waiting.length + (h.announcements (operations steps)).length ≤ Host.lifecycleCapacity) :
    KeepsUp h waiting steps := by
  induction steps generalizing h waiting with
  | nil =>
    intro front leads
    rw [List.prefix_nil.1 leads]
    exact Nat.le_trans (Nat.le_add_right _ _) few
  | cons step rest ih =>
    intro front leads
    cases front with
    | nil => exact Nat.le_trans (Nat.le_add_right _ _) few
    | cons first front =>
      obtain ⟨same, inside⟩ := List.cons_prefix_cons.1 leads
      subst same
      cases first with
      | perform now op =>
        refine ih ?_ front inside
        rw [List.length_append, Nat.add_assoc, ← List.length_append]
        exact few
      | take now =>
        refine ih ?_ front inside
        rw [List.length_tail]
        exact Nat.le_trans (Nat.add_le_add_right (Nat.sub_le _ 1) _) few
      | drain now =>
        refine ih ?_ front inside
        rw [List.length_nil, Nat.zero_add]
        exact Nat.le_of_add_left_le few

end Listening

/-- A frame tells an event: its data are the JSON object of the event, with the pages in the order of
their ids. -/
structure Frame.Tells (f : Frame) (e : LifecycleEvent) : Prop where
  kind : f.event = e.kind
  data : Json.parse f.data = .ok e.object
  pages : (e.application.pages.map (·.id)).Pairwise (· < ·)

open Listening

/-- What a listener reads that keeps up: one frame for each launch and stop since it came, in their
order, but for those that wait for it still; and none waits once it got what there was. -/
theorem frames_tell_events (options : HostOptions) (before : List (Moment × Operation))
    (opened : Nat) (steps : List Listening) :
    let h := (Host.new options).run before
    KeepsUp h [] steps →
      ∃ read, h.announcements (operations steps) = read ++ unread h [] steps ∧
        List.Forall₂ Frame.Tells
          (EventSource.frames (Text.encodeUtf8 (received h (.start h opened) steps))) read ∧
        ∀ front now, steps = front ++ [.drain now] → read = h.announcements (operations steps) := by
  intro h keepsUp
  have orderly : h.Orderly := Host.orderly_run (Host.orderly_new options) before
  have capacity : h.lifecycle.capacity = Host.lifecycleCapacity := by
    rw [Host.lifecycle_run, Feed.capacity_sendAll]
    rfl
  obtain ⟨read, all, reads⟩ :=
    readsAs_received (l := .start h opened) capacity h.lifecycle.awaits_sent keepsUp
  rw [List.nil_append] at all
  refine ⟨read, all, ?_, ?_⟩
  · rw [ReadsAs.frames reads, List.forall₂_map_left_iff, List.forall₂_same]
    intro e member
    have told : e ∈ h.announcements (operations steps) := by
      rw [all]
      exact List.mem_append_left _ member
    exact ⟨rfl, e.parse_toJson, Host.pages_ascending_of_announcements orderly told⟩
  · rintro front now rfl
    rw [all, unread_of_drained, List.append_nil]

-- Line breaks and quotes in names, and a title that looks like a frame.
theorem frames_tell_events_of_broken_names :
    let handler : Handler := ⟨fun _ _ _ => .done (.ok .null), Handler.ignoreEvent⟩
    let now : Moment := ⟨⟨0, 0, by decide⟩, 0⟩
    let a : RunningApplication :=
      ⟨"a\n\"b\"", none, now.date, [⟨"p\r\np", "p.html", "P\n\nevent: stopped\ndata: \n\n"⟩]⟩
    let launch : Operation := .launchWith ⟨a.applicationId, none, a.pages⟩ handler
    let steps : List Listening := [.perform now launch, .perform now (.stop a.applicationId),
      .take 0, .drain 20000]
    let h := Host.new .default
    KeepsUp h [] steps ∧ List.Forall₂ Frame.Tells
      (EventSource.frames (Text.encodeUtf8 (received h (.start h 0) steps)))
      [.launched a, .stopped a] := by
  intro handler now a launch steps h
  have launched : h.announced now launch = [.launched a] := rfl
  have stopped : (h.perform now launch).announced now (.stop a.applicationId) = [.stopped a] := by
    dsimp only [h, launch, a]
    rfl
  have told : h.announcements (operations steps) = [.launched a, .stopped a] := by
    change h.announced now launch ++
      ((h.perform now launch).announced now (.stop a.applicationId) ++ []) = _
    rw [launched, stopped]
    rfl
  have keepsUp : KeepsUp h [] steps := keepsUp_of_few (by rw [told]; decide)
  obtain ⟨read, -, frames, all⟩ := frames_tell_events .default [] 0 steps keepsUp
  have same : read = [.launched a, .stopped a] := (all (steps.take 3) 20000 rfl).trans told
  rw [same] at frames
  exact ⟨keepsUp, frames⟩

end Admin
end AppHost
