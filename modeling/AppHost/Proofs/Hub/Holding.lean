import AppHost.Proofs.Hub.Standing

/-!
What a hub keeps for readers is what was sent. So what holds of all events that are sent holds of
all that are kept, on open pages and on closed ones, and of all that are received.
-/

set_option autoImplicit false
namespace AppHost

theorem Feed.mem_kept_send {α : Type} {f : Feed α} {message content : α}
    (kept : content ∈ (f.send message).kept) : content = message ∨ content ∈ f.kept := by
  rcases List.mem_append.1 (List.mem_of_mem_drop kept) with before | last
  · exact .inr before
  · exact .inl (List.mem_singleton.1 last)

theorem Feed.mem_kept_of_read {α : Type} {f : Feed α} {position : Nat} {content : α}
    (read : (f.read position).1 = .message content) : content ∈ f.kept := by
  unfold Feed.read at read
  split at read
  · cases read
  · split at read
    · rename_i message found
      cases read
      exact List.mem_of_getElem? found
    · cases read

def HubStep.event? : HubStep → Option ApplicationEvent
  | .emitToPage _ event => some event
  | .emitToAll event => some event
  | _ => none

namespace Hub

structure Holds (p : ApplicationEvent → Prop) (h : Hub) : Prop where
  live : ∀ page feed, h.pages.find? page = some feed → ∀ event ∈ feed.kept, p event
  final : ∀ s, some s ∈ h.subscriptions → ∀ feed, s.source = .final feed →
    ∀ event ∈ feed.kept, p event

variable {p : ApplicationEvent → Prop} {h : Hub}

theorem holds_new (applicationId : String) (buffer : Nat) : (new applicationId buffer).Holds p where
  live page feed found := by cases found
  final s present := by cases present

theorem mem_of_subscription? {number : Nat} {s : Subscription}
    (present : h.subscription? number = some s) : some s ∈ h.subscriptions :=
  List.mem_of_getElem? (Option.join_eq_some_iff.1 present)

theorem holds_openPage (holds : h.Holds p) (page : String) : (h.openPage page).Holds p := by
  unfold openPage
  split
  · exact holds
  · refine ⟨fun other feed found event kept => ?_, holds.final⟩
    rw [Dictionary.find?_insert] at found
    split at found
    · cases found
      cases kept
    · exact holds.live other feed found event kept

theorem holds_closePage (holds : h.Holds p) (page : String) : (h.closePage page).2.Holds p := by
  refine ⟨fun other feed found => ?_, ?_⟩
  · rw [pages_closePage] at found
    split at found
    · cases found
    · exact holds.live other feed found
  · unfold closePage
    cases found : h.pages.find? page with
    | none => exact holds.final
    | some last =>
      intro s present feed source
      obtain ⟨place, before, left⟩ := List.mem_map.1 present
      obtain ⟨subscription, rfl, rfl⟩ := Option.map_eq_some_iff.1 left
      unfold Subscription.detach at source
      split at source
      · cases source
        exact holds.live page last found
      · exact holds.final subscription before feed source

theorem holds_closeAll (holds : h.Holds p) : h.closeAll.Holds p := by
  have down : h.shutDown.Holds p := ⟨holds.live, holds.final⟩
  unfold closeAll clear
  generalize h.shutDown.pages.keys = pages
  generalize h.shutDown = hub at down
  induction pages generalizing hub with
  | nil => exact down
  | cons page rest ih => exact ih _ (holds_closePage down page)

theorem holds_put (holds : h.Holds p) (number : Nat) {place : Option Subscription}
    (same : ∀ s, place = some s → ∃ before, some before ∈ h.subscriptions ∧
      before.source = s.source) : (h.put number place).Holds p := by
  refine ⟨holds.live, fun s present feed source => ?_⟩
  rcases List.mem_or_eq_of_mem_set present with old | new
  · exact holds.final s old feed source
  · obtain ⟨before, stood, sources⟩ := same s new.symm
    exact holds.final before stood feed (sources.trans source)

theorem holds_step (holds : h.Holds p) {a : HubStep} (sent : ∀ event ∈ a.event?, p event) :
    (h.step a).Holds p := by
  cases a with
  | openPage page => exact holds_openPage holds page
  | closePage page => exact holds_closePage holds page
  | subscribe page =>
    rw [step]
    obtain same | ⟨feed, -, -, same⟩ := h.subscribe_cases page
    · rwa [same]
    · rw [same]
      refine ⟨holds.live, fun s present last source => ?_⟩
      rcases List.mem_append.1 present with old | new
      · exact holds.final s old last source
      · cases List.mem_singleton.1 new
        cases source
  | emitToPage page event =>
    simp only [step]
    cases found : h.pages.find? page with
    | none =>
      have same : (h.emitToPage page event).2 = h := by simp [emitToPage, found]
      rwa [same]
    | some feed =>
      rw [emitToPage_of_found found]
      refine ⟨fun other after present content kept => ?_, holds.final⟩
      rw [Dictionary.find?_insert] at present
      split at present
      · cases present
        rcases Feed.mem_kept_send kept with rfl | before
        · exact sent content rfl
        · exact holds.live page feed found content before
      · exact holds.live other after present content kept
  | emitToAll event =>
    refine ⟨fun page after present content kept => ?_, holds.final⟩
    obtain ⟨feed, found, rfl⟩ :=
      Option.map_eq_some_iff.1 ((Dictionary.find?_map _ _ _).symm.trans present)
    rcases Feed.mem_kept_send kept with rfl | before
    · exact sent content rfl
    · exact holds.live page feed found content before
  | receive number =>
    simp only [step]
    cases present : h.subscription? number with
    | none => rwa [receive_of_absent present]
    | some s =>
      rw [receive_of_present present]
      refine holds_put holds number fun after moved => ⟨s, mem_of_subscription? present, ?_⟩
      cases moved
      rfl
  | unsubscribe number => exact holds_put holds number fun s same => by cases same
  | closeAll => exact holds_closeAll holds

theorem holds_run (holds : h.Holds p) {steps : List HubStep}
    (sent : ∀ a ∈ steps, ∀ event ∈ a.event?, p event) : (h.run steps).Holds p := by
  induction steps generalizing h with
  | nil => exact holds
  | cons a rest ih =>
    obtain ⟨now, later⟩ := List.forall_mem_cons.1 sent
    exact ih (holds_step holds now) later

theorem holds_received (holds : h.Holds p) {number : Nat} {event : ApplicationEvent}
    (received : (h.receive number).1 = .message event) : p event := by
  cases present : h.subscription? number with
  | none =>
    rw [receive_of_absent present] at received
    cases received
  | some s =>
    rw [receive_of_present present] at received
    have final := holds.final s (mem_of_subscription? present)
    obtain ⟨page, position, source⟩ := s
    dsimp only [next, feedOf] at received
    split at received
    · cases received
    · cases source with
      | final feed =>
        dsimp only at received
        split at received
        · cases received
        · exact final feed rfl event (Feed.mem_kept_of_read received)
      | live =>
        cases found : h.pages.find? page with
        | none =>
          rw [found] at received
          cases received
        | some feed =>
          rw [found] at received
          exact holds.live page feed found event (Feed.mem_kept_of_read received)

end Hub
end AppHost
