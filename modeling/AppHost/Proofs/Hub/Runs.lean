import AppHost.Proofs.Hub.Standing

/-!
Runs of a hub. Each operation leaves the hub coherent, and a subscription stands after it as its
standing before tells; so it does after any number of operations.
-/

set_option autoImplicit false
namespace AppHost

namespace Hub
variable {h : Hub}

theorem capacity_closePage (h : Hub) (page : String) :
    (h.closePage page).2.capacity = h.capacity := by
  unfold closePage
  split <;> rfl

theorem capacity_clear (h : Hub) : h.clear.capacity = h.capacity := by
  unfold clear
  generalize h.pages.keys = pages
  induction pages generalizing h with
  | nil => rfl
  | cons page rest ih => rw [List.foldl_cons, ih, capacity_closePage]

theorem capacity_step (h : Hub) (a : HubStep) : (h.step a).capacity = h.capacity := by
  cases a with
  | openPage page =>
    simp only [step, openPage]
    split <;> rfl
  | closePage page => exact capacity_closePage h page
  | subscribe page =>
    rw [step]
    obtain same | ⟨feed, -, -, same⟩ := h.subscribe_cases page <;> rw [same]
    rfl
  | emitToPage page event =>
    simp only [step, emitToPage]
    split <;> rfl
  | emitToAll event => rfl
  | receive number =>
    simp only [step, receive]
    split <;> rfl
  | unsubscribe number => rfl
  | closeAll => exact capacity_clear h.shutDown

theorem isShutDown_step (h : Hub) {a : HubStep} (running : a ≠ .closeAll) :
    (h.step a).isShutDown = h.isShutDown := by
  cases a with
  | openPage page =>
    simp only [step, openPage]
    split <;> rfl
  | closePage page => exact isShutDown_closePage h page
  | subscribe page =>
    rw [step]
    obtain same | ⟨feed, -, -, same⟩ := h.subscribe_cases page <;> rw [same]
    rfl
  | emitToPage page event =>
    simp only [step, emitToPage]
    split <;> rfl
  | emitToAll event => rfl
  | receive number =>
    simp only [step, receive]
    split <;> rfl
  | unsubscribe number => rfl
  | closeAll => exact absurd rfl running

theorem isShutDown_clear (h : Hub) : h.clear.isShutDown = h.isShutDown := by
  unfold clear
  generalize h.pages.keys = pages
  induction pages generalizing h with
  | nil => rfl
  | cons page rest ih => rw [List.foldl_cons, ih, isShutDown_closePage]

theorem isShutDown_closeAll (h : Hub) : h.closeAll.isShutDown = true := isShutDown_clear h.shutDown

theorem coherent_openPage (coherent : h.Coherent) (page : String) : (h.openPage page).Coherent := by
  unfold openPage
  split
  · exact coherent
  · rename_i absent
    refine ⟨fun other feed found => ?_, fun number s present source => ?_⟩
    · rw [Dictionary.find?_insert] at found
      split at found
      · cases found
        rfl
      · exact coherent.capacity other feed found
    · obtain ⟨feed, found, reached⟩ := coherent.live number s present source
      have other : page ≠ s.page := by
        rintro rfl
        exact absent (by simp [Dictionary.contains, found])
      refine ⟨feed, ?_, reached⟩
      rw [Dictionary.find?_insert, if_neg other, found]

theorem detach_live {s : Subscription} {page : String} {feed : Feed ApplicationEvent}
    (live : (s.detach page feed).source = .live) : s.detach page feed = s ∧ s.page ≠ page := by
  unfold Subscription.detach at live ⊢
  split at live
  · cases live
  · rename_i elsewhere
    rw [if_neg elsewhere]
    refine ⟨rfl, fun same => elsewhere ?_⟩
    simp [Subscription.isLiveOn, live, same]

theorem coherent_closePage (coherent : h.Coherent) (page : String) :
    (h.closePage page).2.Coherent := by
  refine ⟨fun other feed found => ?_, fun number s present source => ?_⟩
  · rw [pages_closePage] at found
    split at found
    · cases found
    · rw [capacity_closePage]
      exact coherent.capacity other feed found
  · rw [subscription?_closePage] at present
    -- Who is still live afterwards reads another page than the one that is closed.
    cases isOpen : h.pages.find? page with
    | none =>
      simp only [isOpen] at present
      obtain ⟨feed, found, reached⟩ := coherent.live number s present source
      have other : page ≠ s.page := by
        rintro rfl
        rw [isOpen] at found
        cases found
      exact ⟨feed, by rw [pages_closePage, if_neg other, found], reached⟩
    | some last =>
      simp only [isOpen] at present
      obtain ⟨before, found, rfl⟩ := Option.map_eq_some_iff.1 present
      obtain ⟨same, other⟩ := detach_live source
      rw [same] at source ⊢
      obtain ⟨feed, found, reached⟩ := coherent.live number before found source
      exact ⟨feed, by rw [pages_closePage, if_neg (Ne.symm other), found], reached⟩

theorem coherent_send (coherent : h.Coherent) (event : ApplicationEvent)
    {pages : Dictionary (Feed ApplicationEvent)}
    (feeds : ∀ page, pages.find? page = h.pages.find? page ∨
      pages.find? page = (h.pages.find? page).map (·.send event)) :
    { h with pages := pages }.Coherent := by
  refine ⟨fun page feed found => ?_, fun number s present source => ?_⟩
  · rcases feeds page with same | sent
    · exact coherent.capacity page feed (same.symm.trans found)
    · obtain ⟨before, was, rfl⟩ := Option.map_eq_some_iff.1 (sent.symm.trans found)
      exact coherent.capacity page before was
  · obtain ⟨feed, found, reached⟩ := coherent.live number s present source
    rcases feeds s.page with same | sent
    · exact ⟨feed, same.trans found, reached⟩
    · refine ⟨feed.send event, by rw [sent, found, Option.map_some], ?_⟩
      exact Nat.le_succ_of_le reached

theorem coherent_put (coherent : h.Coherent) (number : Nat) {place : Option Subscription}
    (fits : ∀ s, place = some s → s.source = .live →
      ∃ feed, h.pages.find? s.page = some feed ∧ s.position ≤ feed.sent) :
    (h.put number place).Coherent := by
  refine ⟨coherent.capacity, fun other s present source => ?_⟩
  by_cases same : other = number
  · subst same
    have inside : other < h.subscriptions.length := by
      have := lt_of_subscription? present
      simpa [put] using this
    rw [subscription?_put_self place inside] at present
    exact fits s present source
  · rw [subscription?_put_of_ne h place same] at present
    exact coherent.live other s present source

theorem coherent_add (coherent : h.Coherent) {s : Subscription} {feed : Feed ApplicationEvent}
    (found : h.pages.find? s.page = some feed) (reached : s.position ≤ feed.sent) :
    (h.add s).Coherent := by
  refine ⟨coherent.capacity, fun number other present source => ?_⟩
  by_cases same : number = h.subscriptions.length
  · rw [same, subscription?_add_self] at present
    cases present
    exact ⟨feed, found, reached⟩
  · rw [subscription?_add_of_ne h s same] at present
    exact coherent.live number other present source

theorem coherent_receive (coherent : h.Coherent) (number : Nat) :
    (h.receive number).2.Coherent := by
  cases present : h.subscription? number with
  | none => rwa [receive_of_absent present]
  | some s =>
    rw [receive_of_present present]
    refine coherent_put coherent number fun after same source => ?_
    cases same
    obtain ⟨feed, found, reached⟩ := coherent.live number s present source
    refine ⟨feed, found, ?_⟩
    simp only at source
    unfold next
    split
    · exact reached
    · simp only [source, feedOf, found]
      exact feed.read_le_sent reached

theorem coherent_closeAll (coherent : h.Coherent) : h.closeAll.Coherent := by
  have down : h.shutDown.Coherent := ⟨coherent.capacity, coherent.live⟩
  unfold closeAll clear
  generalize h.shutDown.pages.keys = pages
  generalize h.shutDown = hub at down
  induction pages generalizing hub with
  | nil => exact down
  | cons page rest ih => exact ih _ (coherent_closePage down page)

theorem coherent_step (coherent : h.Coherent) (a : HubStep) : (h.step a).Coherent := by
  cases a with
  | openPage page => exact coherent_openPage coherent page
  | closePage page => exact coherent_closePage coherent page
  | subscribe page =>
    rw [step]
    obtain same | ⟨feed, -, found, same⟩ := h.subscribe_cases page
    · rwa [same]
    · rw [same]
      exact coherent_add coherent found (Nat.le_refl _)
  | emitToPage page event =>
    simp only [step]
    cases found : h.pages.find? page with
    | none =>
      have same : (h.emitToPage page event).2 = h := by simp [emitToPage, found]
      rwa [same]
    | some feed =>
      rw [emitToPage_of_found found]
      refine coherent_send coherent event fun other => ?_
      rw [Dictionary.find?_insert]
      split
      · rename_i same
        exact .inr (by rw [← same, found, Option.map_some])
      · exact .inl rfl
  | emitToAll event => exact coherent_send coherent event fun _ => .inr (Dictionary.find?_map _ _ _)
  | receive number => exact coherent_receive coherent number
  | unsubscribe number => exact coherent_put coherent number fun s same => by cases same
  | closeAll => exact coherent_closeAll coherent

/-- The standing of one subscription after an operation depends on nothing but its standing before. -/
theorem standing?_step (coherent : h.Coherent) {number : Nat} {s : Standing}
    (present : h.standing? number = some s) {a : HubStep} (kept : a ≠ .unsubscribe number) :
    (h.step a).standing? number = some (s.after h.capacity number a) := by
  cases a with
  | openPage page => exact (standing?_openPage coherent page number).trans present
  | closePage page =>
    exact (standing?_closePage h page number).trans (congrArg (Option.map _) present)
  | subscribe page =>
    rw [step]
    obtain same | ⟨feed, -, -, same⟩ := h.subscribe_cases page
    · rwa [same]
    · obtain ⟨subscription, found, -⟩ := Option.map_eq_some_iff.1 present
      rw [same, standing?,
        subscription?_add_of_ne _ _ (Nat.ne_of_lt (lt_of_subscription? found))]
      exact present
  | emitToPage page event =>
    exact (standing?_emitToPage coherent page event number).trans (congrArg (Option.map _) present)
  | emitToAll event =>
    exact (standing?_emitToAll coherent event number).trans (congrArg (Option.map _) present)
  | receive other =>
    by_cases same : other = number
    · subst same
      simp only [step, Standing.after, if_true]
      exact (receive_eq coherent present).2
    · simp only [step, Standing.after, same, if_false]
      exact (standing?_receive_of_ne (Ne.symm same)).trans present
  | unsubscribe other =>
    have different : number ≠ other := fun same => kept (same ▸ rfl)
    exact (standing?_unsubscribe_of_ne different).trans present
  | closeAll =>
    exact (standing?_closeAll h number).trans (congrArg (Option.map _) present)

theorem coherent_run (coherent : h.Coherent) (steps : List HubStep) : (h.run steps).Coherent := by
  induction steps generalizing h with
  | nil => exact coherent
  | cons a rest ih => exact ih (coherent_step coherent a)

theorem capacity_run (h : Hub) (steps : List HubStep) : (h.run steps).capacity = h.capacity := by
  induction steps generalizing h with
  | nil => rfl
  | cons a rest ih => rw [run_cons, ih, capacity_step]

theorem isShutDown_run (h : Hub) {steps : List HubStep} (running : .closeAll ∉ steps) :
    (h.run steps).isShutDown = h.isShutDown := by
  induction steps generalizing h with
  | nil => rfl
  | cons a rest ih =>
    obtain ⟨notAll, runningLater⟩ := not_or.1 (mt List.mem_cons.2 running)
    rw [run_cons, ih _ runningLater, isShutDown_step h (Ne.symm notAll)]

theorem isShutDown_run_of_isShutDown {h : Hub} (down : h.isShutDown = true)
    (steps : List HubStep) : (h.run steps).isShutDown = true := by
  induction steps generalizing h with
  | nil => exact down
  | cons a rest ih =>
    refine ih ?_
    by_cases all : a = .closeAll
    · rw [all]
      exact isShutDown_closeAll h
    · rw [isShutDown_step h all, down]

theorem standing?_run (coherent : h.Coherent) {number : Nat} {s : Standing}
    (present : h.standing? number = some s) {steps : List HubStep}
    (kept : .unsubscribe number ∉ steps) :
    (h.run steps).standing? number = some (steps.foldl (·.after h.capacity number) s) := by
  induction steps generalizing h s with
  | nil => exact present
  | cons a rest ih =>
    obtain ⟨different, keptLater⟩ := not_or.1 (mt List.mem_cons.2 kept)
    have next := standing?_step coherent present (Ne.symm different)
    rw [run_cons, ih (coherent_step coherent a) next keptLater, capacity_step]
    rfl

end Hub
end AppHost
