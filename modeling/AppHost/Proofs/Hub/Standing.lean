import AppHost.Hub
import AppHost.Proofs.Hub.Backlog

/-!
How each subscription of a hub stands: its page, what it has before it, and whether more may come.
What an operation of the hub does to the standing of one subscription depends on that standing
alone, so that a subscription can be followed through a run without regard to any other.
-/

set_option autoImplicit false
namespace AppHost

inductive HubStep
  | openPage (page : String)
  | closePage (page : String)
  | subscribe (page : String)
  | emitToPage (page : String) (event : ApplicationEvent)
  | emitToAll (event : ApplicationEvent)
  | receive (number : Nat)
  | unsubscribe (number : Nat)
  | closeAll
  deriving DecidableEq

structure Standing where
  page : String
  backlog : Backlog ApplicationEvent
  -- Events may still come.
  isOpen : Bool

/-- Where nothing more comes, nothing yet is nothing any more. -/
def Received.settle {α : Type} (isOpen : Bool) : Received α → Received α
  | .pending => if isOpen then .pending else .closed
  | found => found

theorem Received.settle_true {α : Type} (found : Received α) : found.settle true = found := by
  cases found <;> rfl

namespace Standing

/-- Nothing is left to read, and nothing will come. -/
def ended (page : String) : Standing := ⟨page, .empty, false⟩

def read (s : Standing) : Received ApplicationEvent × Standing :=
  (s.backlog.take.1.settle s.isOpen, { s with backlog := s.backlog.take.2 })

/-- A page is closed: what is kept can still be read. -/
def close (page : String) (s : Standing) : Standing :=
  if s.page = page then { s with isOpen := false } else s

def accept (capacity : Nat) (event : ApplicationEvent) (s : Standing) : Standing :=
  if s.isOpen then { s with backlog := s.backlog.push capacity event } else s

/-- How a subscription stands after one operation, where pages keep so many events. -/
def after (capacity number : Nat) (s : Standing) : HubStep → Standing
  | .closePage page => s.close page
  | .emitToPage page event => if s.page = page then s.accept capacity event else s
  | .emitToAll event => s.accept capacity event
  | .receive other => if other = number then s.read.2 else s
  | .closeAll => ended s.page
  | _ => s

theorem after_page (capacity number : Nat) (s : Standing) (a : HubStep) :
    (s.after capacity number a).page = s.page := by
  cases a with
  | closePage page | emitToAll event | receive other =>
    simp only [after, close, accept, read]
    split <;> rfl
  | emitToPage page event =>
    simp only [after, accept]
    split
    · split <;> rfl
    · rfl
  | _ => rfl

theorem read_ended (page : String) : (ended page).read = (.closed, ended page) := rfl

theorem close_of_ne {s : Standing} {page : String} (other : s.page ≠ page) : s.close page = s :=
  if_neg other

theorem close_of_closed {s : Standing} (closed : s.isOpen = false) (page : String) :
    s.close page = s := by
  unfold close
  split
  · rw [← closed]
  · rfl

theorem accept_of_closed {s : Standing} (closed : s.isOpen = false) (capacity : Nat)
    (event : ApplicationEvent) : s.accept capacity event = s := by
  simp [accept, closed]

end Standing

namespace Hub

def step (h : Hub) : HubStep → Hub
  | .openPage page => h.openPage page
  | .closePage page => (h.closePage page).2
  | .subscribe page => (h.subscribe page).2
  | .emitToPage page event => (h.emitToPage page event).2
  | .emitToAll event => (h.emitToAll event).2
  | .receive number => (h.receive number).2
  | .unsubscribe number => h.unsubscribe number
  | .closeAll => h.closeAll

def run (h : Hub) (steps : List HubStep) : Hub := steps.foldl step h

theorem run_cons (h : Hub) (a : HubStep) (rest : List HubStep) :
    h.run (a :: rest) = (h.step a).run rest := rfl

def standing (h : Hub) (s : Subscription) : Standing :=
  if h.isShutDown then .ended s.page
  else
    match s.source with
    | .final feed => ⟨s.page, feed.backlog s.position, false⟩
    | .live =>
      match h.pages.find? s.page with
      | some feed => ⟨s.page, feed.backlog s.position, true⟩
      | none => .ended s.page

def standing? (h : Hub) (number : Nat) : Option Standing :=
  (h.subscription? number).map h.standing

/-- Pages keep as much as the hub says, and who reads an open page has not read beyond its end. -/
structure Coherent (h : Hub) : Prop where
  capacity : ∀ page feed, h.pages.find? page = some feed → feed.capacity = h.capacity
  live : ∀ number s, h.subscription? number = some s → s.source = .live →
    ∃ feed, h.pages.find? s.page = some feed ∧ s.position ≤ feed.sent

theorem coherent_new (applicationId : String) (buffer : Nat) : (new applicationId buffer).Coherent where
  capacity page feed found := by simp [new] at found
  live number s present := by simp [new, subscription?] at present

/-! ### Subscriptions by their numbers -/

@[simp] theorem subscription?_openPage (h : Hub) (page : String) (number : Nat) :
    (h.openPage page).subscription? number = h.subscription? number := by
  unfold openPage
  split <;> rfl

theorem subscription?_closePage (h : Hub) (page : String) (number : Nat) :
    (h.closePage page).2.subscription? number =
      match h.pages.find? page with
      | some feed => (h.subscription? number).map (·.detach page feed)
      | none => h.subscription? number := by
  unfold closePage
  cases h.pages.find? page with
  | none => rfl
  | some feed =>
    simp only [subscription?, List.getElem?_map]
    cases h.subscriptions[number]? with
    | none => rfl
    | some place => cases place <;> rfl

@[simp] theorem subscription?_emitToPage (h : Hub) (page : String) (event : ApplicationEvent)
    (number : Nat) : (h.emitToPage page event).2.subscription? number = h.subscription? number := by
  unfold emitToPage
  split <;> rfl

@[simp] theorem subscription?_emitToAll (h : Hub) (event : ApplicationEvent) (number : Nat) :
    (h.emitToAll event).2.subscription? number = h.subscription? number := rfl

theorem lt_of_subscription? {h : Hub} {number : Nat} {s : Subscription}
    (present : h.subscription? number = some s) : number < h.subscriptions.length := by
  unfold subscription? at present
  have found := Option.join_eq_some_iff.1 present
  exact (List.getElem?_eq_some_iff.1 found).1

def put (h : Hub) (number : Nat) (place : Option Subscription) : Hub :=
  { h with subscriptions := h.subscriptions.set number place }

theorem subscription?_put_self {h : Hub} {number : Nat} (place : Option Subscription)
    (inside : number < h.subscriptions.length) :
    (h.put number place).subscription? number = place := by
  simp [put, subscription?, inside]

theorem subscription?_put_of_ne (h : Hub) {number other : Nat} (place : Option Subscription)
    (different : other ≠ number) :
    (h.put number place).subscription? other = h.subscription? other := by
  simp [put, subscription?, List.getElem?_set_ne (Ne.symm different)]

def add (h : Hub) (s : Subscription) : Hub :=
  { h with subscriptions := h.subscriptions ++ [some s] }

theorem subscription?_add_self (h : Hub) (s : Subscription) :
    (h.add s).subscription? h.subscriptions.length = some s := by
  simp [add, subscription?]

theorem subscription?_add_of_ne (h : Hub) (s : Subscription) {number : Nat}
    (different : number ≠ h.subscriptions.length) :
    (h.add s).subscription? number = h.subscription? number := by
  rcases Nat.lt_or_ge number h.subscriptions.length with inside | outside
  · simp [add, subscription?, List.getElem?_append_left inside]
  · have beyond : h.subscriptions.length < number := Nat.lt_of_le_of_ne outside (Ne.symm different)
    have longer : (h.subscriptions ++ [some s]).length ≤ number := by
      rw [List.length_append, List.length_singleton]
      exact beyond
    simp only [add, subscription?]
    rw [List.getElem?_eq_none longer, List.getElem?_eq_none outside]

/-! ### One lemma for each operation -/

section
variable {h : Hub}

theorem standing_page (h : Hub) (s : Subscription) : (h.standing s).page = s.page := by
  unfold standing
  split
  · rfl
  · split
    · rfl
    · split <;> rfl

theorem standing_of_isShutDown (down : h.isShutDown = true) (s : Subscription) :
    h.standing s = .ended s.page := by
  simp [standing, down]

theorem standing_final (up : h.isShutDown = false) {s : Subscription}
    {feed : Feed ApplicationEvent} (source : s.source = .final feed) :
    h.standing s = ⟨s.page, feed.backlog s.position, false⟩ := by
  simp [standing, up, source]

theorem standing_live (up : h.isShutDown = false) {s : Subscription}
    {feed : Feed ApplicationEvent} (source : s.source = .live)
    (found : h.pages.find? s.page = some feed) :
    h.standing s = ⟨s.page, feed.backlog s.position, true⟩ := by
  simp [standing, up, source, found]

theorem isOpen_standing (h : Hub) (s : Subscription) :
    (h.standing s).isOpen = true ↔
      h.isShutDown = false ∧ s.source = .live ∧ (h.pages.find? s.page).isSome := by
  unfold standing
  cases h.isShutDown with
  | true => simp [Standing.ended]
  | false =>
    cases s.source with
    | final feed => simp
    | live => cases h.pages.find? s.page <;> simp [Standing.ended]

theorem isOpen_standing_of_absent {s : Subscription} (absent : h.pages.find? s.page = none) :
    (h.standing s).isOpen = false := by
  rw [Bool.eq_false_iff, ne_eq, isOpen_standing, absent]
  simp

theorem standing?_openPage (coherent : h.Coherent) (page : String) (number : Nat) :
    (h.openPage page).standing? number = h.standing? number := by
  unfold standing?
  rw [subscription?_openPage]
  refine Option.map_congr fun s present => ?_
  unfold openPage
  split
  · rfl
  · rename_i absent
    cases source : s.source with
    | final feed => simp [standing, source]
    | live =>
      obtain ⟨feed, found, -⟩ := coherent.live number s present source
      -- The page of a live subscription is open, so it is not the one that is opened now.
      have other : page ≠ s.page := by
        rintro rfl
        exact absent (by simp [Dictionary.contains, found])
      simp [standing, source, Dictionary.find?_insert, other]

theorem detach_page (s : Subscription) (page : String) (feed : Feed ApplicationEvent) :
    (s.detach page feed).page = s.page := by
  unfold Subscription.detach
  split <;> rfl

theorem isShutDown_closePage (h : Hub) (page : String) :
    (h.closePage page).2.isShutDown = h.isShutDown := by
  unfold closePage
  split <;> rfl

theorem pages_closePage (h : Hub) (page other : String) :
    (h.closePage page).2.pages.find? other = if page = other then none else h.pages.find? other := by
  unfold closePage
  split
  · rename_i absent
    split
    · rename_i same
      exact same ▸ absent
    · rfl
  · exact Dictionary.find?_erase _ _ _

theorem standing_detach (h : Hub) (s : Subscription) {page : String}
    {feed : Feed ApplicationEvent} (found : h.pages.find? page = some feed) :
    (h.closePage page).2.standing (s.detach page feed) = (h.standing s).close page := by
  have same := isShutDown_closePage h page
  cases down : h.isShutDown with
  | true =>
    rw [standing_of_isShutDown (same.trans down), standing_of_isShutDown down, detach_page]
    exact (Standing.close_of_closed rfl page).symm
  | false =>
    have up := same.trans down
    -- Only a live subscription of the page itself is detached from it.
    cases source : s.source with
    | final last =>
      have kept : s.detach page feed = s := by
        simp [Subscription.detach, Subscription.isLiveOn, source]
      rw [kept, standing_final up source, standing_final down source]
      exact (Standing.close_of_closed rfl page).symm
    | live =>
      by_cases here : s.page = page
      · have detached : s.detach page feed = { s with source := .final feed } := by
          simp [Subscription.detach, Subscription.isLiveOn, source, here]
        rw [detached, standing_final up rfl, standing_live down source (here ▸ found)]
        simp [Standing.close, here]
      · have kept : s.detach page feed = s := by
          simp [Subscription.detach, Subscription.isLiveOn, source, here]
        rw [kept, Standing.close_of_ne (by rwa [standing_page])]
        simp [standing, source, same, pages_closePage, Ne.symm here]

theorem standing?_closePage (h : Hub) (page : String) (number : Nat) :
    (h.closePage page).2.standing? number = (h.standing? number).map (·.close page) := by
  unfold standing?
  rw [subscription?_closePage]
  cases found : h.pages.find? page with
  | some feed =>
    simp only [Option.map_map]
    exact Option.map_congr fun s _ => standing_detach h s found
  | none =>
    have same : (h.closePage page).2 = h := by simp [closePage, found]
    rw [same, Option.map_map]
    refine Option.map_congr fun s _ => ?_
    by_cases here : s.page = page
    · have closed := isOpen_standing_of_absent (here ▸ found)
      exact (Standing.close_of_closed closed page).symm
    · exact (Standing.close_of_ne (by rwa [standing_page])).symm

theorem emitToPage_of_found {page : String} {feed : Feed ApplicationEvent}
    (found : h.pages.find? page = some feed) (event : ApplicationEvent) :
    (h.emitToPage page event).2 = { h with pages := h.pages.insert page (feed.send event) } := by
  simp [emitToPage, found]

theorem standing_send (coherent : h.Coherent) {number : Nat} {s : Subscription}
    (present : h.subscription? number = some s) (event : ApplicationEvent) {sent : Hub}
    (same : sent.isShutDown = h.isShutDown)
    (feeds : sent.pages.find? s.page = (h.pages.find? s.page).map (·.send event)) :
    sent.standing s = (h.standing s).accept h.capacity event := by
  cases down : h.isShutDown with
  | true =>
    rw [standing_of_isShutDown (same.trans down), standing_of_isShutDown down]
    exact (Standing.accept_of_closed rfl _ _).symm
  | false =>
    have up := same.trans down
    cases source : s.source with
    | final last =>
      rw [standing_final up source, standing_final down source]
      exact (Standing.accept_of_closed rfl _ _).symm
    | live =>
      obtain ⟨feed, found, reached⟩ := coherent.live number s present source
      rw [found, Option.map_some] at feeds
      rw [standing_live up source feeds, standing_live down source found,
        feed.backlog_send reached, coherent.capacity _ _ found]
      rfl

theorem standing?_emitToPage (coherent : h.Coherent) (page : String) (event : ApplicationEvent)
    (number : Nat) :
    (h.emitToPage page event).2.standing? number =
      (h.standing? number).map fun s =>
        if s.page = page then s.accept h.capacity event else s := by
  unfold standing?
  rw [subscription?_emitToPage, Option.map_map]
  refine Option.map_congr fun s present => ?_
  simp only [Function.comp_apply, standing_page]
  cases found : h.pages.find? page with
  | none =>
    have same : (h.emitToPage page event).2 = h := by simp [emitToPage, found]
    rw [same]
    split
    · rename_i here
      have closed := isOpen_standing_of_absent (here ▸ found)
      exact (Standing.accept_of_closed closed _ _).symm
    · rfl
  | some feed =>
    rw [emitToPage_of_found found]
    split
    · rename_i here
      exact standing_send coherent present event rfl (by simp [Dictionary.find?_insert, here, found])
    · rename_i other
      simp [standing, Dictionary.find?_insert, Ne.symm other]

theorem standing?_emitToAll (coherent : h.Coherent) (event : ApplicationEvent) (number : Nat) :
    (h.emitToAll event).2.standing? number =
      (h.standing? number).map (·.accept h.capacity event) := by
  unfold standing?
  rw [subscription?_emitToAll, Option.map_map]
  refine Option.map_congr fun s present => ?_
  exact standing_send coherent present event rfl (Dictionary.find?_map _ _ _)

theorem next_eq (coherent : h.Coherent) {number : Nat} {s : Subscription}
    (present : h.subscription? number = some s) :
    (h.next s).1 = (h.standing s).read.1 ∧
      h.standing { s with position := (h.next s).2 } = (h.standing s).read.2 := by
  cases down : h.isShutDown with
  | true =>
    rw [standing_of_isShutDown down, standing_of_isShutDown down]
    simp [next, down, Standing.read_ended]
  | false =>
    obtain ⟨page, position, source⟩ := s
    cases source with
    | final feed =>
      obtain ⟨found, left⟩ := feed.read_backlog position
      have next : h.next ⟨page, position, .final feed⟩ =
          ((feed.read position).1.settle false, (feed.read position).2) := by
        simp only [Hub.next, down, feedOf]
        rcases feed.read position with ⟨answer, after⟩
        cases answer <;> rfl
      rw [next, standing_final down rfl, standing_final down rfl, found, left]
      exact ⟨rfl, rfl⟩
    | live =>
      obtain ⟨feed, isOpen, -⟩ := coherent.live number _ present rfl
      dsimp only at isOpen
      obtain ⟨found, left⟩ := feed.read_backlog position
      have next : h.next ⟨page, position, .live⟩ = feed.read position := by
        simp [Hub.next, down, feedOf, isOpen]
      rw [next]
      dsimp only
      rw [standing_live down rfl isOpen, standing_live down rfl isOpen, found, left]
      exact ⟨(Received.settle_true _).symm, rfl⟩

theorem receive_of_present {number : Nat} {s : Subscription}
    (present : h.subscription? number = some s) :
    h.receive number =
      ((h.next s).1, h.put number (some { s with position := (h.next s).2 })) := by
  simp [receive, present, put]

theorem receive_of_absent {number : Nat} (absent : h.subscription? number = none) :
    h.receive number = (.closed, h) := by
  simp [receive, absent]

theorem receive_eq (coherent : h.Coherent) {number : Nat} {s : Standing}
    (present : h.standing? number = some s) :
    (h.receive number).1 = s.read.1 ∧ (h.receive number).2.standing? number = some s.read.2 := by
  obtain ⟨subscription, found, rfl⟩ := Option.map_eq_some_iff.1 present
  obtain ⟨answer, left⟩ := next_eq coherent found
  rw [receive_of_present found, standing?, subscription?_put_self _ (lt_of_subscription? found)]
  exact ⟨answer, congrArg some left⟩

theorem standing?_receive_of_ne {number other : Nat} (different : other ≠ number) :
    (h.receive number).2.standing? other = h.standing? other := by
  cases found : h.subscription? number with
  | none => rw [receive_of_absent found]
  | some s =>
    rw [receive_of_present found, standing?, subscription?_put_of_ne _ _ different]
    rfl

theorem standing?_unsubscribe_of_ne {number other : Nat} (different : other ≠ number) :
    (h.unsubscribe number).standing? other = h.standing? other := by
  change (h.put number none).standing? other = _
  rw [standing?, subscription?_put_of_ne _ _ different]
  rfl

theorem subscribe_cases (h : Hub) (page : String) :
    h.subscribe page = (none, h) ∨
      ∃ feed, h.isShutDown = false ∧ h.pages.find? page = some feed ∧
        h.subscribe page = (some h.subscriptions.length, h.add ⟨page, feed.sent, .live⟩) := by
  unfold subscribe attach
  split
  · exact .inl rfl
  · rename_i up
    cases found : h.pages.find? page with
    | none => exact .inl rfl
    | some feed => exact .inr ⟨feed, Bool.eq_false_iff.2 up, rfl, rfl⟩

theorem standing?_subscribe_self {page : String} {number : Nat} {after : Hub}
    (subscribed : h.subscribe page = (some number, after)) :
    after.standing? number = some ⟨page, .empty, true⟩ := by
  obtain refused | ⟨feed, up, found, made⟩ := h.subscribe_cases page
  · cases refused.symm.trans subscribed
  cases made.symm.trans subscribed
  have stands : (h.add ⟨page, feed.sent, .live⟩).standing ⟨page, feed.sent, .live⟩ =
      ⟨page, feed.backlog feed.sent, true⟩ := standing_live up rfl found
  rw [standing?, subscription?_add_self, Option.map_some, stands, feed.backlog_sent]

theorem standing?_shutDown (h : Hub) (number : Nat) :
    h.shutDown.standing? number = (h.standing? number).map fun s => .ended s.page := by
  unfold standing?
  rw [Option.map_map]
  refine Option.map_congr fun s _ => ?_
  simp only [Function.comp_apply, standing_page]
  exact standing_of_isShutDown rfl s

theorem standing?_clear (down : h.isShutDown = true) (number : Nat) :
    h.clear.standing? number = h.standing? number := by
  unfold clear
  -- The pages are those that were open at the beginning, whatever is closed on the way.
  generalize h.pages.keys = pages
  induction pages generalizing h with
  | nil => rfl
  | cons page rest ih =>
    rw [List.foldl_cons, ih ((isShutDown_closePage h page).trans down), standing?_closePage]
    unfold standing?
    rw [Option.map_map]
    refine Option.map_congr fun s _ => ?_
    simp only [Function.comp_apply, standing_of_isShutDown down]
    exact Standing.close_of_closed rfl page

theorem standing?_closeAll (h : Hub) (number : Nat) :
    h.closeAll.standing? number = (h.standing? number).map fun s => .ended s.page := by
  rw [closeAll, standing?_clear rfl, standing?_shutDown]

end

end Hub
end AppHost
