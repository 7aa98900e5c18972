import AppHost.Proofs.Instance.Shutdown

/-!
Subscribing to a page while it is published anew. Who subscribes looks for the page in the registry
first, where it is all the time, and then in the hub, where it is not between the closing of the old
feed and the opening of the new one. The last change of the hub before that look decides.
-/

set_option autoImplicit false
namespace AppHost

namespace PageCall
variable {i : Instance} {c : PageCall} {page : String}

def keeps (page : String) : PageCall → Bool
  | .unpublish other => other ≠ page
  | .closing other => other ≠ page
  | _ => true

theorem keeps_step (keeps : c.keeps page = true) (i : Instance) :
    (c.step i).1.keeps page = true := by
  cases c with
  | publish new =>
    rw [step_publish]
    cases new.validate with
    | error e => rfl
    | ok u =>
      dsimp only
      split <;> rfl
  | unpublish old =>
    rw [step_unpublish]
    split
    · exact keeps
    · rfl
  | replacing _ | opening _ | closing _ | finished _ => rfl

theorem applicationId_step (i : Instance) (c : PageCall) :
    (c.step i).2.applicationId = i.applicationId := by
  cases c with
  | publish new =>
    rw [step_publish]
    cases new.validate <;> rfl
  | unpublish old =>
    rw [step_unpublish]
    split <;> rfl
  | replacing _ | opening _ | closing _ | finished _ => rfl

theorem served_of_keeps (keeps : c.keeps page = true)
    (served : (i.pages.pages.find? page).isSome = true) :
    ((c.step i).2.pages.pages.find? page).isSome = true := by
  rw [served_step, served]
  cases c with
  | publish new =>
    simp only [deed?]
    cases new.validate with
    | error e => rfl
    | ok u =>
      simp only [Option.bind_some, PageDeed.serves?]
      split <;> rfl
  | unpublish old =>
    have other : old ≠ page := of_decide_eq_true keeps
    simp only [deed?]
    split
    · simp [PageDeed.serves?, other]
    · rfl
  | _ => rfl

theorem opened_of_keeps (keeps : c.keeps page = true)
    (opened : (i.hub.pages.find? page).isSome = true) :
    ((c.step i).2.hub.pages.find? page).isSome = true ∨ (c.step i).1 = .opening page := by
  cases c with
  | replacing old =>
    by_cases same : old = page
    · exact .inr (congrArg opening same)
    · refine .inl ?_
      rw [opened_step]
      simp [deed?, PageDeed.opens?, same, opened]
  | closing old =>
    have other : old ≠ page := of_decide_eq_true keeps
    refine .inl ?_
    rw [opened_step]
    simp [deed?, PageDeed.opens?, other, opened]
  | opening new =>
    refine .inl ?_
    rw [opened_step]
    by_cases same : new = page <;> simp [deed?, PageDeed.opens?, same, opened]
  | publish new =>
    refine .inl ?_
    rw [opened_step, opened]
    simp only [deed?]
    cases new.validate <;> rfl
  | unpublish old =>
    refine .inl ?_
    rw [opened_step, opened]
    simp only [deed?]
    split <;> rfl
  | finished answer => exact .inl opened

end PageCall

namespace HeldCall

/-- A call that subscribes to a page, after so many of its steps: it has found the page in the
registry, then that the hub is not shut down, and looks for the page in the hub next. -/
def subscribing (page : String) : Nat → HeldCall
  | 0 => .subscribe page
  | 1 => .entering page
  | _ => .attaching page

def deed? (i : Instance) : HeldCall → Option PageDeed
  | .pages call => call.deed? i
  | _ => none

theorem step_subscribing {i : Instance} {page : String}
    (served : (i.pages.pages.find? page).isSome = true) (up : i.hub.isShutDown = false)
    {taken : Nat} (early : taken < 2) :
    (subscribing page taken).step i = (subscribing page (taken + 1), i) := by
  match taken, early with
  | 0, _ =>
    obtain ⟨p, found⟩ := Option.isSome_iff_exists.1 served
    simp [subscribing, step, Instance.resolvePage, PageRegistry.resolve, found]
  | 1, _ => simp [subscribing, step, up]

theorem step_attaching (i : Instance) (page : String) :
    (step i (.attaching page)).1 = .answered (.subscribed
      (if (i.hub.pages.find? page).isSome then .ok i.hub.subscriptions.length
        else .error (.pageNotFound (i.pageRef page)))) := by
  simp only [step, Hub.attach]
  cases i.hub.pages.find? page <;> rfl

end HeldCall

namespace HeldCalls

def deed? (s : HeldCalls) (turn : Nat) : Option PageDeed :=
  s.calls[turn]?.bind (·.deed? s.target)

def deeds : HeldCalls → List Nat → List PageDeed
  | _, [] => []
  | s, turn :: rest => (s.deed? turn).toList ++ (s.step turn).deeds rest

/-- All calls but one work on pages, and none of them withdraws this one. -/
def OthersKeep (s : HeldCalls) (turn : Nat) (page : String) : Prop :=
  ∀ (other : Nat) (c : HeldCall), other ≠ turn → s.calls[other]? = some c →
    ∃ call : PageCall, c = .pages call ∧ call.keeps page = true

/-- A call has taken so many steps to subscribe to a page that is served. When the page is closed,
another call is to open it. -/
structure Entering (id page : String) (turn taken : Nat) (s : HeldCalls) : Prop where
  own : s.calls[turn]? = some (.subscribing page taken)
  others : s.OthersKeep turn page
  applicationId : s.target.applicationId = id
  up : s.target.hub.isShutDown = false
  served : (s.target.pages.pages.find? page).isSome = true
  reopens : (s.target.hub.pages.find? page).isSome = true ∨
    ∃ other : Nat, s.calls[other]? = some (.pages (.opening page))

namespace Entering
variable {id page : String} {turn taken : Nat} {s : HeldCalls}

theorem step_own (entering : s.Entering id page turn taken) (early : taken < 2) :
    s.step turn = ⟨s.target, s.calls.set turn (.subscribing page (taken + 1))⟩ := by
  rw [step_of_present entering.own, HeldCall.step_subscribing entering.served entering.up early]

theorem own_step (entering : s.Entering id page turn taken) (early : taken < 2) :
    (s.step turn).Entering id page turn (taken + 1) := by
  obtain ⟨inside, -⟩ := List.getElem?_eq_some_iff.1 entering.own
  rw [entering.step_own early]
  refine ⟨List.getElem?_set_self inside, fun other c different present => ?_,
    entering.applicationId, entering.up, entering.served, ?_⟩
  · rw [List.getElem?_set_ne (Ne.symm different)] at present
    exact entering.others other c different present
  · refine entering.reopens.imp_right fun ⟨other, opens⟩ => ⟨other, ?_⟩
    -- Who is to open the page is not the one that subscribes.
    have different : turn ≠ other := by
      rintro rfl
      have same := entering.own.symm.trans opens
      match taken, early with
      | 0, _ | 1, _ => cases same
    rwa [List.getElem?_set_ne different]

theorem other_step (entering : s.Entering id page turn taken) {other : Nat}
    (different : other ≠ turn) : (s.step other).Entering id page turn taken := by
  cases present : s.calls[other]? with
  | none =>
    have same : s.step other = s := by simp only [HeldCalls.step, present]
    rwa [same]
  | some c =>
    obtain ⟨call, rfl, keeps⟩ := entering.others other c different present
    obtain ⟨inside, -⟩ := List.getElem?_eq_some_iff.1 present
    rw [step_of_present present]
    refine ⟨?_, fun third c apart found => ?_, ?_, ?_, PageCall.served_of_keeps keeps entering.served, ?_⟩
    · rw [List.getElem?_set_ne different]
      exact entering.own
    · by_cases same : other = third
      · subst same
        rw [List.getElem?_set_self inside] at found
        cases found
        exact ⟨_, rfl, PageCall.keeps_step keeps _⟩
      · rw [List.getElem?_set_ne same] at found
        exact entering.others third c apart found
    · exact (PageCall.applicationId_step ..).trans entering.applicationId
    · exact (PageCall.isShutDown_step ..).trans entering.up
    · rcases entering.reopens with opened | ⟨third, opens⟩
      · refine (PageCall.opened_of_keeps keeps opened).imp_right fun next => ⟨other, ?_⟩
        rw [List.getElem?_set_self inside]
        exact congrArg (some ∘ HeldCall.pages) next
      · by_cases same : other = third
        · subst same
          cases present.symm.trans opens
          refine .inl ((PageCall.opened_step ..).trans ?_)
          simp [PageCall.deed?, PageDeed.opens?]
        · exact .inr ⟨third, by rwa [List.getElem?_set_ne same]⟩

theorem opened_step (entering : s.Entering id page turn taken) {other : Nat}
    (early : other = turn → taken < 2) :
    ((s.step other).target.hub.pages.find? page).isSome =
      ((s.deed? other).bind (·.opens? page)).getD (s.target.hub.pages.find? page).isSome := by
  by_cases same : other = turn
  · subst same
    have none : s.deed? other = none := by
      rw [deed?, entering.own]
      match taken, early rfl with
      | 0, _ | 1, _ => rfl
    rw [entering.step_own (early rfl), none]
    rfl
  · unfold deed?
    cases present : s.calls[other]? with
    | none => simp [HeldCalls.step, present]
    | some c =>
      obtain ⟨call, rfl, -⟩ := entering.others other c same present
      rw [step_of_present present]
      exact PageCall.opened_step ..

/-- Until it looks into the hub, a call that subscribes goes on, and the page is open or not as the
last change has left it. -/
theorem run (entering : s.Entering id page turn taken) {turns : List Nat}
    (early : taken + turns.count turn ≤ 2) :
    (s.run turns).Entering id page turn (taken + turns.count turn) ∧
      ((s.run turns).target.hub.pages.find? page).isSome =
        (PageDeed.last? (·.opens? page) (s.deeds turns)).getD
          (s.target.hub.pages.find? page).isSome := by
  induction turns generalizing s taken with
  | nil => exact ⟨entering, rfl⟩
  | cons next rest ih =>
    have step : ∃ further, (s.step next).Entering id page turn further ∧
        further + rest.count turn = taken + (next :: rest).count turn := by
      by_cases same : next = turn
      · subst same
        rw [List.count_cons_self] at early ⊢
        exact ⟨taken + 1, entering.own_step (by omega), by omega⟩
      · rw [List.count_cons_of_ne same]
        exact ⟨taken, entering.other_step same, rfl⟩
    obtain ⟨further, stepped, count⟩ := step
    obtain ⟨last, opened⟩ := ih stepped (count ▸ early)
    refine ⟨count ▸ last, opened.trans ?_⟩
    have looking (same : next = turn) : taken < 2 := by
      rw [same, List.count_cons_self] at early
      omega
    have now := entering.opened_step looking
    rw [deeds, PageDeed.last?_append, PageDeed.last?_toList, now]
    cases PageDeed.last? (·.opens? page) ((s.step next).deeds rest) <;> rfl

end Entering

theorem answered_run {s : HeldCalls} {turn : Nat} {answer : CallAnswer}
    (answered : s.calls[turn]? = some (.answered answer)) (turns : List Nat) :
    (s.run turns).calls[turn]? = some (.answered answer) := by
  induction turns generalizing s with
  | nil => exact answered
  | cons next rest ih =>
    refine ih ?_
    unfold step
    cases present : s.calls[next]? with
    | none => exact answered
    | some c =>
      dsimp only
      by_cases same : next = turn
      · subst same
        cases present.symm.trans answered
        obtain ⟨inside, -⟩ := List.getElem?_eq_some_iff.1 answered
        exact List.getElem?_set_self inside
      · rwa [List.getElem?_set_ne same]

/-- One subscribes to a page that is served and open, and others publish it anew meanwhile, in any
order of the steps. The page is served all along. But the third step of the one that subscribes
finds it in the hub, and the stream is made, unless the last change of it there was its closing; a
call that is to open it is under way then. -/
theorem subscribed_unless_closed (s : HeldCalls) (turn : Nat) (page : String)
    (own : s.calls[turn]? = some (.subscribe page)) (others : s.OthersKeep turn page)
    (up : s.target.hub.isShutDown = false)
    (served : (s.target.pages.pages.find? page).isSome = true)
    (opened : (s.target.hub.pages.find? page).isSome = true)
    (before later : List Nat) (looks : before.count turn = 2) :
    let closed := PageDeed.last? (·.opens? page) (s.deeds before) = some false
    let number := (s.run before).target.hub.subscriptions.length
    (s.run (before ++ turn :: later)).calls[turn]? = some (.answered (.subscribed
      (if closed then .error (.pageNotFound (s.target.pageRef page)) else .ok number))) ∧
    (¬closed → (s.run (before ++ [turn])).target.hub.standing? number = some ⟨page, .empty, true⟩) ∧
    (closed → ∃ other : Nat, (s.run before).calls[other]? = some (.pages (.opening page))) ∧
    ((s.run before).target.pages.pages.find? page).isSome = true := by
  intro closed number
  have start : s.Entering s.target.applicationId page turn 0 :=
    ⟨own, others, rfl, up, served, .inl opened⟩
  have early : 0 + before.count turn ≤ 2 := by omega
  obtain ⟨entering, last⟩ := start.run early
  rw [Nat.zero_add, looks] at entering
  have attaching : (s.run before).calls[turn]? = some (.attaching page) := entering.own
  obtain ⟨inside, -⟩ := List.getElem?_eq_some_iff.1 attaching
  -- An open page that no change was made to is open still.
  have isOpen : ((s.run before).target.hub.pages.find? page).isSome = true ↔ ¬closed := by
    rw [last, opened]
    rcases decided : PageDeed.last? (·.opens? page) (s.deeds before) with _ | _ | _ <;>
      simp [closed, decided]
  refine ⟨?_, fun found => ?_, fun shut => ?_, entering.served⟩
  · have ref : (s.run before).target.pageRef page = s.target.pageRef page :=
      congrArg (PageRef.mk · page) entering.applicationId
    have looked : ((s.run before).step turn).calls[turn]? =
        some (HeldCall.step (s.run before).target (.attaching page)).1 := by
      rw [step_of_present attaching]
      exact List.getElem?_set_self inside
    rw [HeldCall.step_attaching, ref] at looked
    rw [run_append]
    refine (answered_run looked later).trans ?_
    by_cases shut : closed
    · rw [if_pos shut, if_neg fun open_ => isOpen.1 open_ shut]
    · rw [if_neg shut, if_pos (isOpen.2 shut)]
  · obtain ⟨feed, present⟩ := Option.isSome_iff_exists.1 (isOpen.2 found)
    have attached : (s.run before).target.hub.attach page =
        (some number, (s.run before).target.hub.add ⟨page, feed.sent, .live⟩) := by
      simp only [Hub.attach, present]
      rfl
    have subscribed : (s.run before).target.hub.subscribe page =
        (some number, (s.run before).target.hub.add ⟨page, feed.sent, .live⟩) := by
      rw [Hub.subscribe, entering.up, if_neg Bool.false_ne_true, attached]
    have after : ((s.run before).step turn).target.hub =
        (s.run before).target.hub.add ⟨page, feed.sent, .live⟩ := by
      rw [step_of_present attaching]
      simp only [HeldCall.step, attached]
    rw [run_append]
    change ((s.run before).step turn).target.hub.standing? number = _
    rw [after]
    exact Hub.standing?_subscribe_self subscribed
  · exact entering.reopens.resolve_left fun open_ => isOpen.1 open_ shut

/-- Two publish the page anew. The one that subscribes looks when the first has closed it and the
second has opened it again. -/
theorem subscribed_after_reopening :
    let handler : Handler := ⟨fun _ _ _ => .done (.ok .null), Handler.ignoreEvent⟩
    let first := Instance.start "app" none handler 8 ⟨0, 0, by decide⟩
    let s : HeldCalls := ⟨first.serve ⟨"p", "p.html", "P"⟩,
      [.subscribe "p", .pages (.publish ⟨"p", "q.html", "Q"⟩),
        .pages (.publish ⟨"p", "r.html", "R"⟩)]⟩
    let before := [0, 1, 1, 0, 2, 2, 2]
    s.deeds before = [.served "p", .closed "p", .served "p", .closed "p", .opened "p"] ∧
      (s.run (before ++ [0, 1])).calls[0]? = some (.answered (.subscribed (.ok 0))) := by
  intro handler first s before
  have changes : s.deeds before =
      [.served "p", .closed "p", .served "p", .closed "p", .opened "p"] := by decide
  refine ⟨changes, ?_⟩
  have others : s.OthersKeep 0 "p" := by
    rintro (_ | _ | _ | other) c different present
    · exact absurd rfl different
    · cases present
      exact ⟨_, rfl, rfl⟩
    · cases present
      exact ⟨_, rfl, rfl⟩
    · cases present
  have answer :=
    (subscribed_unless_closed s 0 "p" rfl others rfl rfl rfl before [1] (by decide)).1
  rw [changes] at answer
  exact answer

/-- A page is published anew between the two looks of the one that subscribes: it is served before
and after, and it was open at the beginning, but it is not found. -/
theorem subscriber_finds_page_closed :
    let handler : Handler := ⟨fun _ _ _ => .done (.ok .null), Handler.ignoreEvent⟩
    let first := Instance.start "app" none handler 8 ⟨0, 0, by decide⟩
    let s : HeldCalls := ⟨first.serve ⟨"p", "p.html", "P"⟩,
      [.subscribe "p", .pages (.publish ⟨"p", "q.html", "Q"⟩)]⟩
    let after := s.run [0, 1, 1, 0, 0, 1]
    s.target.pages.pages.keys = ["p"] ∧ s.target.hub.pages.keys = ["p"] ∧
      after.calls = [.answered (.subscribed (.error (.pageNotFound ⟨"app", "p"⟩))),
        .pages (.finished (.ok ()))] ∧
      after.target.pages.pages.keys = ["p"] ∧ after.target.hub.pages.keys = ["p"] :=
  ⟨rfl, rfl, rfl, rfl, rfl⟩

end HeldCalls
end AppHost
