import AppHost.Proofs.Instance.Pages

/-!
Calls that serve a page or cease to, made at the same time. Each goes by atomic steps, first what it
does to the registry of pages, then what follows from it for the hub, and the steps of others may
come between. The last step on the one side and the last on the other decide whether the two agree.
-/

set_option autoImplicit false
namespace AppHost

/-- A call, as far as it has come. -/
inductive PageCall
  | publish (page : Page)
  | unpublish (page : String)
  -- The page came in the place of another, whose streams are closed first.
  | replacing (page : String)
  | opening (page : String)
  | closing (page : String)
  | finished (answer : Except RuntimeError Unit)

inductive PageDeed
  | served (page : String)
  | withdrawn (page : String)
  | opened (page : String)
  | closed (page : String)
  deriving DecidableEq

namespace PageDeed

/-- Whether a page is served after this, if this decides it. -/
def serves? (page : String) : PageDeed → Option Bool
  | .served other => if other = page then some true else none
  | .withdrawn other => if other = page then some false else none
  | _ => none

def opens? (page : String) : PageDeed → Option Bool
  | .opened other => if other = page then some true else none
  | .closed other => if other = page then some false else none
  | _ => none

/-- What the last of some deeds to decide it has decided. -/
def last? (decides : PageDeed → Option Bool) (deeds : List PageDeed) : Option Bool :=
  (deeds.filterMap decides).getLast?

theorem last?_append (decides : PageDeed → Option Bool) (first second : List PageDeed) :
    last? decides (first ++ second) = (last? decides second).or (last? decides first) := by
  simp [last?, List.filterMap_append, List.getLast?_append]

theorem last?_toList (decides : PageDeed → Option Bool) (deed? : Option PageDeed) :
    last? decides deed?.toList = deed?.bind decides := by
  cases deed? with
  | none => rfl
  | some deed => cases decided : decides deed <;> simp [last?, decided]

end PageDeed

namespace PageCall

def step (i : Instance) : PageCall → PageCall × Instance
  | .publish page =>
    match i.pages.publish page with
    | (.error e, pages) => (.finished (.error e), { i with pages })
    | (.ok replaced, pages) =>
      (if replaced.isSome then .replacing page.id else .opening page.id, { i with pages })
  | .unpublish page =>
    match i.pages.unpublish page with
    | (some _, pages) => (.closing page, { i with pages })
    | (none, pages) => (.finished (.error (.pageNotFound (i.pageRef page))), { i with pages })
  | .replacing page => (.opening page, { i with hub := (i.hub.closePage page).2 })
  | .opening page => (.finished (.ok ()), { i with hub := i.hub.openPage page })
  | .closing page => (.finished (.ok ()), { i with hub := (i.hub.closePage page).2 })
  | .finished answer => (.finished answer, i)

def deed? (i : Instance) : PageCall → Option PageDeed
  | .publish page =>
    match page.validate with
    | .ok () => some (.served page.id)
    | .error _ => none
  | .unpublish page => if i.pages.pages.contains page then some (.withdrawn page) else none
  | .replacing page => some (.closed page)
  | .opening page => some (.opened page)
  | .closing page => some (.closed page)
  | .finished _ => none

def isFinished : PageCall → Bool
  | .finished _ => true
  | _ => false

def isNew : PageCall → Bool
  | .publish _ => true
  | .unpublish _ => true
  | _ => false

/-- Has changed what is served, but not yet what is open. -/
def isPending (page : String) : PageCall → Bool
  | .replacing other => other = page
  | .opening other => other = page
  | .closing other => other = page
  | _ => false

theorem not_isPending_of_isNew {page : String} {c : PageCall} (new : c.isNew = true) :
    ¬c.isPending page = true := by
  cases c with
  | publish _ | unpublish _ => exact Bool.false_ne_true
  | _ => cases new

theorem not_isPending_of_isFinished {page : String} {c : PageCall} (finished : c.isFinished = true) :
    ¬c.isPending page = true := by
  cases c with
  | finished _ => exact Bool.false_ne_true
  | _ => cases finished

def alone (i : Instance) (c : PageCall) : PageCall × Instance :=
  let (second, i) := c.step i
  let (third, i) := second.step i
  third.step i

theorem step_publish (i : Instance) (page : Page) :
    step i (.publish page) =
      match page.validate with
      | .error e => (.finished (.error e), i)
      | .ok () =>
        (if i.pages.pages.contains page.id then .replacing page.id else .opening page.id,
          { i with pages := ⟨i.pages.pages.insert page.id page⟩ }) := by
  simp only [step, PageRegistry.publish]
  cases page.validate <;> rfl

theorem step_unpublish (i : Instance) (page : String) :
    step i (.unpublish page) =
      if i.pages.pages.contains page then
        (.closing page, { i with pages := ⟨i.pages.pages.erase page⟩ })
      else (.finished (.error (.pageNotFound (i.pageRef page))), i) := by
  cases found : i.pages.pages.find? page with
  | none =>
    simp [step, PageRegistry.unpublish, Dictionary.contains, found, Dictionary.erase_of_find? found]
  | some p => simp [step, PageRegistry.unpublish, Dictionary.contains, found]

theorem alone_unpublish (i : Instance) (page : String) :
    alone i (.unpublish page) = (.finished (i.unpublishPage page).1, (i.unpublishPage page).2) := by
  unfold alone
  rw [step_unpublish]
  cases served : i.pages.pages.contains page with
  | true =>
    rw [Instance.unpublishPage_of_served served]
    rfl
  | false =>
    rw [Instance.unpublishPage_of_absent served]
    rfl

theorem served_step (i : Instance) (c : PageCall) (page : String) :
    ((c.step i).2.pages.pages.find? page).isSome =
      ((c.deed? i).bind (·.serves? page)).getD (i.pages.pages.find? page).isSome := by
  cases c with
  | publish new =>
    rw [step_publish]
    simp only [deed?]
    cases new.validate with
    | error e => rfl
    | ok u =>
      simp only [Option.bind_some, PageDeed.serves?, Dictionary.find?_insert]
      split <;> rfl
  | unpublish old =>
    rw [step_unpublish]
    simp only [deed?]
    split
    · simp only [Option.bind_some, PageDeed.serves?, Dictionary.find?_erase]
      split <;> rfl
    · rfl
  | _ => rfl

theorem opened_step (i : Instance) (c : PageCall) (page : String) :
    ((c.step i).2.hub.pages.find? page).isSome =
      ((c.deed? i).bind (·.opens? page)).getD (i.hub.pages.find? page).isSome := by
  cases c with
  | publish new =>
    rw [step_publish]
    simp only [deed?]
    cases new.validate <;> rfl
  | unpublish old =>
    rw [step_unpublish]
    simp only [deed?]
    split <;> rfl
  | replacing old | closing old =>
    simp only [step, deed?, Option.bind_some, PageDeed.opens?, Hub.pages_closePage]
    split <;> rfl
  | opening new =>
    simp only [step, deed?, Option.bind_some, PageDeed.opens?, Hub.isSome_openPage]
    by_cases same : new = page <;> simp [same]
  | finished answer => rfl

theorem pending_step (i : Instance) (c : PageCall) (page : String) :
    (((c.deed? i).bind (·.serves? page)).isSome || c.isPending page) =
      (((c.deed? i).bind (·.opens? page)).isSome || (c.step i).1.isPending page) := by
  cases c with
  | publish new =>
    rw [step_publish]
    simp only [deed?]
    cases new.validate with
    | error e => rfl
    | ok u =>
      cases i.pages.pages.contains new.id <;>
        by_cases same : new.id = page <;> simp [PageDeed.serves?, PageDeed.opens?, isPending, same]
  | unpublish old =>
    rw [step_unpublish]
    simp only [deed?]
    cases i.pages.pages.contains old <;>
      by_cases same : old = page <;> simp [PageDeed.serves?, PageDeed.opens?, isPending, same]
  | replacing other | opening other | closing other =>
    by_cases same : other = page <;>
      simp [step, deed?, PageDeed.serves?, PageDeed.opens?, isPending, same]
  | finished answer => rfl

end PageCall

structure PageCalls where
  target : Instance
  calls : List PageCall

namespace PageCalls

def step (s : PageCalls) (turn : Nat) : PageCalls :=
  match s.calls[turn]? with
  | some c => ⟨(c.step s.target).2, s.calls.set turn (c.step s.target).1⟩
  | none => s

def run (s : PageCalls) (turns : List Nat) : PageCalls := turns.foldl step s

def deed? (s : PageCalls) (turn : Nat) : Option PageDeed :=
  s.calls[turn]?.bind (·.deed? s.target)

def deeds : PageCalls → List Nat → List PageDeed
  | _, [] => []
  | s, turn :: rest => (s.deed? turn).toList ++ (s.step turn).deeds rest

def allFinished (s : PageCalls) : Bool := s.calls.all (·.isFinished)

theorem served_step (s : PageCalls) (turn : Nat) (page : String) :
    ((s.step turn).target.pages.pages.find? page).isSome =
      ((s.deed? turn).bind (·.serves? page)).getD (s.target.pages.pages.find? page).isSome := by
  unfold step deed?
  cases s.calls[turn]? with
  | none => rfl
  | some c => exact c.served_step s.target page

theorem opened_step (s : PageCalls) (turn : Nat) (page : String) :
    ((s.step turn).target.hub.pages.find? page).isSome =
      ((s.deed? turn).bind (·.opens? page)).getD (s.target.hub.pages.find? page).isSome := by
  unfold step deed?
  cases s.calls[turn]? with
  | none => rfl
  | some c => exact c.opened_step s.target page

theorem pending_step (s : PageCalls) (turn : Nat) (page : String) :
    (((s.deed? turn).bind (·.serves? page)).isSome || s.calls.any (·.isPending page)) =
      (((s.deed? turn).bind (·.opens? page)).isSome || (s.step turn).calls.any (·.isPending page)) := by
  unfold step deed?
  cases found : s.calls[turn]? with
  | none => rfl
  | some c =>
    have own := c.pending_step s.target page
    obtain ⟨inside, here⟩ := List.getElem?_eq_some_iff.1 found
    -- All calls but the one whose turn it is stay as they are.
    have split : s.calls = s.calls.take turn ++ c :: s.calls.drop (turn + 1) := by
      rw [← here, ← List.drop_eq_getElem_cons inside, List.take_append_drop]
    simp only [Option.bind_some]
    rw [List.set_eq_take_append_cons_drop, if_pos inside]
    conv => lhs; rw [split]
    simp only [List.any_append, List.any_cons]
    rw [Bool.or_left_comm, ← Bool.or_assoc _ (c.isPending page), own, Bool.or_assoc,
      Bool.or_left_comm]

theorem served_run (s : PageCalls) (turns : List Nat) (page : String) :
    ((s.run turns).target.pages.pages.find? page).isSome =
      (PageDeed.last? (·.serves? page) (s.deeds turns)).getD
        (s.target.pages.pages.find? page).isSome := by
  induction turns generalizing s with
  | nil => rfl
  | cons turn rest ih =>
    rw [deeds, PageDeed.last?_append, PageDeed.last?_toList]
    refine (ih (s.step turn)).trans ?_
    rw [served_step]
    cases PageDeed.last? (·.serves? page) ((s.step turn).deeds rest) <;> rfl

theorem opened_run (s : PageCalls) (turns : List Nat) (page : String) :
    ((s.run turns).target.hub.pages.find? page).isSome =
      (PageDeed.last? (·.opens? page) (s.deeds turns)).getD
        (s.target.hub.pages.find? page).isSome := by
  induction turns generalizing s with
  | nil => rfl
  | cons turn rest ih =>
    rw [deeds, PageDeed.last?_append, PageDeed.last?_toList]
    refine (ih (s.step turn)).trans ?_
    rw [opened_step]
    cases PageDeed.last? (·.opens? page) ((s.step turn).deeds rest) <;> rfl

-- Where no call is pending at the beginning nor at the end, deeds on the one side came with deeds
-- on the other.
theorem pending_run (s : PageCalls) (turns : List Nat) (page : String) :
    ((PageDeed.last? (·.serves? page) (s.deeds turns)).isSome ||
        s.calls.any (·.isPending page)) =
      ((PageDeed.last? (·.opens? page) (s.deeds turns)).isSome ||
        (s.run turns).calls.any (·.isPending page)) := by
  induction turns generalizing s with
  | nil => rfl
  | cons turn rest ih =>
    have now := s.pending_step turn page
    have later := ih (s.step turn)
    have same : s.run (turn :: rest) = (s.step turn).run rest := rfl
    rw [deeds, PageDeed.last?_append, PageDeed.last?_append, PageDeed.last?_toList,
      PageDeed.last?_toList, Option.isSome_or, Option.isSome_or, same]
    rw [Bool.or_assoc, now, Bool.or_left_comm, later, Bool.or_assoc, Bool.or_left_comm]

/-- Once all calls are finished, the pages that are served are those that are open if and only if for
each page the last change on the one side and the last on the other were the same way. -/
theorem agrees_run_iff (s : PageCalls) (new : s.calls.all (·.isNew)) (agrees : s.target.Agrees)
    (turns : List Nat) (finished : (s.run turns).allFinished) :
    (s.run turns).target.Agrees ↔
      ∀ page, PageDeed.last? (·.serves? page) (s.deeds turns) =
        PageDeed.last? (·.opens? page) (s.deeds turns) := by
  rw [Instance.agrees_iff_isSome]
  refine forall_congr' fun page => ?_
  rw [served_run, opened_run, (Instance.agrees_iff_isSome _).1 agrees page]
  -- A side that has no last deed is as it was, so both must have one or neither.
  have noneFirst : s.calls.any (·.isPending page) = false :=
    List.any_eq_false.2 fun c here => PageCall.not_isPending_of_isNew (List.all_eq_true.1 new c here)
  have noneLast : (s.run turns).calls.any (·.isPending page) = false :=
    List.any_eq_false.2 fun c here =>
      PageCall.not_isPending_of_isFinished (List.all_eq_true.1 finished c here)
  have both := s.pending_run turns page
  rw [noneFirst, noneLast, Bool.or_false, Bool.or_false] at both
  cases last : PageDeed.last? (·.serves? page) (s.deeds turns) with
  | none =>
    rw [last] at both
    rw [Option.isSome_eq_false_iff.1 both.symm |> Option.isNone_iff_eq_none.1]
    simp
  | some serves =>
    rw [last] at both
    obtain ⟨opens, same⟩ := Option.isSome_iff_exists.1 both.symm
    simp [same]

/-- A page is withdrawn and published anew, one call after the other. -/
theorem agrees_in_turn :
    let handler : Handler := ⟨fun _ _ _ => .done (.ok .null), Handler.ignoreEvent⟩
    let first := Instance.start "app" none handler 8 ⟨0, 0, by decide⟩
    let s : PageCalls :=
      ⟨first.serve ⟨"p", "p.html", "P"⟩, [.unpublish "p", .publish ⟨"p", "q.html", "Q"⟩]⟩
    (s.run [0, 0, 1, 1]).target.Agrees := by
  intro handler first s
  have deeds : s.deeds [0, 0, 1, 1] = [.withdrawn "p", .closed "p", .served "p", .opened "p"] := by
    decide
  refine (agrees_run_iff s (by decide) (by decide) [0, 0, 1, 1] (by decide)).2 fun page => ?_
  rw [deeds]
  by_cases same : "p" = page <;> simp [PageDeed.last?, PageDeed.serves?, PageDeed.opens?, same]

/-- The same calls, where the page is published anew between the two steps of its withdrawal: it is
served, but it is not open. -/
theorem crossing_disagrees :
    let handler : Handler := ⟨fun _ _ _ => .done (.ok .null), Handler.ignoreEvent⟩
    let first := Instance.start "app" none handler 8 ⟨0, 0, by decide⟩
    let s : PageCalls :=
      ⟨first.serve ⟨"p", "p.html", "P"⟩, [.unpublish "p", .publish ⟨"p", "q.html", "Q"⟩]⟩
    s.calls.all (·.isNew) ∧ s.target.Agrees ∧ (s.run [0, 1, 1, 0]).allFinished ∧
      (s.run [0, 1, 1, 0]).target.pages.pages.keys = ["p"] ∧
      (s.run [0, 1, 1, 0]).target.hub.pages.keys = [] := by
  decide

end PageCalls
end AppHost
