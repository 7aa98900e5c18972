import AppHost.Proofs.Hub.Runs
import AppHost.Proofs.Instance.PageCalls

/-!
Calls on an instance while it is stopped. Those who hold the instance go on calling it, and the
steps of their calls come before those of the stop, between them and after them. So a page may be
served and opened again on a hub that is shut down, and who looked at the hub in time may subscribe
to it even then. Nothing is received all the same.
-/

set_option autoImplicit false
namespace AppHost
open Calendar (Instant)

inductive CallAnswer
  | stopped
  | subscribed (outcome : Except RuntimeError Nat)
  | unsubscribed
  | reached (count : Nat)
  | received (found : Received ApplicationEvent)

/-- A call by one who holds the instance, as far as it has come. -/
inductive HeldCall
  | pages (call : PageCall)
  | subscribe (page : String)
  -- The page is served. Is the hub shut down?
  | entering (page : String)
  -- It was not. Is the page open?
  | attaching (page : String)
  | emitToPage (page : String) (event : ApplicationEvent)
  | emitToAll (event : ApplicationEvent)
  | receive (number : Nat)
  | unsubscribe (number : Nat)
  | stop (time : Instant)
  -- The hub is shut down, and its pages are closed next.
  | clearing (time : Instant)
  | noting (time : Instant)
  | answered (answer : CallAnswer)

namespace HeldCall

/-- The next step of a call. To receive is to wait as long as there is nothing yet. -/
def step (i : Instance) : HeldCall → HeldCall × Instance
  | .pages call => (.pages (call.step i).1, (call.step i).2)
  | .subscribe page =>
    match i.resolvePage page with
    | .error e => (.answered (.subscribed (.error e)), i)
    | .ok _ => (.entering page, i)
  | .entering page =>
    if i.hub.isShutDown then (.answered (.subscribed (.error (.pageNotFound (i.pageRef page)))), i)
    else (.attaching page, i)
  | .attaching page =>
    match i.hub.attach page with
    | (none, hub) =>
      (.answered (.subscribed (.error (.pageNotFound (i.pageRef page)))), { i with hub })
    | (some number, hub) => (.answered (.subscribed (.ok number)), { i with hub })
  | .emitToPage page event =>
    (.answered (.reached (i.emitToPage page event).1), (i.emitToPage page event).2)
  | .emitToAll event => (.answered (.reached (i.emitToAll event).1), (i.emitToAll event).2)
  | .receive number =>
    match i.receive number with
    | (.pending, after) => (.receive number, after)
    | (found, after) => (.answered (.received found), after)
  | .unsubscribe number => (.answered .unsubscribed, i.unsubscribe number)
  | .stop time => (.clearing time, { i with hub := i.hub.shutDown })
  | .clearing time => (.noting time, { i with hub := i.hub.clear })
  | .noting time =>
    (.answered .stopped, i.write time .runtime "application instance stopped")
  | .answered answer => (.answered answer, i)

def found? (i : Instance) : HeldCall → Option (Received ApplicationEvent)
  | .receive number => some (i.receive number).1
  | _ => none

def alone (i : Instance) (c : HeldCall) : HeldCall × Instance :=
  let (second, i) := c.step i
  let (third, i) := second.step i
  third.step i

theorem alone_subscribe (i : Instance) (page : String) :
    alone i (.subscribe page) =
      (.answered (.subscribed (i.subscribe page).1), (i.subscribe page).2) := by
  unfold alone Instance.subscribe Hub.subscribe
  cases resolved : i.resolvePage page with
  | error e => simp only [step, resolved]
  | ok answer =>
    cases down : i.hub.isShutDown with
    | true =>
      simp only [step, resolved, down]
      rfl
    | false =>
      simp only [step, resolved, down, Bool.false_eq_true, if_false]
      obtain ⟨_ | number, after⟩ := i.hub.attach page <;> rfl

theorem alone_stop (i : Instance) (time : Instant) :
    alone i (.stop time) = (.answered .stopped, i.stop time) := rfl

end HeldCall

/-! ### One step -/

theorem PageCall.isShutDown_step (i : Instance) (c : PageCall) :
    (c.step i).2.hub.isShutDown = i.hub.isShutDown := by
  cases c with
  | publish page =>
    rw [step_publish]
    cases page.validate <;> rfl
  | unpublish page =>
    rw [step_unpublish]
    split <;> rfl
  | replacing page | closing page => exact Hub.isShutDown_closePage i.hub page
  | opening page => exact Hub.isShutDown_step i.hub (a := .openPage page) (by simp)
  | finished answer => rfl

namespace HeldCall
variable {i : Instance}

theorem isShutDown_step (down : i.hub.isShutDown = true) (c : HeldCall) :
    (c.step i).2.hub.isShutDown = true := by
  have kept {a : HubStep} (other : a ≠ .closeAll) : (i.hub.step a).isShutDown = true :=
    (Hub.isShutDown_step i.hub other).trans down
  cases c with
  | pages call => exact (PageCall.isShutDown_step i call).trans down
  | subscribe page =>
    simp only [step]
    cases i.resolvePage page <;> exact down
  | entering page =>
    simp only [step, down]
    exact down
  | attaching page =>
    simp only [step]
    unfold Hub.attach
    cases i.hub.pages.find? page <;> exact down
  | emitToPage page event => exact kept (a := .emitToPage page event) (by simp)
  | emitToAll event => exact kept (a := .emitToAll event) (by simp)
  | receive number =>
    have after : (step i (.receive number)).2 = (i.receive number).2 := by
      simp only [step]
      split
      · rename_i found
        rw [found]
      · rename_i found
        rw [found]
    rw [after]
    exact kept (a := .receive number) (by simp)
  | unsubscribe number => exact kept (a := .unsubscribe number) (by simp)
  | stop time => rfl
  | clearing time => exact (Hub.isShutDown_clear i.hub).trans down
  | noting time => exact down
  | answered answer => exact down

end HeldCall

theorem Hub.receive_of_isShutDown {h : Hub} (down : h.isShutDown = true) (number : Nat) :
    (h.receive number).1 = .closed := by
  cases present : h.subscription? number with
  | none => rw [receive_of_absent present]
  | some s =>
    rw [receive_of_present present]
    simp [next, down]

/-! ### Steps in any order -/

structure HeldCalls where
  target : Instance
  calls : List HeldCall

namespace HeldCalls

def step (s : HeldCalls) (turn : Nat) : HeldCalls :=
  match s.calls[turn]? with
  | some c => ⟨(c.step s.target).2, s.calls.set turn (c.step s.target).1⟩
  | none => s

def run (s : HeldCalls) (turns : List Nat) : HeldCalls := turns.foldl step s

def found : HeldCalls → List Nat → List (Received ApplicationEvent)
  | _, [] => []
  | s, turn :: rest => (s.calls[turn]?.bind (·.found? s.target)).toList ++ (s.step turn).found rest

theorem run_append (s : HeldCalls) (before after : List Nat) :
    s.run (before ++ after) = (s.run before).run after := List.foldl_append

theorem step_of_present {s : HeldCalls} {turn : Nat} {c : HeldCall}
    (present : s.calls[turn]? = some c) :
    s.step turn = ⟨(c.step s.target).2, s.calls.set turn (c.step s.target).1⟩ := by
  simp only [step, present]

theorem isShutDown_step {s : HeldCalls} (down : s.target.hub.isShutDown = true) (turn : Nat) :
    (s.step turn).target.hub.isShutDown = true := by
  unfold step
  cases s.calls[turn]? with
  | none => exact down
  | some c => exact c.isShutDown_step down

theorem isShutDown_run {s : HeldCalls} (down : s.target.hub.isShutDown = true)
    (turns : List Nat) : (s.run turns).target.hub.isShutDown = true := by
  induction turns generalizing s with
  | nil => exact down
  | cons turn rest ih => exact ih (isShutDown_step down turn)

end HeldCalls
end AppHost
