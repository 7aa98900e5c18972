import AppHost.Proofs.Hub.Standing

/-!
What a subscription still finds if nothing more comes to it: at most one gap, then the messages that
are kept for it. Once its page is closed, that and nothing else is found, whatever is done later.
-/

set_option autoImplicit false
namespace AppHost

namespace Standing

/-- What can be found without waiting. -/
def retained (s : Standing) : List (Received ApplicationEvent) :=
  (if s.backlog.missed = 0 then [] else [.lagged s.backlog.missed]) ++
    s.backlog.kept.map .message

def last (s : Standing) : Received ApplicationEvent := if s.isOpen then .pending else .closed

theorem retained_ended (page : String) : (ended page).retained = [] := rfl

theorem retained_close (s : Standing) (page : String) : (s.close page).retained = s.retained := by
  unfold close
  split <;> rfl

theorem read_retained (s : Standing) :
    s.read.1 = s.retained.headD s.last ∧ s.read.2.retained = s.retained.tail ∧
      s.read.2.isOpen = s.isOpen ∧ s.read.2.page = s.page := by
  obtain ⟨page, ⟨missed, kept⟩, isOpen⟩ := s
  by_cases none : missed = 0
  · subst none
    cases kept with
    | nil => cases isOpen <;> exact ⟨rfl, rfl, rfl, rfl⟩
    | cons message rest => exact ⟨rfl, rfl, rfl, rfl⟩
  · simp [read, Backlog.take, retained, none, Received.settle]

theorem read_closed (s : Standing) (closed : s.read.1 = .closed) :
    s.retained = [] ∧ s.isOpen = false := by
  rw [s.read_retained.1] at closed
  have found : ∀ found ∈ s.retained, found ≠ .closed := by
    unfold retained
    split <;> simp
  cases retained : s.retained with
  | nil =>
    rw [retained] at closed
    refine ⟨rfl, ?_⟩
    cases isOpen : s.isOpen with
    | false => rfl
    | true =>
      simp [last, isOpen] at closed
  | cons first rest =>
    rw [retained] at closed found
    exact absurd closed (found first List.mem_cons_self)

theorem after_of_closed {capacity number : Nat} {s : Standing} {a : HubStep}
    (closed : s.isOpen = false) (others : a ≠ .receive number) (running : a ≠ .closeAll) :
    s.after capacity number a = s := by
  cases a with
  | closePage page => exact close_of_closed closed page
  | emitToPage page event =>
    simp only [after, accept_of_closed closed, ite_self]
  | emitToAll event => exact accept_of_closed closed capacity event
  | receive other =>
    have different : other ≠ number := fun same => others (same ▸ rfl)
    exact if_neg different
  | closeAll => exact absurd rfl running
  | _ => rfl

theorem foldl_after_page (capacity number : Nat) (s : Standing) (steps : List HubStep) :
    (steps.foldl (·.after capacity number) s).page = s.page := by
  induction steps generalizing s with
  | nil => rfl
  | cons a rest ih => exact (ih _).trans (after_page capacity number s a)

theorem foldl_after_of_closed {capacity number : Nat} {s : Standing} {steps : List HubStep}
    (closed : s.isOpen = false) (others : .receive number ∉ steps) (running : .closeAll ∉ steps) :
    steps.foldl (·.after capacity number) s = s := by
  induction steps with
  | nil => rfl
  | cons a rest ih =>
    obtain ⟨notOwn, othersLater⟩ := not_or.1 (mt List.mem_cons.2 others)
    obtain ⟨notAll, runningLater⟩ := not_or.1 (mt List.mem_cons.2 running)
    rw [List.foldl_cons, after_of_closed closed (Ne.symm notOwn) (Ne.symm notAll)]
    exact ih othersLater runningLater

end Standing

end AppHost
