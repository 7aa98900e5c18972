import AppHost.Proofs.Hub.Standing
import Mathlib.Algebra.GroupWithZero.Nat
import Mathlib.Data.List.Nodup

/-!
Who still gets what is sent. A hub counts the readers of a page that it has as subscriptions on the
feed of the page; here they are those that stand open on it. To send to all is to send to every
reader of every page, once each.
-/

set_option autoImplicit false
namespace AppHost

namespace Hub
variable {h : Hub}

/-- Those who still get what is sent to a page. -/
def readers (h : Hub) (page : String) : List Nat :=
  (List.range h.subscriptions.length).filter fun number =>
    (h.standing? number).any fun s => s.isOpen && s.page = page

def listeners (h : Hub) : List Nat :=
  (List.range h.subscriptions.length).filter fun number => (h.standing? number).any (·.isOpen)

theorem lt_of_standing? {number : Nat} {s : Standing} (present : h.standing? number = some s) :
    number < h.subscriptions.length := by
  obtain ⟨subscription, found, -⟩ := Option.map_eq_some_iff.1 present
  exact lt_of_subscription? found

theorem mem_readers (h : Hub) (page : String) (number : Nat) :
    number ∈ h.readers page ↔
      ∃ s, h.standing? number = some s ∧ s.isOpen = true ∧ s.page = page := by
  simp only [readers, List.mem_filter, List.mem_range, Option.any_eq_true, Bool.and_eq_true,
    decide_eq_true_eq]
  refine ⟨And.right, fun reads => ⟨?_, reads⟩⟩
  obtain ⟨s, present, -⟩ := reads
  exact lt_of_standing? present

theorem mem_listeners (h : Hub) (number : Nat) :
    number ∈ h.listeners ↔ ∃ s, h.standing? number = some s ∧ s.isOpen = true := by
  simp only [listeners, List.mem_filter, List.mem_range, Option.any_eq_true]
  refine ⟨And.right, fun listens => ⟨?_, listens⟩⟩
  obtain ⟨s, present, -⟩ := listens
  exact lt_of_standing? present

theorem length_filter_range {α : Type} (p : α → Bool) (l : List α) :
    ((List.range l.length).filter fun i => l[i]?.any p).length = (l.filter p).length := by
  induction l with
  | nil => rfl
  | cons head rest ih =>
    rw [List.length_cons, List.range_succ_eq_map, List.filter_cons, List.filter_map]
    simp only [Function.comp_def, List.getElem?_cons_succ, List.getElem?_cons_zero, Option.any_some]
    cases keeps : p head <;> simp [keeps, ih]

theorem standing_isLiveOn (up : h.isShutDown = false) (s : Subscription) (page : String) :
    ((h.standing s).isOpen && (h.standing s).page = page) =
      (h.pages.contains page && s.isLiveOn page) := by
  rw [Bool.eq_iff_iff]
  simp only [Bool.and_eq_true, isOpen_standing, standing_page, decide_eq_true_eq, up, true_and,
    Dictionary.contains, Subscription.isLiveOn]
  cases s.source with
  | final feed => simp
  | live =>
    simp only [true_and, decide_eq_true_eq]
    constructor
    · rintro ⟨found, rfl⟩
      exact ⟨found, rfl⟩
    · rintro ⟨found, rfl⟩
      exact ⟨found, rfl⟩

theorem subscriberCount_eq (up : h.isShutDown = false) (page : String) :
    h.subscriberCount page = (h.readers page).length := by
  have same : h.readers page = (List.range h.subscriptions.length).filter fun number =>
      h.subscriptions[number]?.any (·.any fun s => h.pages.contains page && s.isLiveOn page) := by
    refine List.filter_congr fun number _ => ?_
    unfold standing? subscription?
    rcases h.subscriptions[number]? with _ | _ | s
    · rfl
    · rfl
    · exact standing_isLiveOn up s page
  rw [same, length_filter_range, subscriberCount]
  cases h.pages.contains page <;> simp

theorem isOpen_page_of_standing? {number : Nat} {s : Standing}
    (present : h.standing? number = some s) (isOpen : s.isOpen = true) : s.page ∈ h.pages.keys := by
  obtain ⟨subscription, -, rfl⟩ := Option.map_eq_some_iff.1 present
  rw [Dictionary.mem_keys, standing_page]
  exact ((isOpen_standing h subscription).1 isOpen).2.2

theorem reached_emitToPage (h : Hub) (page : String) (event : ApplicationEvent) :
    (h.emitToPage page event).1 = h.subscriberCount page := by
  unfold emitToPage
  split
  · rename_i absent
    simp [subscriberCount, Dictionary.contains, absent]
  · rfl

theorem reached_emitToAll (h : Hub) (event : ApplicationEvent) :
    (h.emitToAll event).1 = (h.pages.keys.map h.subscriberCount).sum := by
  rw [List.sum_eq_foldl, List.foldl_map]
  rfl

theorem sum_readers (h : Hub) :
    (h.pages.keys.map fun page => (h.readers page).length).sum = h.listeners.length := by
  rw [← List.length_flatMap]
  -- Both lists name everyone once, since nobody reads two pages.
  refine List.Perm.length_eq ((List.perm_ext_iff_of_nodup ?_ ?_).2 fun number => ?_)
  · refine List.nodup_flatMap.2 ⟨fun page _ => List.nodup_range.filter _, ?_⟩
    refine h.pages.keys_nodup.imp fun {first second} different => ?_
    intro number inFirst inSecond
    obtain ⟨s, present, -, page⟩ := (mem_readers h first number).1 inFirst
    obtain ⟨_, same, -, rfl⟩ := (mem_readers h second number).1 inSecond
    rw [present] at same
    cases same
    exact different page.symm
  · exact List.nodup_range.filter _
  · simp only [List.mem_flatMap, mem_readers, mem_listeners]
    constructor
    · rintro ⟨page, -, s, present, isOpen, -⟩
      exact ⟨s, present, isOpen⟩
    · rintro ⟨s, present, isOpen⟩
      exact ⟨s.page, isOpen_page_of_standing? present isOpen, s, present, isOpen, rfl⟩

theorem reached_emitToAll_of_up (up : h.isShutDown = false) (event : ApplicationEvent) :
    (h.emitToAll event).1 = h.listeners.length := by
  rw [reached_emitToAll, ← sum_readers]
  exact congrArg List.sum (List.map_congr_left fun page _ => subscriberCount_eq up page)

end Hub
end AppHost
