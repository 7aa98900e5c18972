import AppHost.Proofs.Host.Frame
import AppHost.Proofs.Host.Streams

/-!
What holds of all instances, those that run and those that were stopped. It does so after any
operation if each new instance has it, and if it outlasts what is done to an instance.
-/

set_option autoImplicit false
namespace AppHost

namespace Instance

theorem holds_publishPages {p : Instance → Prop} {pages : List Page} {i after : Instance}
    (served : i.publishPages pages = (.ok (), after)) (first : p i)
    (serve : ∀ i page, p i → p (i.serve page)) : p after := by
  induction pages generalizing i with
  | nil =>
    cases served
    exact first
  | cons page rest ih => exact ih (publishPages_cons_eq_ok served).2 (serve i page first)

theorem handler_perform (i : Instance) (now : Moment) (op : Operation) :
    (i.perform now op).handler = i.handler := by
  rcases i.perform_cases now op with ⟨_, page, -, -, same⟩ | ⟨page, -, -, same⟩ | ⟨-, log, same⟩
  · rw [same]
    rfl
  · rw [same]
    rfl
  · rw [same]

end Instance

namespace Application
variable {a : Application} {p : Instance → Prop}

def All (p : Instance → Prop) (a : Application) : Prop := ∀ i ∈ a.instances, p i

theorem all_start (all : a.All p) {i : Instance} (new : p i) : (a.start i).All p := by
  intro j present
  rcases List.mem_append.1 present with before | last
  · exact all j (List.mem_append_left _ before)
  · cases List.mem_singleton.1 last
    exact new

theorem all_retire (all : a.All p) {time : Calendar.Instant} (stops : ∀ i, p i → p (i.stop time)) :
    (a.retire time).All p := by
  unfold retire
  cases current : a.current with
  | none => exact all
  | some i =>
    intro j present
    rw [instances, Option.toList_none, List.append_nil] at present
    rcases List.mem_append.1 present with before | last
    · exact all j (List.mem_append_left _ before)
    · cases List.mem_singleton.1 last
      exact stops i (all i (List.mem_append_right _ (by simp [current])))

theorem all_alter (all : a.All p) (launch : Nat) {change : Instance → Instance}
    (changes : ∀ i, p i → p (change i)) : (a.alter launch change).All p := by
  unfold alter
  cases found : a.instance? launch with
  | none => exact all
  | some i =>
    intro j present
    rw [instances_set] at present
    rcases List.mem_or_eq_of_mem_set present with same | changed
    · exact all j same
    · rw [changed]
      exact changes i (all i (List.mem_of_getElem? found))

end Application

namespace Host
variable {h : Host} {now : Moment} {p : Instance → Prop}

theorem all_perform (all : ∀ id, (h.application id).All p) {op : Operation}
    (launches : ∀ d handler i, h.Asks op d handler → h.Starts now d handler i → p i)
    (stops : ∀ i, p i → p (i.stop now.date))
    (works : op.addressee?.isSome → ∀ i, p i → p (i.perform now op)) (id : String) :
    ((h.perform now op).application id).All p := by
  have stop (other : String) : ((h.retire now other).application id).All p := by
    rw [application_retire]
    split
    · exact Application.all_retire (all id) stops
    · exact all id
  cases h.outcome now op with
  | refused same nothing =>
    rw [same]
    exact all id
  | registered asked valid after nothing =>
    rw [after]
    exact all id
  | @launched d handler i asked stopped starts after made =>
    rw [after]
    change ((h.setRunning d.applicationId i).application id).All p
    rw [application_setRunning]
    split
    · exact Application.all_start (all _) (launches d handler i asked starts)
    · exact all id
  | stopped asked runs after made =>
    rw [after]
    exact stop _
  | allStopped asked =>
    subst asked
    rw [application_stopAll]
    exact Application.all_retire (all id) stops
  | within isLocal after logs =>
    cases addressed : op.addressee? with
    | none =>
      have leaves := Operation.leavesPages_of_isLocal isLocal addressed
      exact application_perform_of_none h now leaves addressed id ▸ all id
    | some addressee =>
      rw [application_perform h now addressed id, application_alter]
      split
      · exact Application.all_alter (all id) _ (works (by rw [addressed]; rfl))
      · exact all id

end Host
end AppHost
