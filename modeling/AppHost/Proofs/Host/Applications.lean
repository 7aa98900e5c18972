import AppHost.Host

/-!
The instances of one application under the changes that an operation of the host can make: one is
launched, the running one is stopped, or one of them goes on. The numbers of instances do not
change, so that who holds a number still means the same instance later.
-/

set_option autoImplicit false
namespace AppHost
open Calendar (Instant)

namespace Application

def retire (a : Application) (time : Instant) : Application :=
  match a.current with
  | some i => ⟨a.retired ++ [i.stop time], .none⟩
  | .none => a

def alter (a : Application) (launch : Nat) (change : Instance → Instance) : Application :=
  match a.instance? launch with
  | some i => a.set launch (change i)
  | .none => a

def start (a : Application) (i : Instance) : Application := { a with current := some i }

variable {a : Application}

theorem instance?_running (a : Application) : a.instance? a.retired.length = a.current := by
  rw [instance?, instances, List.getElem?_append_right (Nat.le_refl _), Nat.sub_self]
  cases a.current <;> rfl

theorem set_running {i : Instance} (running : a.current = some i) (next : Instance) :
    a.set a.retired.length next = a.start next := by
  simp [set, start, running]

theorem retire_of_none (stopped : a.current = .none) (time : Instant) : a.retire time = a := by
  simp [retire, stopped]

theorem current_retire (a : Application) (time : Instant) : (a.retire time).current = .none := by
  unfold retire
  split
  · rfl
  · assumption

theorem instances_set (a : Application) (launch : Nat) (i : Instance) :
    (a.set launch i).instances = a.instances.set launch i := by
  unfold set instances
  rw [List.set_append]
  split
  · rfl
  · split
    · rename_i last
      rw [last, Nat.sub_self]
      cases a.current <;> rfl
    · rename_i notBefore notLast
      obtain ⟨distance, beyond⟩ : ∃ n, launch - a.retired.length = n + 1 :=
        Nat.exists_eq_succ_of_ne_zero (by omega)
      rw [beyond]
      cases a.current <;> rfl

theorem instance?_alter (a : Application) (launch : Nat) (change : Instance → Instance)
    (other : Nat) :
    (a.alter launch change).instance? other =
      if other = launch then (a.instance? other).map change else a.instance? other := by
  unfold alter
  cases found : a.instance? launch with
  | none =>
    dsimp only
    split
    · rename_i same
      rw [same, found, Option.map_none]
    · rfl
  | some i =>
    obtain ⟨inside, -⟩ := List.getElem?_eq_some_iff.1 found
    simp only [instance?, instances_set, List.getElem?_set, inside, if_true, eq_comm (a := launch)]
    split
    · rename_i same
      rw [same]
      exact (congrArg (Option.map change) found).symm
    · rfl

theorem instance?_retire (a : Application) (time : Instant) (launch : Nat) :
    (a.retire time).instance? launch =
      if launch = a.retired.length then (a.instance? launch).map (·.stop time)
      else a.instance? launch := by
  have same : (a.retire time).instances = (a.alter a.retired.length (·.stop time)).instances := by
    unfold retire alter
    rw [instance?_running]
    cases running : a.current with
    | none => rfl
    | some i => simp [set, instances, running]
  rw [← instance?_alter]
  exact congrArg (·[launch]?) same

theorem instance?_start {i : Instance} (stopped : a.current = .none) (launch : Nat) :
    (a.start i).instance? launch =
      if launch = a.retired.length then some i else a.instance? launch := by
  have instances : (a.start i).instances = a.instances ++ [i] := by
    simp [start, Application.instances, stopped]
  have length : a.instances.length = a.retired.length := by
    simp [Application.instances, stopped]
  rw [instance?, instances]
  split
  · rename_i new
    rw [new, ← length, List.getElem?_concat_length]
  · rename_i old
    rcases Nat.lt_or_gt_of_ne old with before | beyond
    · exact List.getElem?_append_left (length ▸ before)
    · rw [instance?, List.getElem?_eq_none, List.getElem?_eq_none]
      · omega
      · rw [List.length_append, List.length_singleton]
        omega

theorem current_alter (a : Application) (launch : Nat) (change : Instance → Instance) :
    (a.alter launch change).current =
      if launch = a.retired.length then a.current.map change else a.current := by
  unfold alter
  split
  · rename_i i found
    unfold set
    split
    · rename_i before
      rw [if_neg (Nat.ne_of_lt before)]
    · split
      · rename_i last
        rw [last, instance?_running] at found
        simp [found]
      · rfl
  · rename_i absent
    split
    · rename_i last
      rw [last, instance?_running] at absent
      simp [absent]
    · rfl

end Application

theorem Host.instance?_runningRef (h : Host) (id : String) :
    h.instance? (h.runningRef id) = h.running? id :=
  (h.application id).instance?_running

end AppHost
