/-! Attempts that are made in a row. The row succeeds if each of them does. -/

set_option autoImplicit false
namespace AppHost

variable {ε α β : Type}

theorem bind_eq_ok {x : Except ε α} {f : α → Except ε β} {b : β} (done : x >>= f = .ok b) :
    ∃ a, x = .ok a ∧ f a = .ok b := by
  cases x with
  | error e => cases done
  | ok a => exact ⟨a, rfl, done⟩

instance decidableExistsOk {p : α → Prop} [DecidablePred p] (x : Except ε α) :
    Decidable (∃ a, x = .ok a ∧ p a) :=
  match x with
  | .error _ => .isFalse nofun
  | .ok a => decidable_of_iff (p a) ⟨fun holds => ⟨a, rfl, holds⟩, fun ⟨_, same, holds⟩ => by
      cases same
      exact holds⟩

theorem forM_eq_ok_iff {items : List α} {f : α → Except ε Unit} :
    items.forM f = .ok () ↔ ∀ a ∈ items, f a = .ok () := by
  induction items with
  | nil =>
    refine ⟨fun done a member => ?_, fun all => rfl⟩
    cases member
  | cons a rest ih =>
    rw [List.forall_mem_cons, ← ih]
    constructor
    · intro done
      obtain ⟨u, first, later⟩ := bind_eq_ok done
      exact ⟨first, later⟩
    · rintro ⟨first, later⟩
      rw [List.forM, first]
      exact later

end AppHost
