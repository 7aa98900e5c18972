import AppHost.Proofs.Attempts
import AppHost.Proofs.Host.Frame

/-!
The catalog of a host. Of each application it has the manifest that was registered last, of those
that are valid, and nothing but a registration changes it.
-/

set_option autoImplicit false
namespace AppHost

namespace Manifest
variable {m : Manifest}

theorem validate_eq_ok_iff (m : Manifest) :
    m.validate = .ok () ↔
      m.id.isEmpty = false ∧ (∀ page ∈ m.pageList, page.validate = .ok ()) ∧
        ∀ method ∈ m.methods.entries, validateMethod m.id method = .ok () := by
  rw [← forM_eq_ok_iff, ← forM_eq_ok_iff]
  unfold validate
  cases m.id.isEmpty with
  | true => simp [throw, throwThe, MonadExceptOf.throw, bind, Except.bind]
  | false =>
    constructor
    · intro valid
      obtain ⟨u, pages, methods⟩ := bind_eq_ok valid
      exact ⟨rfl, pages, methods⟩
    · rintro ⟨-, pages, methods⟩
      simp only [Bool.false_eq_true, if_false, pages]
      exact methods

end Manifest

/-- The manifest under which an operation enters an application in the catalog. -/
def Operation.declares? (id : String) : Operation → Option Manifest
  | .register m => if m.validate.isOk && m.id = id then some m else none
  | _ => none

/-- The valid manifest of an application that was registered last. -/
def latest? (id : String) (operations : List (Moment × Operation)) : Option Manifest :=
  operations.reverse.findSome? fun o => o.2.declares? id

namespace Host
variable {h : Host}

theorem find?_catalog_perform (h : Host) (now : Moment) (op : Operation) (id : String) :
    (h.perform now op).catalog.find? id = (op.declares? id).or (h.catalog.find? id) := by
  cases op with
  | register m =>
    simp only [perform, Operation.declares?]
    cases valid : m.validate with
    | error e =>
      rw [register_of_invalid valid]
      rfl
    | ok u =>
      rw [register_of_valid valid]
      change (h.catalog.insert m.id m).find? id = _
      rw [Dictionary.find?_insert]
      by_cases same : m.id = id <;> simp [same, Except.isOk, Except.toBool]
  | _ =>
    rcases h.catalog_perform now _ with same | ⟨m, registers, -⟩
    · rw [same]
      rfl
    · cases registers

theorem find?_catalog_register {m : Manifest} (valid : m.validate = .ok ()) (h : Host)
    (now : Moment) : (h.perform now (.register m)).catalog.find? m.id = some m := by
  simp [find?_catalog_perform, Operation.declares?, valid, Except.isOk, Except.toBool]

/-- Valid manifests can be registered in turn, and of each application the last one stays. -/
theorem registerAll_of_valid {manifests : List Manifest}
    (valid : ∀ m ∈ manifests, m.validate = .ok ()) (h : Host) :
    ∃ registered, h.registerAll manifests = (.ok (), registered) ∧
      ∀ id, registered.catalog.find? id =
        (manifests.filter (·.id = id)).getLast?.or (h.catalog.find? id) := by
  induction manifests generalizing h with
  | nil => exact ⟨h, rfl, fun _ => rfl⟩
  | cons m rest ih =>
    obtain ⟨first, later⟩ := List.forall_mem_cons.1 valid
    obtain ⟨registered, done, found⟩ := ih later { h with catalog := h.catalog.insert m.id m }
    refine ⟨registered, ?_, fun id => ?_⟩
    · rw [registerAll, register_of_valid first]
      exact done
    · rw [found, Dictionary.find?_insert]
      by_cases own : m.id = id
      · cases last : (rest.filter (·.id = id)).getLast? <;> simp [own, last, List.getLast?_cons]
      · simp [own]

theorem find?_catalog_run (h : Host) (operations : List (Moment × Operation)) (id : String) :
    (h.run operations).catalog.find? id =
      (latest? id operations).or (h.catalog.find? id) := by
  induction operations generalizing h with
  | nil => rfl
  | cons o rest ih =>
    have later := ih (h.perform o.1 o.2)
    rw [find?_catalog_perform, ← Option.or_assoc] at later
    rw [latest?, List.reverse_cons, List.findSome?_append]
    refine later.trans (congrArg (Option.or · _) ?_)
    rw [latest?, List.findSome?_singleton]

/-- The manifests of the catalog are valid and stand under their own ids. -/
def Catalogued (h : Host) : Prop :=
  ∀ id m, h.catalog.find? id = some m → m.id = id ∧ m.validate = .ok ()

theorem catalogued_new (options : HostOptions) : (new options).Catalogued := by
  intro id m found
  cases found

theorem catalogued_perform (catalogued : h.Catalogued) (now : Moment) (op : Operation) :
    (h.perform now op).Catalogued := by
  intro id m found
  rcases h.catalog_perform now op with same | ⟨new, -, valid, inserted⟩
  · rw [same] at found
    exact catalogued id m found
  · rw [inserted, Dictionary.find?_insert] at found
    split at found
    · rename_i here
      cases found
      exact ⟨here, valid⟩
    · exact catalogued id m found

theorem catalogued_run (catalogued : h.Catalogued) (operations : List (Moment × Operation)) :
    (h.run operations).Catalogued := by
  induction operations generalizing h with
  | nil => exact catalogued
  | cons o rest ih => exact ih (catalogued_perform catalogued o.1 o.2)

end Host
end AppHost
