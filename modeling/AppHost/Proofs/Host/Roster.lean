import AppHost.Proofs.Host.History

/-!
The running instances under the ids of their applications. What is told of all that runs, such as
the list of running applications, is determined by what runs under each id.
-/

set_option autoImplicit false
namespace AppHost

namespace Host
variable {h : Host}

def roster (h : Host) : Dictionary Instance where
  entries := h.applications.entries.filterMap fun e => e.2.current.map (e.1, ·)
  ascending := by
    refine List.pairwise_filterMap.2 (h.applications.ascending.imp ?_)
    intro e f below a first b second
    obtain ⟨i, -, rfl⟩ := Option.map_eq_some_iff.1 first
    obtain ⟨j, -, rfl⟩ := Option.map_eq_some_iff.1 second
    exact below

theorem find?_roster (h : Host) (id : String) : h.roster.find? id = h.running? id := by
  refine Option.ext fun i => ?_
  rw [← Dictionary.mem_entries]
  simp only [roster, List.mem_filterMap, Option.map_eq_some_iff, Prod.mk.injEq]
  constructor
  · rintro ⟨⟨key, a⟩, member, j, runs, rfl, rfl⟩
    rw [running?, application, (h.applications.mem_entries key a).1 member]
    exact runs
  · intro runs
    unfold running? application at runs
    cases found : h.applications.find? id with
    | none =>
      rw [found] at runs
      cases runs
    | some a =>
      rw [found] at runs
      exact ⟨(id, a), (h.applications.mem_entries id a).2 found, i, runs, rfl, rfl⟩

theorem runningApplications_eq (h : Host) :
    h.runningApplications = h.roster.values.map (·.summary) := by
  simp only [runningApplications, Dictionary.values, roster, List.filterMap_map, List.map_filterMap]
  refine congrArg (List.filterMap · h.applications.entries) (funext fun e => ?_)
  rw [Option.map_map, Option.map_map]
  rfl

theorem runningIds_nodup (h : Host) : h.runningIds.Nodup :=
  h.applications.keys_nodup.sublist (List.filter_sublist.map _)

theorem values_roster_congr {β : Type} {f : Instance → β} {after : Host}
    (same : ∀ id, (after.running? id).map f = (h.running? id).map f) :
    after.roster.values.map f = h.roster.values.map f := by
  have entries : (after.roster.map fun _ i => f i).entries = (h.roster.map fun _ i => f i).entries := by
    refine Dictionary.entries_eq fun id => ?_
    rw [Dictionary.find?_map, Dictionary.find?_map, find?_roster, find?_roster]
    exact same id
  have values (d : Dictionary Instance) :
      d.values.map f = (d.map fun _ i => f i).entries.map (·.2) := by
    simp [Dictionary.values, Dictionary.map]
  rw [values, values, entries]

theorem mem_values_roster (h : Host) (i : Instance) :
    i ∈ h.roster.values ↔ ∃ id, h.running? id = some i := by
  simp only [Dictionary.values, List.mem_map, Prod.exists, exists_eq_right, Dictionary.mem_entries,
    find?_roster]

end Host
end AppHost
