import AppHost.Proofs.Host.Succession

/-!
Applications do not notice each other. A host that others share answers what is asked of one
application as a host does that has this one alone, and the same is left of it.
-/

set_option autoImplicit false
namespace AppHost

namespace Host

/-- Without all that is asked of other applications, whatever it is and in whatever order, what is
asked of one is answered alike, and the same is left of it. This holds of runs in which time does
not go back. -/
theorem unaffected_by_others (options : HostOptions) (id : String)
    (operations : List (Moment × Operation))
    (forward : operations.Pairwise fun a b => a.1.elapsed ≤ b.1.elapsed) :
    let own := operations.filter fun o => o.2.mayConcern id
    let h := (new options).run operations
    let alone := (new options).run own
    (new options).answersTo id operations = (new options).answersTo id own ∧
      h.application id = alone.application id ∧ h.catalog.find? id = alone.catalog.find? id := by
  intro own h alone
  obtain ⟨answers, last, same⟩ :=
    (SameSince.refl id 0 (new options)).run (catalogued_new options) (fun _ _ => Nat.zero_le _) forward
  rw [sinceLaunch_zero] at answers same
  simp only [answersSince_zero, Answer.shift_zero, List.map_id'] at answers
  exact ⟨answers, same.application, same.manifest⟩

/-- The log of an application is thrown away when another one is stopped, and it is not found
afterwards. Without the other one it is still there, but not found either. -/
theorem unaffected_by_others_old_log :
    let handler : Handler := ⟨fun _ _ _ => .done (.ok .null), Handler.ignoreEvent⟩
    let after (elapsed : Nat) : Moment := ⟨⟨0, 0, by decide⟩, elapsed⟩
    let options : HostOptions := ⟨4, 10⟩
    let operations : List (Moment × Operation) :=
      [(after 0, .launchWith ⟨"a", none, []⟩ handler), (after 0, .launchWith ⟨"b", none, []⟩ handler),
        (after 0, .stop "b"), (after 12, .stop "a"), (after 12, .findLog "b")]
    let own := operations.filter fun o => o.2.mayConcern "b"
    ((new options).run (operations.take 4)).recentLogs.find? "b" = none ∧
      ((new options).run (own.take 2)).recentLogs.find? "b" = some ⟨0, 0⟩ ∧
      (new options).answersTo "b" operations = (new options).answersTo "b" own ∧
      (new options).answersTo "b" own =
        [.done (.ok ()), .done (.ok ()), .logged (.error (.applicationLogNotFound "b"))] := by
  intro handler after options operations own
  refine ⟨rfl, rfl, ?_, rfl⟩
  exact (unaffected_by_others options "b" operations (by simp [operations, after])).1

end Host
end AppHost
