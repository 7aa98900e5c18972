import AppHost.Admin.Service
import AppHost.Procedure
import AppHost.Proofs.Attempts
import AppHost.Proofs.Host.Operation

/-!
What can be asked of a host from outside: manifests are registered, clients make calls and follow
streams, and operators send their requests. Each of these comes down to one operation at most. None
brings behaviour of its own along, and an event that an operator sends has a name.
-/

set_option autoImplicit false
namespace AppHost

def ApplicationEvent.IsNamed (event : ApplicationEvent) : Prop := event.name ≠ ""

inductive Demand
  | register (manifest : Manifest)
  | call (procedure : Procedure) (bytes : List UInt8)
  -- A stream is opened, read from, and given up.
  | consume (bytes : List UInt8)
  | receive (stream : SubscriptionRef)
  | giveUp (stream : SubscriptionRef)
  | admin (request : Admin.Request)

/-- What comes from outside: no application's code acts but on a call, and no event lacks a name. -/
def Operation.IsFromOutside : Operation → Prop
  | .launchWith _ _ => False
  | .emitToPage _ event => event.IsNamed
  | .emitToAll _ event => event.IsNamed
  | .sendToPage _ _ _ => False
  | .sendToAll _ _ => False
  | _ => True

namespace Host

def meet (h : Host) (now : Moment) : Demand → Host
  | .register m => (h.register m).2
  | .call procedure bytes => (procedure.call h now bytes).2
  | .consume bytes =>
    match Wire.Kind.consumeRequest.schema.decode bytes with
    | .ok m => (h.subscribe m.page).2
    | .error _ => h
  | .receive stream => (h.receive stream).2
  | .giveUp stream => h.unsubscribe stream
  | .admin request => (Admin.answer h now request).2

def meetAll (h : Host) (demands : List (Moment × Demand)) : Host :=
  demands.foldl (fun h d => h.meet d.1 d.2) h

/-- An operation from outside has this effect, and registers no more than the demand does. -/
def Performs (h : Host) (now : Moment) (d : Demand) (after : Host) : Prop :=
  ∃ op : Operation, op.IsFromOutside ∧ after = h.perform now op ∧
    ∀ m, op = .register m → d = .register m

variable {h : Host} {now : Moment} {d : Demand}

theorem performs_nothing (h : Host) (now : Moment) (d : Demand) : h.Performs now d h :=
  ⟨.resolvePage ⟨"", ""⟩, trivial, (h.resolvePage_snd _).symm, fun _ same => by cases same⟩

theorem call_eq {procedure : Procedure} {bytes : List UInt8} {m : procedure.request.Content}
    (read : procedure.request.schema.decode bytes = .ok m) (h : Host) (now : Moment) :
    (procedure.call h now bytes).2 = (procedure.run h now m).2 := by
  unfold Procedure.call
  rw [read]
  dsimp only
  rcases procedure.run h now m with ⟨answer, after⟩
  cases answer <;> rfl

theorem performs_call (h : Host) (now : Moment) (procedure : Procedure) (bytes : List UInt8) :
    h.Performs now (.call procedure bytes) (procedure.call h now bytes).2 := by
  cases read : procedure.request.schema.decode bytes with
  | error fault =>
    rw [Procedure.call, read]
    exact performs_nothing ..
  | ok m =>
    rw [call_eq read]
    cases procedure with
    | resolvePage => exact ⟨.resolvePage m.page, trivial, rfl, fun _ same => by cases same⟩
    | invoke => exact ⟨.invoke m.invocation, trivial, rfl, fun _ same => by cases same⟩
    | trigger => exact ⟨.trigger m.trigger, trivial, rfl, fun _ same => by cases same⟩

theorem done_eq (result : Except RuntimeError Unit × Host) : (Admin.done result).2 = result.2 := by
  obtain ⟨_ | _, after⟩ := result <;> rfl

theorem performs_emit (h : Host) (now : Moment) (d : Demand) (id : String) (b : Admin.EventBody) :
    h.Performs now d (Admin.emit h id b).2 := by
  unfold Admin.emit
  split
  · exact performs_nothing ..
  · rename_i given
    have named : (ApplicationEvent.ofValues b.name b.arguments).IsNamed :=
      fun empty => given (String.isEmpty_iff.2 empty)
    dsimp only
    cases b.pageId with
    | some page =>
      refine ⟨.emitToPage ⟨id, page⟩ (.ofValues b.name b.arguments), named, ?_,
        fun _ same => by cases same⟩
      dsimp only [perform]
      obtain ⟨_ | _, after⟩ := h.emitToPage ⟨id, page⟩ (.ofValues b.name b.arguments) <;> rfl
    | none =>
      refine ⟨.emitToAll id (.ofValues b.name b.arguments), named, ?_, fun _ same => by cases same⟩
      dsimp only [perform]
      obtain ⟨_ | _, after⟩ := h.emitToAll id (.ofValues b.name b.arguments) <;> rfl

theorem log_eq (h : Host) (now : Moment) (id : String) :
    (Admin.log h now id).2 = (h.findLog now id).2 := by
  unfold Admin.log
  rcases h.findLog now id with ⟨answer, after⟩
  cases answer with
  | error e => rfl
  | ok ref =>
    dsimp only
    split <;> rfl

theorem performs_route (h : Host) (now : Moment) (d : Demand) (r : Admin.Request)
    (route : Admin.Route) {answered : Admin.Response × Host}
    (answer : Admin.perform h now r route = .ok answered) : h.Performs now d answered.2 := by
  cases route with
  | health | applications | lifecycle =>
    cases answer
    exact performs_nothing ..
  | launch application =>
    obtain ⟨id, -, answer⟩ := bind_eq_ok answer
    obtain ⟨version, -, answer⟩ := bind_eq_ok answer
    cases answer
    exact ⟨.launch id version, trivial, done_eq .., fun _ same => by cases same⟩
  | stop application =>
    obtain ⟨id, -, answer⟩ := bind_eq_ok answer
    cases answer
    exact ⟨.stop id, trivial, done_eq .., fun _ same => by cases same⟩
  | log application =>
    obtain ⟨id, -, answer⟩ := bind_eq_ok answer
    cases answer
    exact ⟨.findLog id, trivial, log_eq .., fun _ same => by cases same⟩
  | page application page =>
    obtain ⟨ref, -, answer⟩ := bind_eq_ok answer
    split at answer
    · cases answer
      exact ⟨.unpublishPage ref, trivial, done_eq .., fun _ same => by cases same⟩
    · obtain ⟨b, -, answer⟩ := bind_eq_ok answer
      cases answer
      exact ⟨.publishPage ref.applicationId ⟨ref.pageId, b.file, b.title⟩, trivial, done_eq ..,
        fun _ same => by cases same⟩
  | events application =>
    obtain ⟨id, -, answer⟩ := bind_eq_ok answer
    obtain ⟨b, -, answer⟩ := bind_eq_ok answer
    cases answer
    exact performs_emit h now d id b

/-- Whatever is asked for comes down to one operation from outside. -/
theorem performs_meet (h : Host) (now : Moment) (d : Demand) : h.Performs now d (h.meet now d) := by
  cases d with
  | register m =>
    refine ⟨.register m, trivial, rfl, fun other same => ?_⟩
    cases same
    rfl
  | call procedure bytes => exact performs_call h now procedure bytes
  | consume bytes =>
    simp only [meet]
    split
    · rename_i m read
      exact ⟨.subscribe m.page, trivial, rfl, fun _ same => by cases same⟩
    · exact performs_nothing ..
  | receive stream => exact ⟨.receive stream, trivial, rfl, fun _ same => by cases same⟩
  | giveUp stream => exact ⟨.unsubscribe stream, trivial, rfl, fun _ same => by cases same⟩
  | admin r =>
    simp only [meet, Admin.answer]
    split
    · exact performs_nothing ..
    · rename_i route found
      split
      · cases answer : Admin.perform h now r route with
        | error refusal => exact performs_nothing ..
        | ok answered => exact performs_route h now _ r route answer
      · exact performs_nothing ..

end Host
end AppHost
