import AppHost.Proofs.Host.Operation
import Mathlib.Control.Monad.Basic

/-!
What an operation answers to who asked for it, and which application it is addressed to. A launch
answers with nothing but success: what it started is seen in the application.
-/

set_option autoImplicit false
namespace AppHost

inductive Answer
  | done (result : Except RuntimeError Unit)
  | resolved (result : Except RuntimeError ResolvedPage)
  | subscribed (result : Except RuntimeError SubscriptionRef)
  | received (found : Received ApplicationEvent)
  | invoked (result : Except RuntimeError MethodResult)
  -- How many streams an event reached.
  | reached (result : Except RuntimeError Nat)
  -- An application's code is told the same, if there is an instance that sends.
  | sent (reached : Option Nat)
  -- Who writes a log, and what is in it.
  | logged (result : Except RuntimeError (InstanceRef × Option Log))

deriving instance DecidableEq for Answer

namespace Answer

def failure? {α : Type} : Except RuntimeError α → Option RuntimeError
  | .ok _ => none
  | .error e => some e

def error? : Answer → Option RuntimeError
  | .done result => failure? result
  | .resolved result => failure? result
  | .subscribed result => failure? result
  | .received _ => none
  | .invoked result => failure? result
  | .reached result => failure? result
  | .sent _ => none
  | .logged result => failure? result

theorem failure?_eq_some_iff {α : Type} {result : Except RuntimeError α} {e : RuntimeError} :
    failure? result = some e ↔ result = .error e := by
  cases result <;> simp [failure?]

end Answer

/-- The application that an operation is addressed to, unless it speaks of all. -/
def Operation.application? : Operation → Option String
  | .register m => some m.id
  | .launch id _ => some id
  | .launchWith d _ => some d.applicationId
  | .stop id => some id
  | .stopAll _ => none
  | .publishPage id _ => some id
  | .unpublishPage page => some page.applicationId
  | .resolvePage page => some page.applicationId
  | .subscribe page => some page.applicationId
  | .receive stream => some stream.target.applicationId
  | .unsubscribe stream => some stream.target.applicationId
  | .invoke call => some call.applicationId
  | .trigger t => some t.applicationId
  | .emitToPage page _ => some page.applicationId
  | .emitToAll id _ => some id
  | .sendToPage source _ _ => some source.applicationId
  | .sendToAll source _ => some source.applicationId
  | .findLog id => some id

namespace Host

def answer (h : Host) (now : Moment) : Operation → Answer
  | .register m => .done (h.register m).1
  | .launch id version => .done (h.launch now id version).1
  | .launchWith d handler => .done (h.launchWith now d handler).1
  | .stop id => .done (h.stop now id).1
  | .stopAll _ => .done (.ok ())
  | .publishPage id page => .done (h.publishPage id page).1
  | .unpublishPage page => .done (h.unpublishPage page).1
  | .resolvePage page => .resolved (h.resolvePage page).1
  | .subscribe page => .subscribed (h.subscribe page).1
  | .receive stream => .received (h.receive stream).1
  | .unsubscribe _ => .done (.ok ())
  | .invoke call => .invoked (h.invoke now call).1
  | .trigger t => .done (h.trigger now t).1
  | .emitToPage page event => .reached (h.emitToPage page event).1
  | .emitToAll id event => .reached (h.emitToAll id event).1
  | .sendToPage source page event =>
    .sent ((h.instance? source).map fun i => (i.emitToPage page event).1)
  | .sendToAll source event => .sent ((h.instance? source).map fun i => (i.emitToAll event).1)
  | .findLog id =>
    .logged ((h.findLog now id).1.map fun ref => (ref, (h.instance? ref).map (·.log)))

/-- The answers that a run gives to the operations addressed to one application. -/
def answersTo (h : Host) (id : String) : List (Moment × Operation) → List Answer
  | [] => []
  | (now, op) :: rest =>
    let later := (h.perform now op).answersTo id rest
    if op.application? = some id then h.answer now op :: later else later

end Host
end AppHost
