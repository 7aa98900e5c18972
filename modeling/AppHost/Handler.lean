import AppHost.Activity
import AppHost.Manifest

/-! How a hosted application behaves: its answers to calls of server methods, and to events that its
pages send. Arguments come in the order in which the client sent them. -/

set_option autoImplicit false
namespace AppHost
open Json (Value)

structure InvocationContext where
  applicationId : String
  isTrusted : Bool
  deriving DecidableEq, Repr

structure EventContext where
  applicationId : String
  pageId : String
  isTrusted : Bool
  deriving DecidableEq, Repr

/-- The code of an application. It keeps nothing between two calls: what it does depends on what it
is given and on how its outlets answer, so code with a memory of its own is not one of these. -/
structure Handler where
  invoke : InvocationContext → String → List Value → Activity (Except RuntimeError Value)
  handleEvent : EventContext → String → List Value → Activity (Except RuntimeError Unit)

def ApplicationEvent.ofValues (name : String) (arguments : List Value) : ApplicationEvent :=
  ⟨name, arguments.map (·.text)⟩

namespace Handler

def ignoreEvent : EventContext → String → List Value → Activity (Except RuntimeError Unit) :=
  fun _ _ _ => .done (.ok ())

end Handler

namespace MethodSpec

def answer (arguments : List Value) : MethodSpec → Activity (Except RuntimeError Value)
  | .reply value => .done (.ok value)
  | .echo => .done (.ok (.array arguments))
  | .emit event => .emitToAll (.ofValues event arguments) fun _ => .done (.ok .null)

end MethodSpec

namespace ListenerSpec

def eventName (l : ListenerSpec) (event : String) : String := l.emit.getD event

def answer (pageId event : String) (arguments : List Value) (l : ListenerSpec) :
    Activity (Except RuntimeError Unit) :=
  let name := l.eventName event
  let note (reached : Nat) : Activity (Except RuntimeError Unit) :=
    .write .info (event ++ " from page " ++ pageId ++ " answered with " ++ name ++ " (" ++
      toString reached ++ " stream(s))") fun _ => .done (.ok ())
  match l.target with
  | .page => .emitToPage pageId (.ofValues name arguments) note
  | .all => .emitToAll (.ofValues name arguments) note

end ListenerSpec

namespace Manifest

def handler (m : Manifest) : Handler where
  invoke _ method arguments :=
    match m.methods.find? method with
    | some spec => spec.answer arguments
    | none => .done (.error (.unknownMethod method))
  handleEvent context event arguments :=
    match m.listeners.find? event with
    | some listener => listener.answer context.pageId event arguments
    | none => .done (.ok ())

end Manifest
end AppHost
