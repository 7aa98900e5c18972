import AppHost.Host
import AppHost.Wire.Message

/-! Calls over the contract that have one answer: a request message comes in, and an answer message
goes out or the call fails. -/

set_option autoImplicit false
namespace AppHost

inductive Procedure
  | resolvePage
  | invoke
  | trigger
  deriving DecidableEq, Repr

inductive CallError
  | unreadable (fault : Wire.Fault)
  | failed (reason : RuntimeError)

namespace Procedure

def ofName? : String → Option Procedure
  | "ResolveApplicationPage" => some .resolvePage
  | "ApplicationServerMethod" => some .invoke
  | "TriggerApplicationEvent" => some .trigger
  | _ => none

def request : Procedure → Wire.Kind
  | .resolvePage => .resolveRequest
  | .invoke => .methodRequest
  | .trigger => .triggerRequest

def response : Procedure → Wire.Kind
  | .resolvePage => .resolveResponse
  | .invoke => .methodResponse
  | .trigger => .triggerResponse

def run (h : Host) (now : Moment) : (p : Procedure) → p.request.Content →
    Except RuntimeError p.response.Domain × Host
  | .resolvePage, m => h.resolvePage m.page
  | .invoke, m => h.invoke now m.invocation
  | .trigger, m => h.trigger now m.trigger

def call (p : Procedure) (h : Host) (now : Moment) (bytes : List UInt8) :
    Except CallError (List UInt8) × Host :=
  match p.request.schema.decode bytes with
  | .error fault => (.error (.unreadable fault), h)
  | .ok m =>
    match p.run h now m with
    | (.error reason, after) => (.error (.failed reason), after)
    | (.ok answer, after) => (.ok (p.response.schema.encode (p.response.present answer)), after)

end Procedure
end AppHost
