import AppHost.Calendar.Rfc3339

/-!
What the runtime contract speaks of: pages of applications, events that flow to and from them, and
calls of server methods. Arguments and results travel as text, JSON by convention.
-/

set_option autoImplicit false
namespace AppHost
open Calendar (Instant)

structure PageRef where
  applicationId : String
  pageId : String
  deriving DecidableEq, Repr

/-- What a page is answered with. A version that is not tracked is absent, not the epoch. -/
structure ResolvedPage where
  fileName : String
  title : String
  version : Option Instant
  deriving DecidableEq

structure ApplicationEvent where
  name : String
  arguments : List String
  deriving DecidableEq, Repr

inductive StreamUpdate
  | heartbeat
  | event (event : ApplicationEvent)
  deriving DecidableEq, Repr

structure MethodInvocation where
  applicationId : String
  method : String
  arguments : List String
  deriving DecidableEq, Repr

structure MethodResult where
  result : String
  deriving DecidableEq, Repr

structure EventTrigger where
  applicationId : String
  pageId : String
  name : String
  arguments : List String
  deriving DecidableEq, Repr

structure Page where
  id : String
  fileName : String
  title : String
  deriving DecidableEq, Repr

/-- A point of time as whole seconds and nanoseconds, of any size that fits. -/
structure Timestamp where
  seconds : Int64
  nanos : Int32
  deriving DecidableEq, Repr

inductive ContractError
  | missingUpdateType
  | invalidTimestamp (timestamp : Timestamp)
  | emptyField (name : String)
  deriving DecidableEq, Repr

def ContractError.message : ContractError → String
  | .missingUpdateType => "event stream update has no variant set"
  | .invalidTimestamp t =>
    "timestamp out of range: " ++ toString t.seconds.toInt ++ "s " ++ toString t.nanos.toInt ++ "ns"
  | .emptyField name => name ++ " must not be empty"

namespace PageRef

def text (p : PageRef) : String := p.applicationId ++ "/" ++ p.pageId

/-- Both parts must be given; the application's is looked at first. -/
def validate (p : PageRef) : Except ContractError Unit :=
  if p.applicationId.isEmpty then .error (.emptyField "application_id")
  else if p.pageId.isEmpty then .error (.emptyField "page_id")
  else .ok ()

end PageRef

def EventTrigger.page (t : EventTrigger) : PageRef := ⟨t.applicationId, t.pageId⟩

namespace StreamUpdate

def isHeartbeat : StreamUpdate → Bool
  | .heartbeat => true
  | .event _ => false

def event? : StreamUpdate → Option ApplicationEvent
  | .heartbeat => none
  | .event e => some e

end StreamUpdate

namespace Timestamp

/-- The canonical timestamp of a point of time. A leap second runs over into the next second. -/
def ofInstant (t : Instant) : Timestamp :=
  ⟨Int64.ofInt (t.second + (t.nano / Calendar.nanosPerSecond : Nat)),
    Int32.ofNat (t.nano % Calendar.nanosPerSecond)⟩

def toInstant (t : Timestamp) : Except ContractError Instant :=
  if t.nanos.toInt < 0 then .error (.invalidTimestamp t)
  else
    match Instant.of? t.seconds.toInt t.nanos.toInt.toNat with
    | some instant => .ok instant
    | none => .error (.invalidTimestamp t)

end Timestamp
end AppHost
