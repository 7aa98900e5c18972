import AppHost.Contract.Basic
import AppHost.Wire.Schema

/-!
The messages of the runtime contract, and what they stand for. A message can say what the contract
forbids: the version of a page's answer is a timestamp of any size, and an update may have no variant
set. So these two are checked when they are taken over into the contract's own types.
-/

set_option autoImplicit false
namespace AppHost.Wire

structure PageRequest where
  applicationId : String
  pageId : String
  deriving DecidableEq, Repr

structure PageAnswer where
  fileName : String
  title : String
  version : Option Timestamp
  deriving DecidableEq, Repr

structure Nothing where
  deriving DecidableEq, Repr

structure ServerEvent where
  name : String
  arguments : List String
  deriving DecidableEq, Repr

inductive Variant
  | heartbeat (content : Nothing)
  | event (content : ServerEvent)
  deriving DecidableEq, Repr

structure Update where
  variant : Option Variant
  deriving DecidableEq, Repr

structure MethodRequest where
  applicationId : String
  method : String
  arguments : List String
  deriving DecidableEq, Repr

structure MethodResponse where
  result : String
  deriving DecidableEq, Repr

structure TriggerRequest where
  applicationId : String
  pageId : String
  name : String
  arguments : List String
  deriving DecidableEq, Repr

namespace Variant

def heartbeat? : Variant → Option Nothing
  | .heartbeat m => some m
  | .event _ => none

def event? : Variant → Option ServerEvent
  | .heartbeat _ => none
  | .event m => some m

end Variant

/-! ### Fields -/

def timestamp : Schema Timestamp where
  name := "Timestamp"
  empty := ⟨0, 0⟩
  fields := [
    .int64 1 "seconds" (·.seconds) (fun n t => { t with seconds := n }),
    .int32 2 "nanos" (·.nanos) (fun n t => { t with nanos := n })]

def pageRequest (name : String) : Schema PageRequest where
  name := name
  empty := ⟨"", ""⟩
  fields := [
    .text 1 "application_id" (·.applicationId) (fun s p => { p with applicationId := s }),
    .text 2 "page_id" (·.pageId) (fun s p => { p with pageId := s })]

def pageAnswer : Schema PageAnswer where
  name := "ResolveApplicationPageResponse"
  empty := ⟨"", "", none⟩
  fields := [
    .text 1 "application_file_name" (·.fileName) (fun s p => { p with fileName := s }),
    .text 2 "page_title" (·.title) (fun s p => { p with title := s }),
    .message 3 "application_version" timestamp (·.version) (fun t p => { p with version := some t })]

def nothing (name : String) : Schema Nothing := ⟨name, {}, []⟩

def heartbeat : Schema Nothing := nothing "ApplicationHeartbeatEvent"

def event : Schema ServerEvent where
  name := "ApplicationServerEvent"
  empty := ⟨"", []⟩
  fields := [
    .text 1 "name" (·.name) (fun s e => { e with name := s }),
    .texts 2 "arguments" (·.arguments) (fun l e => { e with arguments := l })]

def update : Schema Update where
  name := "ApplicationEventStreamUpdate"
  empty := ⟨none⟩
  fields := [
    .message 1 "r#type" heartbeat (·.variant.bind Variant.heartbeat?)
      (fun m _ => ⟨some (.heartbeat m)⟩),
    .message 2 "r#type" event (·.variant.bind Variant.event?) (fun m _ => ⟨some (.event m)⟩)]

def invocation : Schema MethodRequest where
  name := "ApplicationServerMethodRequest"
  empty := ⟨"", "", []⟩
  fields := [
    .text 1 "application_id" (·.applicationId) (fun s m => { m with applicationId := s }),
    .text 2 "method" (·.method) (fun s m => { m with method := s }),
    .texts 3 "arguments" (·.arguments) (fun l m => { m with arguments := l })]

def result : Schema MethodResponse where
  name := "ApplicationServerMethodResponse"
  empty := ⟨""⟩
  fields := [.text 1 "result" (·.result) (fun s r => { r with result := s })]

def trigger : Schema TriggerRequest where
  name := "TriggerApplicationEventRequest"
  empty := ⟨"", "", "", []⟩
  fields := [
    .text 1 "application_id" (·.applicationId) (fun s t => { t with applicationId := s }),
    .text 2 "page_id" (·.pageId) (fun s t => { t with pageId := s }),
    .text 3 "name" (·.name) (fun s t => { t with name := s }),
    .texts 4 "arguments" (·.arguments) (fun l t => { t with arguments := l })]

/-! ### What messages stand for -/

def PageRequest.ofPage (p : PageRef) : PageRequest where
  applicationId := p.applicationId
  pageId := p.pageId

def PageRequest.page (m : PageRequest) : PageRef where
  applicationId := m.applicationId
  pageId := m.pageId

def PageAnswer.ofResolved (p : ResolvedPage) : PageAnswer where
  fileName := p.fileName
  title := p.title
  version := p.version.map Timestamp.ofInstant

def PageAnswer.resolved (m : PageAnswer) : Except ContractError ResolvedPage :=
  match m.version with
  | none => .ok ⟨m.fileName, m.title, none⟩
  | some t => t.toInstant.map fun version => ⟨m.fileName, m.title, some version⟩

def ServerEvent.ofEvent (e : ApplicationEvent) : ServerEvent where
  name := e.name
  arguments := e.arguments

def ServerEvent.event (m : ServerEvent) : ApplicationEvent where
  name := m.name
  arguments := m.arguments

def Update.ofStream : StreamUpdate → Update
  | .heartbeat => ⟨some (.heartbeat {})⟩
  | .event e => ⟨some (.event (.ofEvent e))⟩

def Update.stream (m : Update) : Except ContractError StreamUpdate :=
  match m.variant with
  | some (.heartbeat _) => .ok .heartbeat
  | some (.event e) => .ok (.event e.event)
  | none => .error .missingUpdateType

theorem Update.stream_ofStream (u : StreamUpdate) : (ofStream u).stream = .ok u := by
  cases u <;> rfl

def MethodRequest.ofInvocation (i : MethodInvocation) : MethodRequest where
  applicationId := i.applicationId
  method := i.method
  arguments := i.arguments

def MethodRequest.invocation (m : MethodRequest) : MethodInvocation where
  applicationId := m.applicationId
  method := m.method
  arguments := m.arguments

def MethodResponse.ofResult (r : MethodResult) : MethodResponse where
  result := r.result

def MethodResponse.methodResult (m : MethodResponse) : MethodResult where
  result := m.result

def TriggerRequest.ofTrigger (t : EventTrigger) : TriggerRequest where
  applicationId := t.applicationId
  pageId := t.pageId
  name := t.name
  arguments := t.arguments

def TriggerRequest.trigger (m : TriggerRequest) : EventTrigger where
  applicationId := m.applicationId
  pageId := m.pageId
  name := m.name
  arguments := m.arguments

/-! ### Kinds of messages -/

inductive Kind
  | resolveRequest
  | resolveResponse
  | consumeRequest
  | streamUpdate
  | heartbeatEvent
  | serverEvent
  | methodRequest
  | methodResponse
  | triggerRequest
  | triggerResponse
  deriving DecidableEq, Repr

namespace Kind

abbrev Content : Kind → Type
  | .resolveRequest => PageRequest
  | .resolveResponse => PageAnswer
  | .consumeRequest => PageRequest
  | .streamUpdate => Update
  | .heartbeatEvent => Nothing
  | .serverEvent => ServerEvent
  | .methodRequest => MethodRequest
  | .methodResponse => MethodResponse
  | .triggerRequest => TriggerRequest
  | .triggerResponse => Nothing

def schema : (k : Kind) → Schema k.Content
  | .resolveRequest => pageRequest "ResolveApplicationPageRequest"
  | .resolveResponse => pageAnswer
  | .consumeRequest => pageRequest "ConsumeApplicationEventStreamRequest"
  | .streamUpdate => update
  | .heartbeatEvent => heartbeat
  | .serverEvent => event
  | .methodRequest => invocation
  | .methodResponse => result
  | .triggerRequest => trigger
  | .triggerResponse => nothing "TriggerApplicationEventResponse"

def all : List Kind := [
  .resolveRequest, .resolveResponse, .consumeRequest, .streamUpdate, .heartbeatEvent,
  .serverEvent, .methodRequest, .methodResponse, .triggerRequest, .triggerResponse]

def ofName? (name : String) : Option Kind := all.find? (fun k => k.schema.name == name)

/-- What the contract takes a message of each kind for; the two empty messages for nothing. -/
abbrev Domain : Kind → Type
  | .resolveRequest => PageRef
  | .resolveResponse => ResolvedPage
  | .consumeRequest => PageRef
  | .streamUpdate => StreamUpdate
  | .heartbeatEvent => Unit
  | .serverEvent => ApplicationEvent
  | .methodRequest => MethodInvocation
  | .methodResponse => MethodResult
  | .triggerRequest => EventTrigger
  | .triggerResponse => Unit

def accept : (k : Kind) → k.Content → Except ContractError k.Domain
  | .resolveRequest, m => .ok m.page
  | .resolveResponse, m => m.resolved
  | .consumeRequest, m => .ok m.page
  | .streamUpdate, m => m.stream
  | .heartbeatEvent, _ => .ok ()
  | .serverEvent, m => .ok m.event
  | .methodRequest, m => .ok m.invocation
  | .methodResponse, m => .ok m.methodResult
  | .triggerRequest, m => .ok m.trigger
  | .triggerResponse, _ => .ok ()

def present : (k : Kind) → k.Domain → k.Content
  | .resolveRequest, d => .ofPage d
  | .resolveResponse, d => .ofResolved d
  | .consumeRequest, d => .ofPage d
  | .streamUpdate, d => .ofStream d
  | .heartbeatEvent, _ => {}
  | .serverEvent, d => .ofEvent d
  | .methodRequest, d => .ofInvocation d
  | .methodResponse, d => .ofResult d
  | .triggerRequest, d => .ofTrigger d
  | .triggerResponse, _ => {}

end Kind
end AppHost.Wire
