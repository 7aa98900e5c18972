import AppHost.Contract.Json
import AppHost.Wire.Message

/-! The JSON form of what messages stand for. The two messages without content stand for nothing. -/

set_option autoImplicit false
namespace AppHost.Wire.Kind

def json? : (k : Kind) → k.Domain → Option Json.Value
  | .resolveRequest, d => some (PageRef.toJson d)
  | .resolveResponse, d => some (ResolvedPage.toJson d)
  | .consumeRequest, d => some (PageRef.toJson d)
  | .streamUpdate, d => some (StreamUpdate.toJson d)
  | .heartbeatEvent, _ => none
  | .serverEvent, d => some (ApplicationEvent.toJson d)
  | .methodRequest, d => some (MethodInvocation.toJson d)
  | .methodResponse, d => some (MethodResult.toJson d)
  | .triggerRequest, d => some (EventTrigger.toJson d)
  | .triggerResponse, _ => none

def reading? : (k : Kind) → Option (Json.Reading k.Domain)
  | .resolveRequest => some PageRef.reading
  | .resolveResponse => some ResolvedPage.reading
  | .consumeRequest => some PageRef.reading
  | .streamUpdate => some StreamUpdate.reading
  | .heartbeatEvent => none
  | .serverEvent => some ApplicationEvent.reading
  | .methodRequest => some MethodInvocation.reading
  | .methodResponse => some MethodResult.reading
  | .triggerRequest => some EventTrigger.reading
  | .triggerResponse => none

end AppHost.Wire.Kind
