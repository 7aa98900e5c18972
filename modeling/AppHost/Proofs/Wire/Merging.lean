import AppHost.Proofs.Wire.Reading
import AppHost.Wire.Message

/-!
What a message becomes when another one of its kind is read after it. Single values are replaced by
those that were written, lists grow at their end, and a message within the message is merged with
the one that is there. A variant of an update is merged with its like, and replaces any other.
-/

set_option autoImplicit false
namespace AppHost

def Timestamp.merge (x t : Timestamp) : Timestamp :=
  ⟨Wire.lastOf 0 x.seconds t.seconds, Wire.lastOf 0 x.nanos t.nanos⟩

namespace Wire
open Schema

def PageRequest.merge (x p : PageRequest) : PageRequest :=
  ⟨lastOf "" x.applicationId p.applicationId, lastOf "" x.pageId p.pageId⟩

def ServerEvent.merge (x e : ServerEvent) : ServerEvent :=
  ⟨lastOf "" x.name e.name, x.arguments ++ e.arguments⟩

/-- A variant is merged with its like, and replaces any other. -/
def Variant.merge : Variant → Variant → Variant
  | .event x, .event e => .event (x.merge e)
  | _, v => v

/-- An unset update leaves what there was. -/
def Update.merge (x u : Update) : Update := ⟨Option.merge Variant.merge x.variant u.variant⟩

def MethodRequest.merge (x m : MethodRequest) : MethodRequest :=
  ⟨lastOf "" x.applicationId m.applicationId, lastOf "" x.method m.method,
    x.arguments ++ m.arguments⟩

def MethodResponse.merge (x r : MethodResponse) : MethodResponse := ⟨lastOf "" x.result r.result⟩

def TriggerRequest.merge (x t : TriggerRequest) : TriggerRequest :=
  ⟨lastOf "" x.applicationId t.applicationId, lastOf "" x.pageId t.pageId,
    lastOf "" x.name t.name, x.arguments ++ t.arguments⟩

def PageAnswer.merge (x p : PageAnswer) : PageAnswer :=
  ⟨lastOf "" x.fileName p.fileName, lastOf "" x.title p.title,
    Option.merge Timestamp.merge x.version p.version⟩

def Kind.merge : (k : Kind) → k.Content → k.Content → k.Content
  | .resolveRequest => PageRequest.merge
  | .resolveResponse => PageAnswer.merge
  | .consumeRequest => PageRequest.merge
  | .streamUpdate => Update.merge
  | .heartbeatEvent => fun _ u => u
  | .serverEvent => ServerEvent.merge
  | .methodRequest => MethodRequest.merge
  | .methodResponse => MethodResponse.merge
  | .triggerRequest => TriggerRequest.merge
  | .triggerResponse => fun _ u => u

section
variable {levels : Nat}

theorem merges_timestamp : timestamp.Merges levels Timestamp.merge := by
  intro t x fits
  refine reads_cons (reads_int64 {} rfl (by decide)) ?_
  exact reads_cons (reads_int32 {} rfl (by decide)) (.nil ..)

theorem merges_pageRequest (name : String) : (pageRequest name).Merges levels PageRequest.merge := by
  intro p x fits
  refine reads_cons (reads_text {} rfl (by decide) fits) ?_
  exact reads_cons (reads_text {} rfl (by decide) fits) (.nil ..)

theorem merges_nothing (name : String) : (nothing name).Merges levels fun _ u => u := by
  intro u x fits
  exact .nil ..

theorem merges_event : event.Merges levels ServerEvent.merge := by
  intro e x fits
  refine reads_cons (reads_text {} rfl (by decide) fits) ?_
  exact reads_cons (reads_texts {} rfl (by decide) fits) (.nil ..)

theorem merges_invocation : invocation.Merges levels MethodRequest.merge := by
  intro m x fits
  refine reads_cons (reads_text {} rfl (by decide) fits) ?_
  refine reads_cons (reads_text {} rfl (by decide) fits) ?_
  exact reads_cons (reads_texts {} rfl (by decide) fits) (.nil ..)

theorem merges_result : result.Merges levels MethodResponse.merge := by
  intro r x fits
  exact reads_cons (reads_text {} rfl (by decide) fits) (.nil ..)

theorem merges_trigger : trigger.Merges levels TriggerRequest.merge := by
  intro t x fits
  refine reads_cons (reads_text {} rfl (by decide) fits) ?_
  refine reads_cons (reads_text {} rfl (by decide) fits) ?_
  refine reads_cons (reads_text {} rfl (by decide) fits) ?_
  exact reads_cons (reads_texts {} rfl (by decide) fits) (.nil ..)

theorem merge_empty_timestamp (t : Timestamp) : Timestamp.merge timestamp.empty t = t := by
  simp [Timestamp.merge, timestamp]

theorem merge_empty_event (e : ServerEvent) : ServerEvent.merge event.empty e = e := by
  simp [ServerEvent.merge, event]

theorem merges_pageAnswer : pageAnswer.Merges (levels + 1) PageAnswer.merge := by
  intro p x fits
  refine reads_cons (reads_text {} rfl (by decide) fits) ?_
  refine reads_cons (reads_text {} rfl (by decide) fits) ?_
  exact reads_cons (reads_optional (fun v p => { p with version := v }) {} rfl (by decide) fits
    merges_timestamp merge_empty_timestamp) (.nil ..)

theorem update_merge_heartbeat (x : Update) (m : Nothing) :
    x.merge ⟨some (.heartbeat m)⟩ = ⟨some (.heartbeat m)⟩ := by
  obtain ⟨_ | _ | c⟩ := x <;> rfl

theorem update_merge_event (x : Update) (e : ServerEvent) :
    x.merge ⟨some (.event e)⟩ =
      ⟨some (.event (((x.variant.bind Variant.event?).getD event.empty).merge e))⟩ := by
  obtain ⟨_ | _ | c⟩ := x
  · exact congrArg (fun e => Update.mk (some (.event e))) (merge_empty_event e).symm
  · exact congrArg (fun e => Update.mk (some (.event e))) (merge_empty_event e).symm
  · rfl

theorem merges_update : update.Merges (levels + 1) Update.merge := by
  intro u x fits
  have heartbeats : heartbeat.Merges levels fun _ u => u := merges_nothing _
  have events : event.Merges levels ServerEvent.merge := merges_event
  obtain ⟨_ | m | e⟩ := u
  · obtain ⟨_ | v⟩ := x <;> exact .nil ..
  · have first := reads_message (s := update) (a := ⟨some (.heartbeat m)⟩) (x := x) (b := m)
      (show update.fields.find? (·.number = 1) = _ from rfl) (by decide) fits rfl heartbeats
    rw [update_merge_heartbeat]
    exact reads_cons first (reads_cons (reads_message_of_none rfl _) (.nil ..))
  · have second := reads_message (s := update) (a := ⟨some (.event e)⟩) (x := x) (b := e)
      (show update.fields.find? (·.number = 2) = _ from rfl) (by decide) fits rfl events
    rw [update_merge_event]
    exact reads_cons (reads_message_of_none rfl x) (reads_cons second (.nil ..))

end

/-- Reading a message into one that is there merges the two, whatever the kind. -/
theorem Kind.merges (k : Kind) : k.schema.Merges nestingLimit k.merge := by
  cases k with
  | resolveRequest => exact merges_pageRequest _
  | resolveResponse => exact merges_pageAnswer
  | consumeRequest => exact merges_pageRequest _
  | streamUpdate => exact merges_update
  | heartbeatEvent => exact merges_nothing _
  | serverEvent => exact merges_event
  | methodRequest => exact merges_invocation
  | methodResponse => exact merges_result
  | triggerRequest => exact merges_trigger
  | triggerResponse => exact merges_nothing _

theorem Kind.merge_empty (k : Kind) (m : k.Content) : k.merge k.schema.empty m = m := by
  cases k with
  | resolveRequest => simp [merge, PageRequest.merge, schema, pageRequest]
  | resolveResponse =>
    obtain ⟨fileName, title, version⟩ := m
    simp [merge, PageAnswer.merge, schema, pageAnswer]
  | consumeRequest => simp [merge, PageRequest.merge, schema, pageRequest]
  | streamUpdate => obtain ⟨_ | _ | e⟩ := m <;> rfl
  | heartbeatEvent => rfl
  | serverEvent => exact merge_empty_event m
  | methodRequest => simp [merge, MethodRequest.merge, schema, invocation]
  | methodResponse => simp [merge, MethodResponse.merge, schema, result]
  | triggerRequest => simp [merge, TriggerRequest.merge, schema, trigger]
  | triggerResponse => rfl

end Wire
end AppHost
