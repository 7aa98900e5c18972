import AppHost.Contract.Basic
import AppHost.Json.Record

/-!
The JSON form of what the contract speaks of. Fields stand in a fixed order; an absent version is
left out. Reading takes fields in any order; arguments and version may be missing. A stream update
carries its variant in the field `type`; what stands beside it is read only once the variant is
known, and faults in it have no place in the text.
-/

set_option autoImplicit false
namespace AppHost
open Json (Value Shape Reading Mismatch)
open Calendar (Instant)

def readInstant : Reading Instant :=
  Json.readTextAs "an RFC 3339 formatted date and time string"
    (fun s => (Instant.parse s).mapError (·.message))

/-! ### Fields of a record that is being read -/

section
variable {α : Type}

def textField (name : String) (get : α → Option String) (set : String → α → α) : Json.Field α :=
  ⟨name, fun levels cs => do
    let (s, rest) ← Json.readText levels cs
    return (set s, rest), fun a => (get a).isSome, false⟩

def optionalTextField (name : String) (get : α → Option String) (set : String → α → α) :
    Json.Field α :=
  { textField name get set with optional := true }

def textsField (name : String) (get : α → Option (List String)) (set : List String → α → α) :
    Json.Field α :=
  ⟨name, fun levels cs => do
    let (items, rest) ← Json.readList Json.readText levels cs
    return (set items, rest), fun a => (get a).isSome, true⟩

end

/-! ### Pages -/

namespace PageRef

def toJson (p : PageRef) : Value :=
  .object [("application_id", .string p.applicationId), ("page_id", .string p.pageId)]

structure Draft where
  applicationId : Option String := none
  pageId : Option String := none

def Draft.finish (d : Draft) : Except Mismatch PageRef := do
  return ⟨← Json.required "application_id" d.applicationId, ← Json.required "page_id" d.pageId⟩

def shape : Shape Draft where
  name := "PageRef"
  fields := [
    textField "application_id" (·.applicationId) (fun s d => { d with applicationId := some s }),
    textField "page_id" (·.pageId) (fun s d => { d with pageId := some s })]

def reading : Reading PageRef := shape.read {} Draft.finish

end PageRef

namespace ResolvedPage

def toJson (p : ResolvedPage) : Value :=
  .object ([("application_file_name", .string p.fileName), ("page_title", .string p.title)] ++
    p.version.toList.map fun v => ("application_version", .string v.text))

structure Draft where
  fileName : Option String := none
  title : Option String := none
  version : Option (Option Instant) := none

def Draft.finish (d : Draft) : Except Mismatch ResolvedPage := do
  return ⟨← Json.required "application_file_name" d.fileName, ← Json.required "page_title" d.title,
    d.version.getD none⟩

def shape : Shape Draft where
  name := "ResolvedPage"
  fields := [
    textField "application_file_name" (·.fileName) (fun s d => { d with fileName := some s }),
    textField "page_title" (·.title) (fun s d => { d with title := some s }),
    { name := "application_version"
      read := fun levels cs => do
        let (v, rest) ← Json.readOptional readInstant levels cs
        return (fun d => { d with version := some v }, rest)
      isSet := fun d => d.version.isSome
      optional := true }]

def reading : Reading ResolvedPage := shape.read {} Draft.finish

end ResolvedPage

namespace Page

def toJson (p : Page) : Value :=
  .object [("id", .string p.id), ("file_name", .string p.fileName), ("title", .string p.title)]

structure Draft where
  id : Option String := none
  fileName : Option String := none
  title : Option String := none

def Draft.finish (d : Draft) : Except Mismatch Page := do
  return ⟨← Json.required "id" d.id, ← Json.required "file_name" d.fileName,
    ← Json.required "title" d.title⟩

def shape : Shape Draft where
  name := "Page"
  fields := [
    textField "id" (·.id) (fun s d => { d with id := some s }),
    textField "file_name" (·.fileName) (fun s d => { d with fileName := some s }),
    textField "title" (·.title) (fun s d => { d with title := some s })]

def reading : Reading Page := shape.read {} Draft.finish

end Page

/-! ### Events and methods -/

namespace ApplicationEvent

def fields (e : ApplicationEvent) : List (String × Value) :=
  [("name", .string e.name), ("arguments", .strings e.arguments)]

def toJson (e : ApplicationEvent) : Value := .object e.fields

structure Draft where
  name : Option String := none
  arguments : Option (List String) := none

def Draft.finish (d : Draft) : Except Mismatch ApplicationEvent := do
  return ⟨← Json.required "name" d.name, d.arguments.getD []⟩

def shape : Shape Draft where
  name := "ApplicationEvent"
  fields := [
    textField "name" (·.name) (fun s d => { d with name := some s }),
    textsField "arguments" (·.arguments) (fun l d => { d with arguments := some l })]

def reading : Reading ApplicationEvent := shape.read {} Draft.finish

/-! An event is also read from a value that has been read before. -/

def textOf : Value → Except Mismatch String
  | .string s => .ok s
  | v => .error (.wrongType v.noun "a string")

def textsOf : Value → Except Mismatch (List String)
  | .array items => items.mapM textOf
  | v => .error (.wrongType v.noun "a sequence")

def ofEntries : Draft → List (String × Value) → Except Mismatch ApplicationEvent
  | d, [] => d.finish
  | d, (key, v) :: rest =>
    if key = "name" then
      if d.name.isSome then .error (.duplicateField key)
      else do
        let s ← textOf v
        ofEntries { d with name := some s } rest
    else if key = "arguments" then
      if d.arguments.isSome then .error (.duplicateField key)
      else do
        let items ← textsOf v
        ofEntries { d with arguments := some items } rest
    else ofEntries d rest

def ofItems : List Value → Except Mismatch ApplicationEvent
  | [] => .error (.wrongLength 0 shape.expectingFields)
  | [name] => do return ⟨← textOf name, []⟩
  | name :: arguments :: rest => do
    let event : ApplicationEvent := ⟨← textOf name, ← textsOf arguments⟩
    if rest.isEmpty then return event
    else .error (.wrongLength (2 + rest.length) "2 elements in sequence")

end ApplicationEvent

namespace MethodInvocation

def toJson (m : MethodInvocation) : Value :=
  .object [("application_id", .string m.applicationId), ("method", .string m.method),
    ("arguments", .strings m.arguments)]

structure Draft where
  applicationId : Option String := none
  method : Option String := none
  arguments : Option (List String) := none

def Draft.finish (d : Draft) : Except Mismatch MethodInvocation := do
  return ⟨← Json.required "application_id" d.applicationId, ← Json.required "method" d.method,
    d.arguments.getD []⟩

def shape : Shape Draft where
  name := "MethodInvocation"
  fields := [
    textField "application_id" (·.applicationId) (fun s d => { d with applicationId := some s }),
    textField "method" (·.method) (fun s d => { d with method := some s }),
    textsField "arguments" (·.arguments) (fun l d => { d with arguments := some l })]

def reading : Reading MethodInvocation := shape.read {} Draft.finish

end MethodInvocation

namespace MethodResult

def toJson (r : MethodResult) : Value := .object [("result", .string r.result)]

structure Draft where
  result : Option String := none

def Draft.finish (d : Draft) : Except Mismatch MethodResult := do
  return ⟨← Json.required "result" d.result⟩

def shape : Shape Draft where
  name := "MethodResult"
  fields := [textField "result" (·.result) (fun s d => { d with result := some s })]

def reading : Reading MethodResult := shape.read {} Draft.finish

end MethodResult

namespace EventTrigger

def toJson (t : EventTrigger) : Value :=
  .object [("application_id", .string t.applicationId), ("page_id", .string t.pageId),
    ("name", .string t.name), ("arguments", .strings t.arguments)]

structure Draft where
  applicationId : Option String := none
  pageId : Option String := none
  name : Option String := none
  arguments : Option (List String) := none

def Draft.finish (d : Draft) : Except Mismatch EventTrigger := do
  return ⟨← Json.required "application_id" d.applicationId, ← Json.required "page_id" d.pageId,
    ← Json.required "name" d.name, d.arguments.getD []⟩

def shape : Shape Draft where
  name := "EventTrigger"
  fields := [
    textField "application_id" (·.applicationId) (fun s d => { d with applicationId := some s }),
    textField "page_id" (·.pageId) (fun s d => { d with pageId := some s }),
    textField "name" (·.name) (fun s d => { d with name := some s }),
    textsField "arguments" (·.arguments) (fun l d => { d with arguments := some l })]

def reading : Reading EventTrigger := shape.read {} Draft.finish

end EventTrigger

/-! ### Stream updates -/

namespace StreamUpdate

def toJson : StreamUpdate → Value
  | .heartbeat => .object [("type", .string "heartbeat")]
  | .event e => .object (("type", .string "event") :: e.fields)

inductive Variant
  | heartbeat
  | event
  deriving DecidableEq, Repr

def Variant.ofName (name : String) : Except Mismatch Variant :=
  if name = "heartbeat" then .ok .heartbeat
  else if name = "event" then .ok .event
  else .error (.unknownVariant name ["heartbeat", "event"])

def readVariant (cs : List Char) : Except Json.Fault (Variant × List Char) :=
  match Json.skipBlank cs with
  | '"' :: rest => do
    let (s, rest) ← Json.readString rest
    match Variant.ofName s with
    | .ok v => return (v, rest)
    | .error reason => Json.settled (Json.mismatch reason rest)
  | rest => Json.settled (Json.refuse "variant identifier" rest)

/-- The entries of an object, the variant apart from the others. -/
def readEntries : Nat → Nat → Bool → Option Variant → List Char →
    Except Json.Fault ((Option Variant × List (String × Value)) × List Char)
  | 0, _, _, _, cs => Json.faultAt .endInObject cs
  | fuel + 1, levels, first, variant, cs => do
    let (key, rest) ← Json.nextKey first cs
    match key with
    | none => return ((variant, []), rest)
    | some key =>
      if key = "type" then
        if variant.isSome then Json.mismatch (.duplicateField "type") rest
        else do
          let rest ← Json.readColon rest
          let (v, rest) ← readVariant rest
          readEntries fuel levels false (some v) rest
      else do
        let rest ← Json.readColon rest
        let (v, rest) ← Json.readValue (Json.fuelFor rest) levels rest
        let ((variant, entries), rest) ← readEntries fuel levels false variant rest
        return ((variant, (key, v) :: entries), rest)

def readTagged (levels : Nat) (cs : List Char) :
    Except Json.Fault ((Variant × (List (String × Value) ⊕ List Value)) × List Char) :=
  match Json.skipBlank cs with
  | '\x7b' :: rest =>
    if levels ≤ 1 then Json.faultNext .nestedTooDeep ('\x7b' :: rest)
    else do
      let (tagged, rest) ← Json.leaving Json.leaveObject do
        let ((variant, entries), rest) ← readEntries (rest.length + 1) (levels - 1) true none rest
        match variant with
        | some v => return ((v, Sum.inl entries), rest)
        | none => Json.mismatch (.missingField "type") rest
      return (tagged, ← Json.closeObject rest)
  | '[' :: rest =>
    if levels ≤ 1 then Json.faultNext .nestedTooDeep ('[' :: rest)
    else do
      let (tagged, rest) ← Json.leaving Json.leaveArray do
        let (more, rest) ← Json.nextItem true rest
        if more then
          let (v, rest) ← readVariant rest
          let (items, rest) ← Json.readItems (Json.fuelFor rest) (levels - 1) 1 rest
          return ((v, Sum.inr items), rest)
        else Json.mismatch (.missingField "type") rest
      return (tagged, ← Json.closeArray rest)
  | rest => Json.settled (Json.refuse "internally tagged enum StreamUpdate" rest)

/-- The update that a variant and what stands beside it make. A heartbeat has nothing to say, but
an array must then end. -/
def ofTagged : Variant → List (String × Value) ⊕ List Value → Except Mismatch StreamUpdate
  | .heartbeat, .inl _ => .ok .heartbeat
  | .heartbeat, .inr items =>
    if items.isEmpty then .ok .heartbeat
    else .error (.wrongLength items.length "0 elements in sequence")
  | .event, .inl entries => (ApplicationEvent.ofEntries {} entries).map .event
  | .event, .inr items => (ApplicationEvent.ofItems items).map .event

def reading : Reading StreamUpdate := fun levels cs => do
  let ((variant, content), rest) ← readTagged levels cs
  match ofTagged variant content with
  | .ok update => return (update, rest)
  | .error reason => Json.mismatch reason rest

end StreamUpdate
end AppHost
