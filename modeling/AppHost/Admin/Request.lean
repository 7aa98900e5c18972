import AppHost.Admin.Error
import AppHost.Admin.MediaType
import AppHost.Admin.Target
import AppHost.Contract.Json

/-! Requests of operators and the responses to them, and what both carry as JSON. -/

set_option autoImplicit false
namespace AppHost.Admin
open Json (Value Field Shape Reading)

structure Request where
  method : String
  target : Target
  contentType : Option String
  body : String
  deriving DecidableEq, Repr

inductive Body
  | empty
  | text (content : String)
  | json (content : Value)
  -- Frames that follow one another as long as the client listens.
  | frames

structure Response where
  status : Nat
  body : Body
  -- The methods that a resource knows, told to who used another one.
  allow : Option String

def Body.contentType : Body → Option String
  | .empty => none
  | .text _ => some "text/plain; charset=utf-8"
  | .json _ => some "application/json"
  | .frames => some "text/event-stream"

namespace Response

def noContent : Response := ⟨204, .empty, none⟩

def json (content : Value) : Response := ⟨200, .json content, none⟩

def refusal (status : Nat) (reason : String) : Response := ⟨status, .text reason, none⟩

def notFound : Response := ⟨404, .empty, none⟩

def wrongMethod (allowed : List String) : Response := ⟨405, .empty, some (",".intercalate allowed)⟩

def failure (e : Error) : Response := ⟨e.kind.status, .json e.toJson, none⟩

end Response

/-! ### Bodies -/

structure PageBody where
  file : String
  title : String
  deriving DecidableEq, Repr

structure PageBody.Draft where
  file : Option String := none
  title : Option String := none

def PageBody.shape : Shape PageBody.Draft where
  name := "PublishPageRequest"
  fields := [
    textField "file" (·.file) (fun s d => { d with file := some s }),
    optionalTextField "title" (·.title) (fun s d => { d with title := some s })]

def PageBody.reading : Reading PageBody :=
  PageBody.shape.read {} fun d => do
    return ⟨← Json.required "file" d.file, d.title.getD ""⟩

structure EventBody where
  pageId : Option String
  name : String
  arguments : List Value

structure EventBody.Draft where
  pageId : Option (Option String) := none
  name : Option String := none
  arguments : Option (List Value) := none

def EventBody.shape : Shape EventBody.Draft where
  name := "EmitEventRequest"
  fields := [
    ⟨"page_id", fun levels cs => do
      let (id, rest) ← Json.readOptional Json.readText levels cs
      return (fun d => { d with pageId := some id }, rest), fun d => d.pageId.isSome, true⟩,
    textField "name" (·.name) (fun s d => { d with name := some s }),
    ⟨"arguments", fun levels cs => do
      let (items, rest) ← Json.readList Json.readAny levels cs
      return (fun d => { d with arguments := some items }, rest), fun d => d.arguments.isSome,
      true⟩]

def EventBody.reading : Reading EventBody :=
  EventBody.shape.read {} fun d => do
    return ⟨d.pageId.getD none, ← Json.required "name" d.name, d.arguments.getD []⟩

/-- The refusal of a body: what is no JSON is told apart from JSON of the wrong shape. -/
def bodyRefusal (text : String) (fault : Json.Fault) : Response :=
  let reason := fault.pathText ++ fault.message text.toList
  if fault.cause.isMismatch then
    .refusal 422 ("Failed to deserialize the JSON body into the target type: " ++ reason)
  else .refusal 400 ("Failed to parse the request body as JSON: " ++ reason)

def Request.bodyLimit : Nat := 2097152

def Request.isTooLong (r : Request) : Bool :=
  decide (bodyLimit < (Text.encodeUtf8 r.body).length)

def Request.read {α : Type} (r : Request) (reading : Reading α) : Except Response α :=
  match r.contentType.filter isJsonType with
  | none => .error (.refusal 415 "Expected request with `Content-Type: application/json`")
  | some _ =>
    if r.isTooLong then
      .error (.refusal 413 "Failed to buffer the request body: length limit exceeded")
    else (Json.readWhole reading r.body).mapError (bodyRefusal r.body)

end AppHost.Admin
