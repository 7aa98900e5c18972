import AppHost.Admin.Route
import AppHost.Host
import AppHost.Identity

/-! The answers to operators: launching and stopping applications, reading their logs, publishing
their pages and sending them events. Path, query and body are looked at in this order, and only then
the host. -/

set_option autoImplicit false
namespace AppHost.Admin
open Json (Value)

def done : Except RuntimeError Unit × Host → Response × Host
  | (.ok (), h) => (.noContent, h)
  | (.error e, h) => (.failure (.ofRuntime e), h)

def health : Response := .json (.object [("status", .string "ok"), ("version", .string programVersion)])

def applications (h : Host) : Response :=
  .json (.array (h.runningApplications.map (·.toJson)))

def logJson (h : Host) (id : String) (log : Log) : Value :=
  .object [("application_id", .string id), ("running", .bool (h.isRunning id)),
    ("entries", .array (log.entries.map (·.toJson)))]

def log (h : Host) (now : Moment) (id : String) : Response × Host :=
  match h.findLog now id with
  | (.error e, after) => (.failure (.ofRuntime e), after)
  | (.ok ref, after) =>
    match after.instance? ref with
    | some i => (.json (logJson after id i.log), after)
    | none => (.failure (.ofRuntime (.applicationLogNotFound id)), after)

def emit (h : Host) (id : String) (b : EventBody) : Response × Host :=
  if b.name.isEmpty then (.failure ⟨.badRequest, "event name must not be empty"⟩, h)
  else
    let event := ApplicationEvent.ofValues b.name b.arguments
    let sent := match b.pageId with
      | some page => h.emitToPage ⟨id, page⟩ event
      | none => h.emitToAll id event
    match sent with
    | (.ok delivered, after) => (.json (.object [("delivered", .nat delivered)]), after)
    | (.error e, after) => (.failure (.ofRuntime e), after)

def perform (h : Host) (now : Moment) (r : Request) : Route → Except Response (Response × Host)
  | .health => return (health, h)
  | .applications => return (applications h, h)
  | .lifecycle => return (⟨200, .frames, none⟩, h)
  | .launch application => do
    let id ← applicationId application
    let version ← queryVersion r.target.query
    return done (h.launch now id version)
  | .stop application => do return done (h.stop now (← applicationId application))
  | .log application => do return log h now (← applicationId application)
  | .page application page => do
    let ref ← pageRef application page
    if r.method = "DELETE" then return done (h.unpublishPage ref)
    let b ← r.read PageBody.reading
    return done (h.publishPage ref.applicationId ⟨ref.pageId, b.file, b.title⟩)
  | .events application => do
    let id ← applicationId application
    let b ← r.read EventBody.reading
    return emit h id b

def answer (h : Host) (now : Moment) (r : Request) : Response × Host :=
  match Route.ofSegments? r.target.segments with
  | none => (.notFound, h)
  | some route =>
    if route.methods.contains r.method then
      match perform h now r route with
      | .ok answered => answered
      | .error refusal => (refusal, h)
    else (.wrongMethod route.methods, h)

end AppHost.Admin
