import AppHost.Handler
import AppHost.Json.Reader

/-!
One run of an application: the pages it serves, their event hub, its log and its behaviour. Whoever
holds it may go on using it after it was stopped, but its hub is shut down then.
-/

set_option autoImplicit false
namespace AppHost
open Calendar (Instant)
open Json (Value)

structure Instance where
  applicationId : String
  version : Option Instant
  startedAt : Instant
  pages : PageRegistry
  hub : Hub
  log : Log
  handler : Handler

/-- The values of arguments that are JSON texts. The first one that is not is named. -/
def decodeArguments (arguments : List String) : Except RuntimeError (List Value) :=
  go 0 arguments
where
  go (position : Nat) : List String → Except RuntimeError (List Value)
    | [] => .ok []
    | text :: rest =>
      match Json.parse text with
      | .error fault =>
        .error (.invalidArgument ("argument " ++ toString position ++ " is not valid JSON: " ++
          fault.message text.toList))
      | .ok value => do return value :: (← go (position + 1) rest)

namespace Instance

def start (applicationId : String) (version : Option Instant) (handler : Handler) (buffer : Nat)
    (time : Instant) : Instance where
  applicationId := applicationId
  version := version
  startedAt := time
  pages := .empty
  hub := .new applicationId buffer
  log := (Log.new Log.defaultCapacity).write time .runtime
    (match version with
      | some v => "application instance started at version " ++ v.offsetText
      | none => "application instance started")
  handler := handler

def pageRef (i : Instance) (page : String) : PageRef := ⟨i.applicationId, page⟩

/-- Serves a page. The streams of a page in whose place it comes are closed. -/
def publishPage (i : Instance) (page : Page) : Except RuntimeError Unit × Instance :=
  match i.pages.publish page with
  | (.error e, pages) => (.error e, { i with pages })
  | (.ok replaced, pages) =>
    let hub := if replaced.isSome then (i.hub.closePage page.id).2 else i.hub
    (.ok (), { i with pages, hub := hub.openPage page.id })

def publishPages (i : Instance) : List Page → Except RuntimeError Unit × Instance
  | [] => (.ok (), i)
  | page :: rest =>
    match i.publishPage page with
    | (.error e, after) => (.error e, after)
    | (.ok (), after) => after.publishPages rest

def unpublishPage (i : Instance) (page : String) : Except RuntimeError Unit × Instance :=
  match i.pages.unpublish page with
  | (some _, pages) => (.ok (), { i with pages, hub := (i.hub.closePage page).2 })
  | (none, pages) => (.error (.pageNotFound (i.pageRef page)), { i with pages })

def resolvePage (i : Instance) (page : String) : Except RuntimeError ResolvedPage :=
  match i.pages.resolve page with
  | some p => .ok ⟨p.fileName, p.title, i.version⟩
  | none => .error (.pageNotFound (i.pageRef page))

def subscribe (i : Instance) (page : String) : Except RuntimeError Nat × Instance :=
  match i.resolvePage page with
  | .error e => (.error e, i)
  | .ok _ =>
    match i.hub.subscribe page with
    | (some number, hub) => (.ok number, { i with hub })
    | (none, hub) => (.error (.pageNotFound (i.pageRef page)), { i with hub })

def emitToPage (i : Instance) (page : String) (event : ApplicationEvent) : Nat × Instance :=
  let (reached, hub) := i.hub.emitToPage page event
  (reached, { i with hub })

def emitToAll (i : Instance) (event : ApplicationEvent) : Nat × Instance :=
  let (reached, hub) := i.hub.emitToAll event
  (reached, { i with hub })

def emitToServed (i : Instance) (page : String) (event : ApplicationEvent) :
    Except RuntimeError Nat × Instance :=
  match i.resolvePage page with
  | .error e => (.error e, i)
  | .ok _ =>
    let (reached, after) := i.emitToPage page event
    (.ok reached, after)

def receive (i : Instance) (number : Nat) : Received ApplicationEvent × Instance :=
  let (found, hub) := i.hub.receive number
  (found, { i with hub })

def unsubscribe (i : Instance) (number : Nat) : Instance :=
  { i with hub := i.hub.unsubscribe number }

def write (i : Instance) (time : Instant) (level : LogLevel) (message : String) : Instance :=
  { i with log := i.log.write time level message }

/-- Lets the application's code run. A failure is noted in the log under the given heading. -/
def run {α : Type} (i : Instance) (time : Instant) (heading : String)
    (activity : Activity (Except RuntimeError α)) : Except RuntimeError α × Instance :=
  let (answer, outlets) := activity.run time ⟨i.hub, i.log⟩
  let after := { i with hub := outlets.hub, log := outlets.log }
  match answer with
  | .ok a => (.ok a, after)
  | .error e => (.error e, after.write time .warn (heading ++ " failed: " ++ e.message))

def invoke (i : Instance) (time : Instant) (method : String) (arguments : List String) :
    Except RuntimeError String × Instance :=
  match decodeArguments arguments with
  | .error e => (.error e, i)
  | .ok values =>
    let (answer, after) :=
      i.run time ("method " ++ method) (i.handler.invoke ⟨i.applicationId, false⟩ method values)
    (answer.map (·.text), after)

def handleEvent (i : Instance) (time : Instant) (page event : String) (arguments : List String)
    (isTrusted : Bool) : Except RuntimeError Unit × Instance :=
  match i.resolvePage page with
  | .error e => (.error e, i)
  | .ok _ =>
    match decodeArguments arguments with
    | .error e => (.error e, i)
    | .ok values =>
      i.run time ("listener for " ++ event)
        (i.handler.handleEvent ⟨i.applicationId, page, isTrusted⟩ event values)

def stop (i : Instance) (time : Instant) : Instance :=
  { i with hub := i.hub.closeAll }.write time .runtime "application instance stopped"

end Instance
end AppHost
