import AppHost.Lifecycle
import AppHost.Watched

/-!
The host of applications. Its catalog holds every manifest that was registered; an application that
was launched from it, or with behaviour of its own, has one running instance. Launches and stops are
told on a feed, and the list of running applications is kept for watchers. The log of a stopped
instance can be read for some time.

Instances that have been stopped are kept in the state, since who holds one may go on using it.
-/

set_option autoImplicit false
namespace AppHost
open Calendar (Instant)

/-- A reading of the clocks: the date, and the nanoseconds that have gone by. -/
structure Moment where
  date : Instant
  elapsed : Nat

structure HostOptions where
  -- How many events each page keeps for slow readers, in memory at most half a machine word.
  eventBuffer : Nat
  -- How many nanoseconds the log of a stopped application is kept.
  logRetention : Nat
  deriving DecidableEq, Repr

/-- The instances of one application, those that were stopped in the order of their launch. -/
structure Application where
  retired : List Instance
  current : Option Instance

/-- Names an instance by the number of launches of its application before it. -/
structure InstanceRef where
  applicationId : String
  launch : Nat
  deriving DecidableEq, Repr

structure SubscriptionRef where
  target : InstanceRef
  number : Nat
  deriving DecidableEq, Repr

structure RecentLog where
  stoppedAt : Nat
  launch : Nat
  deriving DecidableEq, Repr

structure Host where
  options : HostOptions
  catalog : Dictionary Manifest
  applications : Dictionary Application
  recentLogs : Dictionary RecentLog
  lifecycle : Feed LifecycleEvent
  watched : Watched (List RunningApplication)

namespace HostOptions

def defaultRetention : Nat := 3600 * 1000000000

def default : HostOptions := ⟨Hub.defaultBuffer, defaultRetention⟩

end HostOptions

namespace Application

def none : Application := ⟨[], .none⟩

def instances (a : Application) : List Instance := a.retired ++ a.current.toList

def instance? (a : Application) (launch : Nat) : Option Instance := a.instances[launch]?

def set (a : Application) (launch : Nat) (i : Instance) : Application :=
  if launch < a.retired.length then { a with retired := a.retired.set launch i }
  else if launch = a.retired.length then { a with current := a.current.map fun _ => i }
  else a

end Application

namespace Host

def lifecycleCapacity : Nat := 64

def new (options : HostOptions) : Host where
  options := options
  catalog := .empty
  applications := .empty
  recentLogs := .empty
  lifecycle := .empty lifecycleCapacity
  watched := .new []

def application (h : Host) (id : String) : Application := (h.applications.find? id).getD .none

def running? (h : Host) (id : String) : Option Instance := (h.application id).current

def isRunning (h : Host) (id : String) : Bool := (h.running? id).isSome

def running (h : Host) (id : String) : Except RuntimeError Instance :=
  match h.running? id with
  | some i => .ok i
  | none => .error (.applicationNotRunning id)

/-- The same, where an application that does not run counts as a page that is not there. -/
def runningPage (h : Host) (page : PageRef) : Except RuntimeError Instance :=
  match h.running? page.applicationId with
  | some i => .ok i
  | none => .error (.pageNotFound page)

def setRunning (h : Host) (id : String) (i : Instance) : Host :=
  { h with applications :=
      h.applications.insert id { h.application id with current := some i } }

def runningApplications (h : Host) : List RunningApplication :=
  h.applications.values.filterMap fun a => a.current.map (·.summary)

/-! ### Catalog and lifecycle -/

/-- Adds a manifest, in the place of an earlier one of the same id. Running instances stay as they
are. -/
def register (h : Host) (m : Manifest) : Except RuntimeError Unit × Host :=
  match m.validate with
  | .error e => (.error e, h)
  | .ok () => (.ok (), { h with catalog := h.catalog.insert m.id m })

def registerAll (h : Host) : List Manifest → Except RuntimeError Unit × Host
  | [] => (.ok (), h)
  | m :: rest =>
    match h.register m with
    | (.error e, after) => (.error e, after)
    | (.ok (), after) => after.registerAll rest

def autostartApplications (h : Host) : List String :=
  (h.catalog.values.filter fun m => m.autostart && m.allowLaunching).map (·.id)

def announce (h : Host) (event : LifecycleEvent) : Host :=
  { h with lifecycle := h.lifecycle.send event }

def updateWatched (h : Host) : Host :=
  { h with watched := h.watched.replace h.runningApplications }

/-- Launches an application with the given behaviour. The pages are served before anyone knows of the
instance, which is given up if one of them is refused. -/
def launchWith (h : Host) (now : Moment) (d : Descriptor) (handler : Handler) :
    Except RuntimeError Unit × Host :=
  if d.applicationId.isEmpty then
    (.error (.invalidArgument "application id must not be empty"), h)
  else if h.isRunning d.applicationId then
    (.error (.applicationAlreadyRunning d.applicationId), h)
  else
    let start := Instance.start d.applicationId d.version handler h.options.eventBuffer now.date
    match start.publishPages d.pages with
    | (.error e, _) => (.error e, h)
    | (.ok (), i) =>
      (.ok (), ((h.setRunning d.applicationId i).announce (.launched i.summary)).updateWatched)

def launch (h : Host) (now : Moment) (id : String) (version : Option Instant) :
    Except RuntimeError Unit × Host :=
  match h.catalog.find? id with
  | none => (.error (.applicationNotFound id), h)
  | some m =>
    if m.allowLaunching then
      h.launchWith now { m.descriptor with version := version <|> m.version } m.handler
    else (.error (.applicationNotEnabled id), h)

def pruneLogs (h : Host) (now : Moment) : Host :=
  { h with recentLogs := h.recentLogs.filter fun _ log =>
      decide (now.elapsed - log.stoppedAt < h.options.logRetention) }

/-- Stops the running instance of an application, if there is one: keeps its log and tells of it. -/
def retire (h : Host) (now : Moment) (id : String) : Host :=
  match h.running? id with
  | none => h
  | some i =>
    let launch := (h.application id).retired.length
    let stopped : Application := ⟨(h.application id).retired ++ [i.stop now.date], none⟩
    let kept := ({ h with applications := h.applications.insert id stopped }).pruneLogs now
    ({ kept with recentLogs := kept.recentLogs.insert id ⟨now.elapsed, launch⟩ }).announce
      (.stopped i.summary)

def stop (h : Host) (now : Moment) (id : String) : Except RuntimeError Unit × Host :=
  match h.running id with
  | .error e => (.error e, h)
  | .ok _ => (.ok (), (h.retire now id).updateWatched)

def runningIds (h : Host) : List String :=
  (h.applications.entries.filter fun e => e.2.current.isSome).map (·.1)

def stopEach (h : Host) (now : Moment) (order : List String) : Host :=
  if order.isEmpty then h else (order.foldl (fun h id => h.retire now id) h).updateWatched

def stopAll (h : Host) (now : Moment) : Host := h.stopEach now h.runningIds

/-! ### Instances by reference -/

def instance? (h : Host) (ref : InstanceRef) : Option Instance :=
  (h.application ref.applicationId).instance? ref.launch

def setInstance (h : Host) (ref : InstanceRef) (i : Instance) : Host :=
  { h with applications :=
      h.applications.insert ref.applicationId ((h.application ref.applicationId).set ref.launch i) }

def runningRef (h : Host) (id : String) : InstanceRef := ⟨id, (h.application id).retired.length⟩

/-- The instance whose log is the log of an application: the running one, or the last one that was
stopped if its log is still kept. -/
def findLog (h : Host) (now : Moment) (id : String) : Except RuntimeError InstanceRef × Host :=
  if h.isRunning id then (.ok (h.runningRef id), h)
  else
    let pruned := h.pruneLogs now
    match pruned.recentLogs.find? id with
    | some log => (.ok ⟨id, log.launch⟩, pruned)
    | none => (.error (.applicationLogNotFound id), pruned)

def receive (h : Host) (ref : SubscriptionRef) : Received ApplicationEvent × Host :=
  match h.instance? ref.target with
  | none => (.closed, h)
  | some i =>
    let (found, after) := i.receive ref.number
    (found, h.setInstance ref.target after)

def unsubscribe (h : Host) (ref : SubscriptionRef) : Host :=
  match h.instance? ref.target with
  | none => h
  | some i => h.setInstance ref.target (i.unsubscribe ref.number)

/-! ### What pages ask for -/

/-- Puts a request to an instance that was looked up, which may change by it, also where it fails. -/
def ask {α : Type} (h : Host) (id : String) (found : Except RuntimeError Instance)
    (request : Instance → Except RuntimeError α × Instance) : Except RuntimeError α × Host :=
  match found with
  | .error e => (.error e, h)
  | .ok i =>
    let (answer, after) := request i
    (answer, h.setRunning id after)

def checked (page : PageRef) : Except RuntimeError Unit :=
  page.validate.mapError RuntimeError.ofContract

def pageTarget (h : Host) (page : PageRef) : Except RuntimeError Instance := do
  checked page
  h.runningPage page

def resolvePage (h : Host) (page : PageRef) : Except RuntimeError ResolvedPage × Host :=
  h.ask page.applicationId (h.pageTarget page) fun i => (i.resolvePage page.pageId, i)

def subscribe (h : Host) (page : PageRef) : Except RuntimeError SubscriptionRef × Host :=
  h.ask page.applicationId (h.pageTarget page) fun i =>
    let (answer, after) := i.subscribe page.pageId
    (answer.map (SubscriptionRef.mk (h.runningRef page.applicationId)), after)

def callTarget (h : Host) (call : MethodInvocation) : Except RuntimeError Instance := do
  if call.applicationId.isEmpty then throw (.invalidArgument "application_id must not be empty")
  if call.method.isEmpty then throw (.invalidArgument "method must not be empty")
  h.running call.applicationId

def invoke (h : Host) (now : Moment) (call : MethodInvocation) :
    Except RuntimeError MethodResult × Host :=
  h.ask call.applicationId (h.callTarget call) fun i =>
    let (answer, after) := i.invoke now.date call.method call.arguments
    (answer.map MethodResult.mk, after)

def triggerTarget (h : Host) (t : EventTrigger) : Except RuntimeError Instance := do
  checked t.page
  if t.name.isEmpty then throw (.invalidArgument "event name must not be empty")
  h.runningPage t.page

def trigger (h : Host) (now : Moment) (t : EventTrigger) : Except RuntimeError Unit × Host :=
  h.ask t.applicationId (h.triggerTarget t) fun i =>
    i.handleEvent now.date t.pageId t.name t.arguments false

/-! ### What operators ask for -/

def emitToPage (h : Host) (page : PageRef) (event : ApplicationEvent) :
    Except RuntimeError Nat × Host :=
  h.ask page.applicationId (h.pageTarget page) fun i => i.emitToServed page.pageId event

def emitToAll (h : Host) (id : String) (event : ApplicationEvent) : Except RuntimeError Nat × Host :=
  h.ask id (h.running id) fun i =>
    let (reached, after) := i.emitToAll event
    (.ok reached, after)

def publishPage (h : Host) (id : String) (page : Page) : Except RuntimeError Unit × Host :=
  h.ask id (h.running id) fun i => i.publishPage page

def unpublishPage (h : Host) (page : PageRef) : Except RuntimeError Unit × Host :=
  h.ask page.applicationId (h.running page.applicationId) fun i => i.unpublishPage page.pageId

def subscriberCount (h : Host) (page : PageRef) : Nat :=
  match h.running? page.applicationId with
  | some i => i.hub.subscriberCount page.pageId
  | none => 0

end Host
end AppHost
