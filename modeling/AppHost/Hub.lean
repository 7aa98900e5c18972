import AppHost.Contract.Basic
import AppHost.Dictionary
import AppHost.Feed

/-!
The event hub of one run of an application. Every open page has a feed of its own, and every
subscription reads the feed of its page on its own. A subscription outlives the feed: when the page
is closed it reads what is left. When the whole hub is shut down, nothing is read any more.

Each function here is one atomic step but for `closeAll` and `subscribe`, which are two steps each.
-/

set_option autoImplicit false
namespace AppHost

inductive Source
  | live
  -- The page was closed when its feed stood so.
  | final (feed : Feed ApplicationEvent)

structure Subscription where
  page : String
  -- The position in the feed of the event that is read next.
  position : Nat
  source : Source

structure Hub where
  applicationId : String
  -- How many events each page's feed keeps.
  capacity : Nat
  pages : Dictionary (Feed ApplicationEvent)
  -- By the number that each was given; empty where one was dropped.
  subscriptions : List (Option Subscription)
  isShutDown : Bool

namespace Subscription

def isLiveOn (s : Subscription) (page : String) : Bool :=
  match s.source with
  | .live => s.page = page
  | .final _ => false

def detach (page : String) (feed : Feed ApplicationEvent) (s : Subscription) : Subscription :=
  if s.isLiveOn page then { s with source := .final feed } else s

end Subscription

namespace Hub

def defaultBuffer : Nat := 256

def new (applicationId : String) (buffer : Nat) : Hub :=
  ⟨applicationId, Feed.capacityFor buffer, .empty, [], false⟩

def openPage (h : Hub) (page : String) : Hub :=
  if h.pages.contains page then h
  else { h with pages := h.pages.insert page (.empty h.capacity) }

def closePage (h : Hub) (page : String) : Bool × Hub :=
  match h.pages.find? page with
  | none => (false, h)
  | some feed =>
    (true, { h with
      pages := h.pages.erase page
      subscriptions := h.subscriptions.map (·.map (·.detach page feed)) })

def shutDown (h : Hub) : Hub := { h with isShutDown := true }

def clear (h : Hub) : Hub := h.pages.keys.foldl (fun h page => (h.closePage page).2) h

def closeAll (h : Hub) : Hub := h.shutDown.clear

/-- Adds a subscription to a page, if it is open, and gives its number. What was sent before is not
read by it. -/
def attach (h : Hub) (page : String) : Option Nat × Hub :=
  match h.pages.find? page with
  | none => (none, h)
  | some feed =>
    (some h.subscriptions.length,
      { h with subscriptions := h.subscriptions ++ [some ⟨page, feed.sent, .live⟩] })

def subscribe (h : Hub) (page : String) : Option Nat × Hub :=
  if h.isShutDown then (none, h) else h.attach page

def subscription? (h : Hub) (number : Nat) : Option Subscription := h.subscriptions[number]?.join

def subscriberCount (h : Hub) (page : String) : Nat :=
  if h.pages.contains page then
    (h.subscriptions.filter (·.any (·.isLiveOn page))).length
  else 0

def emitToPage (h : Hub) (page : String) (event : ApplicationEvent) : Nat × Hub :=
  match h.pages.find? page with
  | none => (0, h)
  | some feed => (h.subscriberCount page, { h with pages := h.pages.insert page (feed.send event) })

def emitToAll (h : Hub) (event : ApplicationEvent) : Nat × Hub :=
  (h.pages.keys.foldl (fun reached page => reached + h.subscriberCount page) 0,
    { h with pages := h.pages.map fun _ f => f.send event })

def feedOf (h : Hub) (s : Subscription) : Option (Feed ApplicationEvent) :=
  match s.source with
  | .live => h.pages.find? s.page
  | .final feed => some feed

/-- What a subscription finds next, and where it stands after that. A feed that was closed ends with
the last event it had. -/
def next (h : Hub) (s : Subscription) : Received ApplicationEvent × Nat :=
  if h.isShutDown then (.closed, s.position)
  else
    match s.source, h.feedOf s with
    | .live, some feed => feed.read s.position
    | .final _, some feed =>
      match feed.read s.position with
      | (.pending, position) => (.closed, position)
      | found => found
    | _, none => (.closed, s.position)

def receive (h : Hub) (number : Nat) : Received ApplicationEvent × Hub :=
  match h.subscription? number with
  | none => (.closed, h)
  | some s =>
    let (found, position) := h.next s
    (found, { h with subscriptions := h.subscriptions.set number (some { s with position }) })

def unsubscribe (h : Hub) (number : Nat) : Hub :=
  { h with subscriptions := h.subscriptions.set number none }

end Hub
end AppHost
