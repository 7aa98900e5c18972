import AppHost.Admin.Request

/-! The resources that operators address, and the methods that each of them knows. -/

set_option autoImplicit false
namespace AppHost.Admin

/-- Ids stand as they are written in the target. -/
inductive Route
  | health
  | applications
  | lifecycle
  | launch (application : String)
  | stop (application : String)
  | log (application : String)
  | page (application page : String)
  | events (application : String)
  deriving DecidableEq, Repr

namespace Route

def ofResource? (application : String) : List String → Option Route
  | ["launch"] => some (.launch application)
  | ["stop"] => some (.stop application)
  | ["log"] => some (.log application)
  | ["pages", id] => if id.isEmpty then none else some (.page application id)
  | ["events"] => some (.events application)
  | _ => none

def ofSegments? : List String → Option Route
  | ["health"] => some .health
  | ["applications"] => some .applications
  | ["applications", "lifecycle"] => some .lifecycle
  | "applications" :: application :: resource =>
    if application.isEmpty then none else ofResource? application resource
  | _ => none

def methods : Route → List String
  | .health => ["GET", "HEAD"]
  | .applications => ["GET", "HEAD"]
  | .lifecycle => ["GET", "HEAD"]
  | .launch _ => ["POST"]
  | .stop _ => ["POST"]
  | .log _ => ["GET", "HEAD"]
  | .page _ _ => ["PUT", "DELETE"]
  | .events _ => ["POST"]

end Route

def idText (name written : String) : Except Response String :=
  match segmentText? written with
  | some text => .ok text
  | none => .error (.refusal 400 ("Invalid URL: Invalid UTF-8 in `" ++ name ++ "`"))

def applicationId (written : String) : Except Response String := idText "application_id" written

def pageRef (application page : String) : Except Response PageRef := do
  return ⟨← applicationId application, ← idText "page_id" page⟩

def queryVersion (query : List (String × String)) :
    Except Response (Option Calendar.Instant) :=
  let refuse (reason : String) : Except Response (Option Calendar.Instant) :=
    .error (.refusal 400 ("Failed to deserialize query string: " ++ reason))
  let read (text : String) : Except Response (Option Calendar.Instant) :=
    match Calendar.Instant.parse text with
    | .ok t => .ok (some t)
    | .error fault => refuse ("version: " ++ fault.message)
  match (query.filter (·.1 = "version")).map (·.2) with
  | [] => .ok none
  | [text] => read text
  | text :: _ => do
    let _ ← read text
    refuse "duplicate field `version`"

end AppHost.Admin
