import AppHost.Contract.Json
import AppHost.Instance

/-! What is told of running applications, and of their launches and stops. -/

set_option autoImplicit false
namespace AppHost
open Calendar (Instant)
open Json (Value)

structure RunningApplication where
  applicationId : String
  version : Option Instant
  startedAt : Instant
  pages : List Page
  deriving DecidableEq

inductive LifecycleEvent
  | launched (application : RunningApplication)
  | stopped (application : RunningApplication)
  deriving DecidableEq

def Instance.summary (i : Instance) : RunningApplication :=
  ⟨i.applicationId, i.version, i.startedAt, i.pages.list⟩

namespace RunningApplication

def fields (a : RunningApplication) : List (String × Value) :=
  [("application_id", .string a.applicationId)] ++
    (match a.version with
      | some v => [("application_version", .string v.text)]
      | none => []) ++
    [("started_at", .string a.startedAt.text), ("pages", .array (a.pages.map Page.toJson))]

def toJson (a : RunningApplication) : Value := .object a.fields

end RunningApplication

namespace LifecycleEvent

def application : LifecycleEvent → RunningApplication
  | .launched a => a
  | .stopped a => a

def kind : LifecycleEvent → String
  | .launched _ => "launched"
  | .stopped _ => "stopped"

def toJson (e : LifecycleEvent) : Value := .object (("type", .string e.kind) :: e.application.fields)

end LifecycleEvent
end AppHost
