import AppHost.Json.Value
import AppHost.RuntimeError

/-! Failures of admin requests: an HTTP status, and a body that tells kind and reason. -/

set_option autoImplicit false
namespace AppHost.Admin

inductive ErrorKind
  | notFound
  | badRequest
  | conflict
  | internal
  deriving DecidableEq, Repr

structure Error where
  kind : ErrorKind
  reason : String
  deriving DecidableEq, Repr

namespace ErrorKind

def status : ErrorKind → Nat
  | .notFound => 404
  | .badRequest => 400
  | .conflict => 409
  | .internal => 500

def code : ErrorKind → String
  | .notFound => "NOT_FOUND"
  | .badRequest => "BAD_REQUEST"
  | .conflict => "CONFLICT"
  | .internal => "INTERNAL_ERROR"

def heading : ErrorKind → String
  | .notFound => "Resource not found: "
  | .badRequest => "Bad request: "
  | .conflict => "Conflict: "
  | .internal => "Internal server error: "

def ofRuntime : RuntimeError → ErrorKind
  | .applicationNotFound _ => .notFound
  | .applicationNotRunning _ => .notFound
  | .applicationLogNotFound _ => .notFound
  | .pageNotFound _ => .notFound
  | .invalidArgument _ => .badRequest
  | .unknownMethod _ => .badRequest
  | .applicationNotEnabled _ => .conflict
  | .applicationAlreadyRunning _ => .conflict
  | .methodFailed _ => .internal
  | .internal _ => .internal

end ErrorKind

namespace Error

def ofRuntime (e : RuntimeError) : Error := ⟨.ofRuntime e, e.message⟩

def message (e : Error) : String := e.kind.heading ++ e.reason

def toJson (e : Error) : Json.Value :=
  .object [("code", .string e.kind.code), ("error", .string e.message)]

end Error
end AppHost.Admin
