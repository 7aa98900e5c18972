import AppHost.Contract.Basic

/-! Why a request to the runtime fails, how that is told, and under which status code a call over the
contract ends with it. -/

set_option autoImplicit false
namespace AppHost

inductive RuntimeError
  | applicationNotFound (id : String)
  | applicationNotEnabled (id : String)
  | applicationAlreadyRunning (id : String)
  | applicationNotRunning (id : String)
  | applicationLogNotFound (id : String)
  | pageNotFound (page : PageRef)
  | unknownMethod (name : String)
  | invalidArgument (reason : String)
  -- Raised by an application, whose words are passed on as they are.
  | methodFailed (reason : String)
  | internal (reason : String)
  deriving DecidableEq, Repr

inductive StatusCode
  | notFound
  | invalidArgument
  | failedPrecondition
  | alreadyExists
  | unknown
  | internal
  deriving DecidableEq, Repr

def StatusCode.text : StatusCode → String
  | .notFound => "NotFound"
  | .invalidArgument => "InvalidArgument"
  | .failedPrecondition => "FailedPrecondition"
  | .alreadyExists => "AlreadyExists"
  | .unknown => "Unknown"
  | .internal => "Internal"

namespace RuntimeError

def message : RuntimeError → String
  | .applicationNotFound id => "application not found: " ++ id
  | .applicationNotEnabled id => "application not enabled: " ++ id
  | .applicationAlreadyRunning id => "an instance of application " ++ id ++ " already exists"
  | .applicationNotRunning id => "application not running: " ++ id
  | .applicationLogNotFound id => "application log not found: " ++ id
  | .pageNotFound page => "page not available: " ++ page.text
  | .unknownMethod name => "unknown method: " ++ name
  | .invalidArgument reason => "invalid argument: " ++ reason
  | .methodFailed reason => reason
  | .internal reason => "internal error: " ++ reason

def status : RuntimeError → StatusCode
  | .applicationNotFound _ => .notFound
  | .applicationNotEnabled _ => .failedPrecondition
  | .applicationAlreadyRunning _ => .alreadyExists
  | .applicationNotRunning _ => .notFound
  | .applicationLogNotFound _ => .notFound
  | .pageNotFound _ => .notFound
  | .unknownMethod _ => .invalidArgument
  | .invalidArgument _ => .invalidArgument
  | .methodFailed _ => .unknown
  | .internal _ => .internal

/-- A breach of the contract is the caller's fault, but for a timestamp, which callers do not send. -/
def ofContract (e : ContractError) : RuntimeError :=
  match e with
  | .missingUpdateType => .invalidArgument e.message
  | .emptyField _ => .invalidArgument e.message
  | .invalidTimestamp _ => .internal e.message

end RuntimeError
end AppHost
