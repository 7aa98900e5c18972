import AppHost.Environment
import AppHost.Settings.Basic
import AppHost.SocketAddress

/-! What follows from the settings: where to listen, and where the manifests are. -/

set_option autoImplicit false
namespace AppHost

structure ServerOptions where
  contractAddress : SocketAddress
  contractSocket : Option Path
  adminAddress : Option SocketAddress
  -- In milliseconds.
  heartbeat : Nat
  deriving DecidableEq, Repr

inductive ServerOptionsError
  | contractAddress (written : String)
  | adminAddress (written : String)
  -- A path refers to a variable that is not set.
  | path
  deriving DecidableEq, Repr

def ServerOptionsError.message : ServerOptionsError → String
  | .contractAddress written => "invalid grpc.listen address " ++ Text.quoted written
  | .adminAddress written => "invalid admin.listen address " ++ Text.quoted written
  | .path => "expanding path"

namespace Settings

def expand (e : Environment) (written : String) : Except ServerOptionsError Path :=
  match e.expand? written with
  | some p => .ok p
  | none => .error .path

def applicationsDirectory (s : Settings) (e : Environment) : Except ServerOptionsError Path :=
  match s.host.applicationsDirectory with
  | some written => expand e written
  | none => .ok (e.dataDirectory.join ⟨"applications"⟩)

def contractAddress (s : Settings) : Except ServerOptionsError SocketAddress :=
  match SocketAddress.parse? s.contract.listen with
  | some a => .ok a
  | none => .error (.contractAddress s.contract.listen)

def adminAddress (s : Settings) : Except ServerOptionsError (Option SocketAddress) :=
  if s.admin.enabled then
    match SocketAddress.parse? s.admin.listen with
    | some a => .ok (some a)
    | none => .error (.adminAddress s.admin.listen)
  else .ok none

/-- The address of the contract is looked at first, the socket last. -/
def serverOptions (s : Settings) (e : Environment) : Except ServerOptionsError ServerOptions := do
  let contractAddress ← s.contractAddress
  let adminAddress ← s.adminAddress
  let contractSocket ← s.contract.socket.mapM (expand e)
  return { contractAddress, contractSocket, adminAddress, heartbeat := s.heartbeat }

end Settings
end AppHost
