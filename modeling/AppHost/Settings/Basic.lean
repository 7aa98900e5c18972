import AppHost.EventStream
import AppHost.Json.Printer
import AppHost.Text.Quoted

/-! The settings of the program, in sections, and how they are shown. -/

set_option autoImplicit false
namespace AppHost

structure LoggingSettings where
  level : String := "info"
  deriving DecidableEq, Repr

structure ContractSettings where
  listen : String := "127.0.0.1:9190"
  -- A local socket beside the address; it may refer to variables.
  socket : Option String := none
  deriving DecidableEq, Repr

structure AdminSettings where
  enabled : Bool := true
  listen : String := "127.0.0.1:9191"
  deriving DecidableEq, Repr

structure HostSettings where
  -- In milliseconds.
  heartbeatInterval : Nat := 5000
  eventBuffer : Nat := Hub.defaultBuffer
  -- In seconds.
  logRetention : Nat := HostOptions.defaultRetention / 1000000000
  applicationsDirectory : Option String := none
  deriving DecidableEq, Repr

structure Settings where
  logging : LoggingSettings := {}
  contract : ContractSettings := {}
  admin : AdminSettings := {}
  host : HostSettings := {}
  deriving DecidableEq, Repr

namespace Settings

def default : Settings := {}

/-- In milliseconds, at least one. -/
def heartbeat (s : Settings) : Nat := max s.host.heartbeatInterval EventStream.minInterval

def hostOptions (s : Settings) : HostOptions :=
  { eventBuffer := s.host.eventBuffer, logRetention := s.host.logRetention * 1000000000 }

/-! ### Names in files -/

def optionalText : Option String → Json.Value
  | some s => .string s
  | none => .null

def toJson (s : Settings) : Json.Value :=
  .object [
    ("logging", .object [("level", .string s.logging.level)]),
    ("grpc", .object [
      ("listen", .string s.contract.listen),
      ("socket", optionalText s.contract.socket)]),
    ("admin", .object [
      ("enabled", .bool s.admin.enabled),
      ("listen", .string s.admin.listen)]),
    ("runtime", .object [
      ("heartbeat_interval_ms", .nat s.host.heartbeatInterval),
      ("event_buffer", .nat s.host.eventBuffer),
      ("log_retention_secs", .nat s.host.logRetention),
      ("applications_dir", optionalText s.host.applicationsDirectory)])]

/-! ### As an outline -/

/-- Fields of a record, each behind its name and with a comma after it, between braces. -/
def outlineRecord (name : String) (fields : List (String × List String)) : List String :=
  let field : String × List String → List String := fun f =>
    match f.2 with
    | [] => []
    | first :: rest =>
      let lines := (f.1 ++ ": " ++ first) :: rest
      (lines.dropLast ++ lines.getLast?.toList.map (· ++ ",")).map ("    " ++ ·)
  (name ++ " \x7b") :: fields.flatMap field ++ ["\x7d"]

def outlineText (s : String) : List String := [Text.quoted s]

def outlineOptional : Option String → List String
  | none => ["None"]
  | some s => ["Some(", "    " ++ Text.quoted s ++ ",", ")"]

def outlineNat (n : Nat) : List String := [String.ofList (Nat.toDigits 10 n)]

def outlineBool (b : Bool) : List String := [String.ofList (Json.boolChars b)]

def outline (s : Settings) : List String :=
  outlineRecord "AppConfig" [
    ("logging", outlineRecord "LoggingConfig" [("level", outlineText s.logging.level)]),
    ("grpc", outlineRecord "GrpcConfig" [
      ("listen", outlineText s.contract.listen),
      ("socket", outlineOptional s.contract.socket)]),
    ("admin", outlineRecord "AdminConfig" [
      ("enabled", outlineBool s.admin.enabled),
      ("listen", outlineText s.admin.listen)]),
    ("runtime", outlineRecord "RuntimeConfig" [
      ("heartbeat_interval_ms", outlineNat s.host.heartbeatInterval),
      ("event_buffer", outlineNat s.host.eventBuffer),
      ("log_retention_secs", outlineNat s.host.logRetention),
      ("applications_dir", outlineOptional s.host.applicationsDirectory)])]

end Settings
end AppHost
