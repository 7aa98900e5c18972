import AppHost.Environment
import AppHost.FileTree
import AppHost.Settings.Server

/-! Where the settings file is, and the file that is written at first: every setting with its
default, but for those that are none. -/

set_option autoImplicit false
namespace AppHost

inductive SettingsPathError
  | unexpandable
  -- The path names no file in a directory.
  | invalid (path : Path)
  deriving DecidableEq, Repr

def SettingsPathError.message : SettingsPathError → String
  | .unexpandable => "expanding path"
  | .invalid path => "invalid config file path: " ++ path.quoted

inductive SettingsWriteError
  | directory (path : Path)
  | file (path : Path)
  deriving DecidableEq, Repr

def SettingsWriteError.message : SettingsWriteError → String
  | .directory path => "creating config directory " ++ path.quoted
  | .file path => "writing config file to " ++ path.text

namespace Settings

def fileName : Path := ⟨"config.toml"⟩

/-- The settings file: the one asked for, or the one in the directory asked for, or the usual one. -/
def file (t : FileTree) (e : Environment) (asked : Option String) :
    Except SettingsPathError Path := do
  let path ← match asked with
    | none => pure (e.configDirectory.join fileName)
    | some written =>
      match e.expand? written with
      | none => throw .unexpandable
      | some p => pure (if t.isDirectory p then p.join fileName else p)
  if path.parent?.isNone then throw (.invalid path)
  return path

/-! ### The first file -/

def tomlText (s : String) : String := "\"" ++ s ++ "\""

def defaultBody : List String :=
  let d := Settings.default
  ["[logging]",
    "level = " ++ tomlText d.logging.level,
    "",
    "[grpc]",
    "listen = " ++ tomlText d.contract.listen,
    "",
    "[admin]",
    "enabled = " ++ String.ofList (Json.boolChars d.admin.enabled),
    "listen = " ++ tomlText d.admin.listen,
    "",
    "[runtime]",
    "heartbeat_interval_ms = " ++ String.ofList (Nat.toDigits 10 d.host.heartbeatInterval),
    "event_buffer = " ++ String.ofList (Nat.toDigits 10 d.host.eventBuffer),
    "log_retention_secs = " ++ String.ofList (Nat.toDigits 10 d.host.logRetention)]

def unlines (lines : List String) : String := lines.foldr (fun l rest => l ++ "\n" ++ rest) ""

def defaultText (file : Path) : String :=
  unlines (["# Configuration for " ++ programName, "# File: " ++ file.text, ""] ++ defaultBody)

def writeDefault (t : FileTree) (file : Path) : Except SettingsWriteError Unit × FileTree :=
  let (created, t) := match file.parent? with
    | some parent => t.createDirectories parent
    | none => (true, t)
  if created then
    match t.write file (Text.encodeUtf8 (defaultText file)) with
    | (true, t) => (.ok (), t)
    | (false, t) => (.error (.file file), t)
  else (.error (.directory (file.parent?.getD file)), t)

end Settings
end AppHost
