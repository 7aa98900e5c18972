import AppHost.CommandLine.Notice
import AppHost.Host
import AppHost.ManifestDirectory
import AppHost.Settings.Load
import AppHost.Settings.Location

/-! What comes of a command: how it ends, what it writes out, and the files as it leaves them. -/

set_option autoImplicit false
namespace AppHost.CommandLine

inductive CommandError
  | settingsPath (reason : SettingsPathError)
  | settings (reason : SettingsError)
  | options (reason : ServerOptionsError)
  | manifests (reason : ManifestDirectoryError)
  | runtime (reason : RuntimeError)
  | write (reason : SettingsWriteError)
  | settingsExist (file : Path)
  | applicationsDirectory (directory : Path)
  deriving DecidableEq, Repr

def CommandError.message : CommandError → String
  | .settingsPath reason => reason.message
  | .settings reason => reason.message
  | .options reason => reason.message
  | .manifests reason => reason.message
  | .runtime reason => reason.message
  | .write reason => reason.message
  | .settingsExist file =>
    "config already exists at " ++ file.text ++ " (use --force to overwrite)"
  | .applicationsDirectory directory => "creating applications directory " ++ directory.text

inductive Outcome
  | done
  | failed (reason : CommandError)
  -- The arguments cannot be taken.
  | misused
  -- All is ready to serve requests.
  | serving (host : Host) (options : ServerOptions)

def Outcome.exitCode : Outcome → Nat
  | .done => 0
  | .failed _ => 1
  | .misused => 2
  | .serving _ _ => 0

inductive OutputLine
  | plain (text : String)
  | notice (notice : Notice)
  deriving DecidableEq, Repr

def OutputLine.text (format : NoticeFormat) (time : String) : OutputLine → String
  | .plain text => text
  | .notice n => n.shown format time

structure Report where
  outcome : Outcome
  files : FileTree
  output : List OutputLine := []
  -- What goes out beside the output, without the reason of a failure.
  complaints : List String := []
  format : NoticeFormat := .text false false

namespace Report

def done (files : FileTree) (output : List OutputLine) : Report := { outcome := .done, files, output }

def failed (files : FileTree) (reason : CommandError) : Report :=
  { outcome := .failed reason, files }

def after (earlier : List OutputLine) (r : Report) : Report :=
  { r with output := earlier ++ r.output }

def errors (r : Report) : List String :=
  r.complaints ++ match r.outcome with
    | .failed reason => [reason.message]
    | _ => []

end Report
end AppHost.CommandLine
