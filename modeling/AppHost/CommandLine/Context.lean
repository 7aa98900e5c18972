import AppHost.CommandLine.Arguments
import AppHost.CommandLine.NoticeFilter
import AppHost.CommandLine.Report

/-! What holds while a command runs, and which lines it shows and how. -/

set_option autoImplicit false
namespace AppHost.CommandLine

structure Surroundings where
  environment : Environment
  -- Errors go to a terminal.
  terminal : Bool
  now : Moment

structure Context where
  surroundings : Surroundings
  options : CommonOptions
  file : Path
  settings : Settings

namespace Context

def environment (c : Context) : Environment := c.surroundings.environment

def threshold (c : Context) : Threshold :=
  if c.options.trace then some .trace
  else if c.options.debug then some .debug
  else
    match c.options.verbosity with
    | 0 => (Threshold.ofName? c.settings.logging.level.toList).getD (some .info)
    | 1 => some .debug
    | _ => some .trace

def filterVariable : String := "RUST_LOG"

/-- A filter in a variable goes before what the options ask for. -/
def filter (c : Context) : NoticeFilter :=
  ((c.environment.find? filterVariable).bind NoticeFilter.parse?).getD
    (.ofThreshold programName c.threshold)

def shows (c : Context) (n : Notice) : Bool := !c.options.quiet && c.filter.admits n

def say (c : Context) (n : Notice) : List OutputLine := if c.shows n then [.notice n] else []

def complaints (c : Context) : List String :=
  if c.options.quiet then []
  else
    let written := (c.environment.find? filterVariable).getD c.settings.logging.level
    (filterComplaints written).map fun reason => "warning: " ++ reason ++ ", ignoring it"

def colored (c : Context) : Bool :=
  let forced := c.options.color == .always || (c.environment.find? "FORCE_COLOR").isSome
  let refused := c.options.noColor || c.options.color == .never ||
    (c.environment.find? "NO_COLOR").isSome
  !refused && (forced || c.surroundings.terminal)

def format (c : Context) : NoticeFormat :=
  if c.options.json then .json else .text c.colored c.options.diagnostics

end Context

/-! ### Origins -/

namespace Origin

def program (line : Nat) : Origin :=
  ⟨programName, "crates/apprunner/src/main.rs", line, true⟩

def manifests (line : Nat) : Origin :=
  ⟨"apprunner::manifest", "crates/apprunner/src/manifest.rs", line, false⟩

def host (line : Nat) : Origin :=
  ⟨"apprunner::runner", "crates/apprunner/src/runner/mod.rs", line, false⟩

def hub (line : Nat) : Origin :=
  ⟨"apprunner::events", "crates/apprunner/src/events.rs", line, true⟩

end Origin
end AppHost.CommandLine
