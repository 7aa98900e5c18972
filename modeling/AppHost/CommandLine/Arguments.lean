import AppHost.Path

/-!
Reading the arguments of the program. A command stands below the program or below another command;
switches and options may stand at every level, and those of a deeper level win. What is wrong with
arguments that cannot be taken is not told.
-/

set_option autoImplicit false
namespace AppHost.CommandLine

inductive Level
  | program
  | serve
  | init
  | config
  | configShow
  | configPath
  | configReset
  | applications
  | completions
  deriving DecidableEq, Repr

inductive Switch
  | quiet
  | verbose
  | debug
  | trace
  | json
  | yaml
  | noColor
  | dryRun
  | yes
  | diagnostics
  | force
  | noAdmin
  | version
  deriving DecidableEq, Repr

inductive Parameter
  | config
  | color
  | listen
  | adminListen
  | applicationsDirectory
  -- The only one without a name in front.
  | shell
  deriving DecidableEq, Repr

/-! ### What may stand where -/

namespace Level

def commands : Level → List (String × Level)
  | .program => [("serve", .serve), ("init", .init), ("config", .config),
      ("applications", .applications), ("completions", .completions)]
  | .config => [("show", .configShow), ("path", .configPath), ("reset", .configReset)]
  | _ => []

def title : Level → String
  | .program => "apprunner"
  | .serve => "apprunner-serve"
  | .init => "apprunner-init"
  | .config => "apprunner-config"
  | .configShow => "apprunner-config-show"
  | .configPath => "apprunner-config-path"
  | .configReset => "apprunner-config-reset"
  | .applications => "apprunner-applications"
  | .completions => "apprunner-completions"

def ownSwitches : Level → List (String × Switch)
  | .serve => [("no-admin", .noAdmin)]
  | .init => [("force", .force)]
  | _ => []

/-- Longer names of switches; a level's own go before the common ones. -/
def switches (l : Level) : List (String × Switch) :=
  l.ownSwitches ++ [("quiet", .quiet), ("verbose", .verbose), ("debug", .debug), ("trace", .trace),
    ("json", .json), ("yaml", .yaml), ("no-color", .noColor), ("dry-run", .dryRun), ("yes", .yes),
    ("force", .yes), ("diagnostics", .diagnostics), ("version", .version)]

def parameters (l : Level) : List (String × Parameter) :=
  (match l with
    | .serve => [("listen", .listen), ("admin-listen", .adminListen),
        ("applications-dir", .applicationsDirectory)]
    | _ => []) ++ [("config", .config), ("color", .color)]

end Level

def Switch.ofLetter? (c : Char) : Option Switch :=
  if c = 'q' then some .quiet
  else if c = 'v' then some .verbose
  else if c = 'y' then some .yes
  else if c = 'V' then some .version
  else none

def Parameter.accepts (p : Parameter) (value : String) : Bool :=
  match p with
  | .config => !value.isEmpty
  | .color => ["auto", "always", "never"].contains value
  | .shell => ["bash", "elvish", "fish", "powershell", "zsh"].contains value
  | _ => true

/-! ### One level -/

structure Given where
  -- Each as often as it is given.
  switches : List Switch := []
  values : List (Parameter × String) := []
  -- A parameter whose value has not come yet, or has not been looked at.
  pending : Option (Parameter × Option String) := none
  deriving DecidableEq, Repr

inductive Stop
  | usage
  | version (title : String)
  deriving DecidableEq, Repr

namespace Given

def has (g : Given) (s : Switch) : Bool := g.switches.contains s

def value? (g : Given) (p : Parameter) : Option String := g.values.lookup p

/-- Takes the pending value, which must be there, be of the right kind, and be the only one. -/
def settle (g : Given) : Except Stop Given :=
  match g.pending with
  | none => .ok g
  | some (_, none) => .error .usage
  | some (p, some value) =>
    if (g.value? p).isSome || !p.accepts value then .error .usage
    else .ok { g with values := g.values ++ [(p, value)], pending := none }

def switch (l : Level) (s : Switch) (g : Given) : Except Stop Given := do
  let g ← g.settle
  if s = .version then throw (.version l.title)
  if s ≠ .verbose && g.has s then throw .usage
  return { g with switches := g.switches ++ [s] }

def awaitsValue (g : Given) : Bool :=
  match g.pending with
  | some (_, none) => true
  | _ => false

def long (l : Level) (name : String) (attached : Option String) (g : Given) : Except Stop Given :=
  match l.switches.lookup name, l.parameters.lookup name, attached with
  | some s, _, none => g.switch l s
  | none, some p, some value => do ({ ← g.settle with pending := some (p, some value) }).settle
  | none, some p, none => do return { ← g.settle with pending := some (p, none) }
  | _, _, _ => .error .usage

def letters (l : Level) : List Char → Given → Except Stop Given
  | [], g => .ok g
  | c :: rest, g =>
    match Switch.ofLetter? c with
    | some s => do letters l rest (← g.switch l s)
    | none => .error .usage

/-- A value that no option waits for: only the shell is given so. -/
def bare (l : Level) (value : String) (g : Given) : Except Stop Given := do
  let g ← g.settle
  if l = .completions && (g.value? .shell).isNone then
    return { g with pending := some (.shell, some value) }
  throw .usage

/-- What must not be given together, and what must not be left out. -/
def check (l : Level) (command : Bool) (g : Given) : Except Stop Given := do
  let g ← g.settle
  if g.has .json && g.has .yaml then throw .usage
  if g.has .noColor && (g.value? .color).isSome then throw .usage
  if !l.commands.isEmpty && !command then throw .usage
  if l = .completions && (g.value? .shell).isNone then throw .usage
  return g

end Given

/-! ### All levels -/

/-- What comes after two dashes are values alone. -/
def scanValues (l : Level) : List String → Given → Except Stop Given
  | [], g => g.check l false
  | token :: rest, g => do scanValues l rest (← g.bare l token)

def scan (l : Level) (g : Given) : List String → Except Stop (List (Level × Given))
  | [] => do return [(l, ← g.check l false)]
  | token :: rest =>
    match if g.awaitsValue then none else l.commands.lookup token with
    | some inner => do
      let below ← scan inner {} rest
      return (l, ← g.check l true) :: below
    | none =>
      match token.toList with
      | ['-', '-'] => do return [(l, ← scanValues l rest g)]
      | '-' :: '-' :: written => do
        let attached := match written.dropWhile (· != '=') with
          | _ :: value => some (String.ofList value)
          | [] => none
        scan l (← g.long l (String.ofList (written.takeWhile (· != '='))) attached) rest
      | '-' :: c :: written => do scan l (← Given.letters l (c :: written) g) rest
      | _ =>
        match g.pending with
        | some (p, none) => scan l { g with pending := some (p, some token) } rest
        | _ => do scan l (← g.bare l token) rest

/-! ### The command that is asked for -/

inductive ColorChoice
  | auto
  | always
  | never
  deriving DecidableEq, Repr

structure CommonOptions where
  config : Option String := none
  quiet : Bool := false
  verbosity : Nat := 0
  debug : Bool := false
  trace : Bool := false
  json : Bool := false
  yaml : Bool := false
  noColor : Bool := false
  color : ColorChoice := .auto
  dryRun : Bool := false
  yes : Bool := false
  diagnostics : Bool := false
  deriving DecidableEq, Repr

structure ServeOptions where
  listen : Option String := none
  adminListen : Option String := none
  noAdmin : Bool := false
  applicationsDirectory : Option String := none
  deriving DecidableEq, Repr

inductive Command
  | serve (options : ServeOptions)
  | init (force : Bool)
  | show
  | path
  | reset
  | applications
  | completions (shell : String)
  deriving DecidableEq, Repr

structure Invocation where
  common : CommonOptions
  command : Command
  deriving DecidableEq, Repr

namespace Invocation

def hasAny (levels : List (Level × Given)) (s : Switch) : Bool := levels.any fun l => l.2.has s

def innermost? (levels : List (Level × Given)) (p : Parameter) : Option String :=
  levels.reverse.findSome? fun l => l.2.value? p

def verbosity (levels : List (Level × Given)) : Nat :=
  let counts := levels.map fun l => l.2.switches.count .verbose
  ((counts.filter (· ≠ 0)).getLast?).getD 0

def color : Option String → ColorChoice
  | some "always" => .always
  | some "never" => .never
  | _ => .auto

def options (levels : List (Level × Given)) : CommonOptions where
  config := innermost? levels .config
  quiet := hasAny levels .quiet
  verbosity := verbosity levels
  debug := hasAny levels .debug
  trace := hasAny levels .trace
  json := hasAny levels .json
  yaml := hasAny levels .yaml
  noColor := hasAny levels .noColor
  color := color (innermost? levels .color)
  dryRun := hasAny levels .dryRun
  yes := hasAny levels .yes
  diagnostics := hasAny levels .diagnostics

def command? : Level × Given → Option Command
  | (.serve, g) => some (.serve {
      listen := g.value? .listen
      adminListen := g.value? .adminListen
      noAdmin := g.has .noAdmin
      applicationsDirectory := g.value? .applicationsDirectory })
  | (.init, g) => some (.init (g.has .force))
  | (.configShow, _) => some .show
  | (.configPath, _) => some .path
  | (.configReset, _) => some .reset
  | (.applications, _) => some .applications
  | (.completions, g) => (g.value? .shell).map .completions
  | _ => none

def parse (arguments : List String) : Except Stop Invocation := do
  let levels ← scan .program {} arguments
  match levels.getLast?.bind command? with
  | some command => return ⟨options levels, command⟩
  | none => throw .usage

end Invocation
end AppHost.CommandLine
