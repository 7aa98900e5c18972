import AppHost.CommandLine.Context
import AppHost.Yaml.Printer

/-!
What each command does with the files it is given. Those that write keep to an order: every check
comes first, then the settings file is written, then the directory of the manifests is created.
-/

set_option autoImplicit false
namespace AppHost.CommandLine

def info (origin : Origin) (message : String) : Notice := { severity := .info, origin, message }

def debug (origin : Origin) (message : String) : Notice := { severity := .debug, origin, message }

/-! ### Settings -/

def setUp (c : Context) (force : Bool) (files : FileTree) : Report :=
  if files.contains c.file && !(force || c.options.yes) then .failed files (.settingsExist c.file)
  else
    match c.settings.applicationsDirectory c.environment with
    | .error e => .failed files (.options e)
    | .ok directory =>
      if c.options.dryRun then
        .done files (c.say (info (.program 356)
          ("dry-run: would write default config to " ++ c.file.text ++ " and create " ++
            directory.text)))
      else
        match Settings.writeDefault files c.file with
        | (.error e, files) => .failed files (.write e)
        | (.ok (), files) =>
          match files.createDirectories directory with
          | (false, files) => .failed files (.applicationsDirectory directory)
          | (true, files) =>
            .done files (c.say (info (.program 371) ("Wrote default config to " ++ c.file.text)))

def reset (c : Context) (files : FileTree) : Report :=
  if c.options.dryRun then
    .done files (c.say (info (.program 384) ("dry-run: would reset config at " ++ c.file.text)))
  else
    match Settings.writeDefault files c.file with
    | (.error e, files) => .failed files (.write e)
    | (.ok (), files) => .done files []

/-- A value in the form for other programs that is asked for, if one is. -/
def machineText? (c : Context) (v : Json.Value) : Option String :=
  if c.options.json then some v.pretty
  else if c.options.yaml then some (Yaml.text v)
  else none

def showSettings (c : Context) (files : FileTree) : Report :=
  match machineText? c c.settings.toJson with
  | some text => .done files [.plain text]
  | none => .done files (c.settings.outline.map .plain)

def showPath (c : Context) (files : FileTree) : Report := .done files [.plain c.file.text]

/-! ### Applications -/

/-- What is told of files as they are loaded, up to the first that cannot be. -/
def loadNotices (c : Context) (files : FileTree) : List Path → List OutputLine
  | [] => []
  | path :: rest =>
    match files.loadManifest path with
    | .error _ => []
    | .ok m =>
      c.say { debug (.manifests 177) "loaded manifest" with
        fields := [("application_id", m.id), ("path", path.quoted)] } ++ loadNotices c files rest

def manifestNotices (c : Context) (files : FileTree) (directory : Path) : List OutputLine :=
  if files.contains directory then
    match files.manifestFiles directory with
    | .error _ => []
    | .ok paths => loadNotices c files paths
  else
    c.say (debug (.manifests 156)
      ("Applications directory " ++ directory.quoted ++ " does not exist"))

def column (width : Nat) (text : String) : String :=
  text ++ String.ofList (List.replicate (width - text.length) ' ') ++ " "

def row (id enabled autostart pages : String) : String :=
  column 24 id ++ column 8 enabled ++ column 9 autostart ++ pages

def yesNo (b : Bool) : String := if b then "yes" else "no"

def manifestRow (m : Manifest) : String :=
  row m.id (yesNo m.allowLaunching) (yesNo m.autostart)
    (String.ofList (Text.joinWith [','] (m.pages.keys.map String.toList)))

def manifestTable (manifests : List Manifest) : List String :=
  if manifests.isEmpty then ["No applications found"]
  else row "ID" "ENABLED" "AUTOSTART" "PAGES" :: manifests.map manifestRow

def listApplications (c : Context) (files : FileTree) : Report :=
  match c.settings.applicationsDirectory c.environment with
  | .error e => .failed files (.options e)
  | .ok directory =>
    .after (manifestNotices c files directory) <|
      match files.loadManifests directory with
      | .error e => .failed files (.manifests e)
      | .ok manifests =>
        match machineText? c (.array (manifests.map Manifest.toJson)) with
        | some text => .done files [.plain text]
        | none => .done files ((manifestTable manifests).map .plain)

/-! ### Serving -/

def ServeOptions.settings (o : ServeOptions) (s : Settings) : Settings :=
  { s with
    contract := { s.contract with listen := o.listen.getD s.contract.listen }
    admin := {
      enabled := s.admin.enabled && !o.noAdmin
      listen := o.adminListen.getD s.admin.listen }
    host := { s.host with
      applicationsDirectory := o.applicationsDirectory <|> s.host.applicationsDirectory } }

def versionText : Option Calendar.Instant → String
  | some v => "Some(" ++ v.text ++ ")"
  | none => "None"

def registerAll (c : Context) : List Manifest → Host → List OutputLine × Except RuntimeError Host
  | [], h => ([], .ok h)
  | m :: rest, h =>
    match h.register m with
    | (.error e, _) => ([], .error e)
    | (.ok (), h) =>
      let (said, result) := registerAll c rest h
      (c.say { debug (.host 162) "registered application" with
        fields := [("application_id", m.id)] } ++ said, result)

def launchNotices (c : Context) (id : String) (h : Host) : List OutputLine :=
  match h.running? id with
  | none => []
  | some i =>
    i.pages.list.flatMap (fun p => c.say (debug (.hub 53)
      ("Opened event channel for " ++ id ++ "/" ++ p.id))) ++
    c.say { info (.host 245) "application launched" with
      fields := [("application_id", id), ("version", versionText i.version)] } ++
    c.say (info (.program 300) ("Autostarted application " ++ id))

/-- Launches applications in turn; one that cannot be launched is passed over. -/
def launchAll (c : Context) : List String → Host → List OutputLine × Host
  | [], h => ([], h)
  | id :: rest, h =>
    match h.launch c.surroundings.now id none with
    | (.ok (), h) =>
      let (said, result) := launchAll c rest h
      (launchNotices c id h ++ said, result)
    | (.error e, h) =>
      let (said, result) := launchAll c rest h
      (c.say { severity := .warn, origin := .program 301, message :=
        "Failed to autostart application " ++ id ++ ": " ++ e.message } ++ said, result)

def serve (c : Context) (options : ServeOptions) (files : FileTree) : Report :=
  let settings := options.settings c.settings
  .after (c.say (info (.program 275) "Starting application runtime...")) <|
    match settings.applicationsDirectory c.environment with
    | .error e => .failed files (.options e)
    | .ok directory =>
      .after (c.say (info (.program 294) ("Applications directory: " ++ directory.text)) ++
          manifestNotices c files directory) <|
        match files.loadManifests directory with
        | .error e => .failed files (.manifests e)
        | .ok manifests =>
          let (said, registered) := registerAll c manifests (.new settings.hostOptions)
          .after said <|
            match registered with
            | .error e => .failed files (.runtime e)
            | .ok host =>
              let (said, host) := launchAll c host.autostartApplications host
              .after said <|
                match settings.serverOptions c.environment with
                | .error e => .failed files (.options e)
                | .ok options => { outcome := .serving host options, files }

/-! ### The program -/

namespace Command

def run (c : Context) (files : FileTree) : Command → Report
  | .serve options => CommandLine.serve c options files
  | .init force => setUp c force files
  | .show => showSettings c files
  | .path => showPath c files
  | .reset => CommandLine.reset c files
  | .applications => listApplications c files
  | .completions _ => .done files []

end Command

def Context.load (s : Surroundings) (options : CommonOptions) (files : FileTree) :
    Except CommandError Context := do
  let file ← (Settings.file files s.environment options.config).mapError .settingsPath
  let settings ← (Settings.load files s.environment file).mapError .settings
  return { surroundings := s, options, file, settings }

/-- The paths at which a run looks, as far as the files that are known tell. -/
def looksAt (s : Surroundings) (arguments : List String) (files : FileTree) : List Path :=
  match Invocation.parse arguments with
  | .error _ => []
  | .ok invocation =>
    let asked := (invocation.common.config.bind s.environment.expand?).toList
    let file := (Settings.file files s.environment invocation.common.config).toOption.toList
    let settings := (Context.load s invocation.common files).toOption.map fun c =>
      match invocation.command with
      | .serve options => options.settings c.settings
      | _ => c.settings
    let directory := settings.bind fun t => (t.applicationsDirectory s.environment).toOption
    asked ++ file ++ file.filterMap (·.extendName? Settings.dotToml) ++ directory.toList

def run (s : Surroundings) (arguments : List String) (files : FileTree) : Report :=
  match Invocation.parse arguments with
  | .error .usage => { outcome := .misused, files }
  | .error (.version title) => .done files [.plain (title ++ " " ++ programVersion)]
  | .ok invocation =>
    match Context.load s invocation.common files with
    | .error e => .failed files e
    | .ok c =>
      let said := c.say (debug (.program 33) ("config file: " ++ c.file.text))
      { (invocation.command.run c files).after said with
        complaints := c.complaints
        format := c.format }

end AppHost.CommandLine
