import AppHost.FileTree
import AppHost.Settings.Reading
import AppHost.Text.Lossy
import AppHost.Toml.Reader

/-!
Loading the settings: the defaults, over them the settings file, over that the variables. A file that
is missing gives nothing.
-/

set_option autoImplicit false
namespace AppHost

inductive SettingsError
  | unreadable (file : Path)
  -- Some value is not of the kind that its place asks for.
  | unsuitable
  deriving DecidableEq, Repr

def SettingsError.message : SettingsError → String
  | .unreadable file => "loading configuration from " ++ file.text
  | .unsuitable => "deserializing configuration"

namespace Settings

/-- The layer below all others. The settings that are none by default are not in it. -/
def defaultLayer : SettingLayer :=
  .ofEntries [
    ("logging.level", .text "info"),
    ("grpc.listen", .text "127.0.0.1:9190"),
    ("admin.enabled", .bool true),
    ("admin.listen", .text "127.0.0.1:9191"),
    ("runtime.heartbeat_interval_ms", .integer 5000),
    ("runtime.event_buffer", .integer Hub.defaultBuffer),
    ("runtime.log_retention_secs", .integer (HostOptions.defaultRetention / 1000000000 : Nat))]

def dotToml : List Char := ['.', 't', 'o', 'm', 'l']

/-- The file's content, or that of the file whose name is longer by the extension of TOML. -/
def fileContent? (t : FileTree) (file : Path) : Option (List UInt8) :=
  (t.read? file).orElse fun _ => (file.extendName? dotToml).bind t.read?

/-- Bytes that are not UTF-8 are replaced, and a mark of the byte order in front is passed over. -/
def documentText (bytes : List UInt8) : String :=
  String.ofList <| Text.decodeLossy <| match bytes with
    | 0xEF :: 0xBB :: 0xBF :: rest => rest
    | bytes => bytes

def documentEntries? (text : String) : Option (List (String × Setting)) :=
  (Toml.parse? text).map fun v => (Setting.ofToml v).entries

def fileEntries (t : FileTree) (file : Path) : Except SettingsError (List (String × Setting)) :=
  match fileContent? t file with
  | none => .ok []
  | some bytes =>
    match documentEntries? (documentText bytes) with
    | some entries => .ok entries
    | none => .error (.unreadable file)

def combined (file environment : SettingLayer) : Setting :=
  environment.overlay (file.overlay (defaultLayer.overlay (.table [])))

def load (t : FileTree) (e : Environment) (file : Path) : Except SettingsError Settings := do
  let entries ← fileEntries t file
  match ofSetting? (combined (.ofTable e.slot entries) (.ofEnvironment e)) with
  | some s => return s
  | none => throw .unsuitable

end Settings
end AppHost
