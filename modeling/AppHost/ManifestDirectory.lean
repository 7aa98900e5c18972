import AppHost.FileTree
import AppHost.ManifestFile

/-! The manifests in a directory: its files with the extension of TOML, in the order of their
names, whatever order they are listed in. One that cannot be taken refuses all of them; a directory
that is missing holds none. -/

set_option autoImplicit false
namespace AppHost

inductive ManifestDirectoryError
  | notADirectory (directory : Path)
  | unreadable (file : Path)
  | refused (file : Path) (reason : ManifestError)
  deriving DecidableEq, Repr

def ManifestDirectoryError.message : ManifestDirectoryError → String
  | .notADirectory directory => "reading applications directory " ++ directory.quoted
  | .unreadable file => "reading manifest " ++ file.quoted
  | .refused file _ => "loading manifest " ++ file.quoted

namespace FileTree

def isManifestFile (file : Path) : Bool := file.extension? == some ['t', 'o', 'm', 'l']

def manifestsAmong (directory : Path) (names : List String) : List Path :=
  ((names.map fun name => directory.join ⟨name⟩).filter isManifestFile).mergeSort Path.notAfter

def manifestFiles (t : FileTree) (directory : Path) : Except ManifestDirectoryError (List Path) :=
  if t.contains directory then
    match t.list? directory with
    | some names => .ok (manifestsAmong directory names)
    | none => .error (.notADirectory directory)
  else .ok []

def loadManifest (t : FileTree) (file : Path) : Except ManifestDirectoryError Manifest :=
  match t.readText? file with
  | none => .error (.unreadable file)
  | some text => (Manifest.ofToml text).mapError (.refused file)

def loadManifests (t : FileTree) (directory : Path) :
    Except ManifestDirectoryError (List Manifest) := do
  (← t.manifestFiles directory).mapM t.loadManifest

end FileTree
end AppHost
