import AppHost.CommandLine.Command
import Std.Time.DateTime.Timestamp

/-!
The program on a real system. It takes in the part of the disk at which a command looks, runs the
command on that, and writes out what has changed. Serving requests over a network is not part of it.
-/

set_option autoImplicit false
namespace AppHost.Main

/-! ### Surroundings -/

def readInstant : IO Calendar.Instant := do
  let t ← Std.Time.Timestamp.now
  let nanos := t.toNanosecondsSinceUnixEpoch.toInt
  return (Calendar.Instant.of? (nanos / 1000000000) (nanos % 1000000000).toNat).getD
    ⟨0, 0, by decide⟩

def readVariables : IO (Dictionary String) := do
  let written ← IO.FS.readBinFile "/proc/self/environ"
  let all := Text.splitOn '\x00' (Text.decodeLossy written.toList)
  return Dictionary.ofList (all.filterMap fun v =>
    match v.dropWhile (· != '=') with
    | _ :: value => some (String.ofList (v.takeWhile (· != '=')), String.ofList value)
    | [] => none)

def readSurroundings : IO CommandLine.Surroundings := do
  return {
    environment := { «variables» := ← readVariables, accountHome := ⟨"/"⟩ }
    terminal := ← (← IO.getStderr).isTty
    now := { date := ← readInstant, elapsed := ← IO.monoNanosNow } }

/-! ### Files -/

def takeInNode (files : FileTree) (p : Path) : IO FileTree := do
  let place := (← IO.currentDir) / p.text
  if ← place.isDir then return (files.createDirectories p).2
  if ← place.pathExists then
    return (files.write p (← IO.FS.readBinFile place).toList).2
  return files

/-- What stands at a path of the disk, with the directories above it and what it holds itself. -/
def takeIn (files : FileTree) (p : Path) : IO FileTree := do
  let parts := p.parts
  let mut files := files
  for n in [0 : parts.length + 1] do
    let above := Path.ofParts p.isAbsolute (parts.take n)
    unless above.text.isEmpty do files ← takeInNode files above
  let place := (← IO.currentDir) / p.text
  if ← place.isDir then
    for entry in ← place.readDir do files ← takeInNode files (p.join ⟨entry.fileName⟩)
  return files

def startingTree : IO FileTree := do
  let here := (← IO.currentDir).toString
  return { ((FileTree.empty).createDirectories ⟨here⟩).2 with
    current := if here = "/" then "" else here }

/-- Looks at the disk again until it is known where the manifests are. -/
def takeInAll (s : CommandLine.Surroundings) (arguments : List String) : IO FileTree := do
  let mut files ← startingTree
  for _ in [0 : 3] do
    for p in CommandLine.looksAt s arguments files do files ← takeIn files p
  return files

def writeOut (change : String × FileNode) : IO Unit :=
  match change.2 with
  | .directory => IO.FS.createDirAll change.1
  | .file bytes => IO.FS.writeBinFile change.1 ⟨bytes.toArray⟩

end AppHost.Main

open AppHost AppHost.Main in
def main (arguments : List String) : IO UInt32 := do
  let surroundings ← readSurroundings
  let files ← takeInAll surroundings arguments
  let report := CommandLine.run surroundings arguments files
  for change in report.files.changesFrom files do writeOut change
  for line in report.output do
    IO.println (line.text report.format (← readInstant).text)
  for line in report.errors do IO.eprintln line
  match report.outcome with
  | .misused => IO.eprintln "usage: apprunner [OPTIONS] COMMAND"
  | .serving _ _ => IO.eprintln "serving over a network is not available"
  | _ => pure ()
  return UInt32.ofNat report.outcome.exitCode
