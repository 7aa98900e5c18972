import AppHost.Dictionary
import AppHost.Path
import AppHost.Text.Utf8

/-!
A tree of directories and files, and what can be done with it by path. Places are named by their
location: the names from the root down, each after a slash, so that the root's location is empty.
-/

set_option autoImplicit false
namespace AppHost

inductive FileNode
  | directory
  | file (bytes : List UInt8)
  deriving DecidableEq, Repr

structure FileTree where
  -- What stands at each location but the root's, which is a directory.
  nodes : Dictionary FileNode
  -- The location of the directory from which relative paths start.
  current : String
  -- How many bytes there is room for in a file, if the disk can be full.
  room : Option Nat

inductive Place
  | occupied (location : String) (node : FileNode)
  -- Nothing stands there, but the directory is there that would hold it.
  | vacant (location : String)
  | unreachable
  deriving DecidableEq, Repr

namespace FileTree

def empty : FileTree := ⟨.empty, "", none⟩

def maxNameLength : Nat := 255

def within (location : String) (name : List Char) : String := location ++ "/" ++ String.ofList name

/-- The location of the directory that holds a location; the root holds itself. -/
def above (location : String) : String :=
  String.ofList ((location.toList.reverse.dropWhile (· != '/')).drop 1).reverse

def walk (t : FileTree) (here : String) : List (List Char) → Place
  | [] => .occupied here .directory
  | part :: rest =>
    if part.isEmpty || part == ['.'] then t.walk here rest
    else if part == ['.', '.'] then t.walk (above here) rest
    else if maxNameLength < Text.utf8Length part then .unreachable
    else
      match t.nodes.find? (within here part) with
      | some .directory => t.walk (within here part) rest
      | some (.file bytes) =>
        if rest.isEmpty then .occupied (within here part) (.file bytes) else .unreachable
      | none => if rest.isEmpty then .vacant (within here part) else .unreachable

def start (t : FileTree) (p : Path) : String := if p.isAbsolute then "" else t.current

/-- A path that can lead somewhere has text, and no NUL in it. -/
def usable (p : Path) : Bool := !p.text.isEmpty && !p.text.toList.contains '\x00'

def place (t : FileTree) (p : Path) : Place :=
  if usable p then t.walk (t.start p) p.parts else .unreachable

def node? (t : FileTree) (p : Path) : Option FileNode :=
  match t.place p with
  | .occupied _ node => some node
  | _ => none

def contains (t : FileTree) (p : Path) : Bool := (t.node? p).isSome

def isDirectory (t : FileTree) (p : Path) : Bool := t.node? p == some .directory

def read? (t : FileTree) (p : Path) : Option (List UInt8) :=
  match t.node? p with
  | some (.file bytes) => some bytes
  | _ => none

def readText? (t : FileTree) (p : Path) : Option String := (t.read? p).bind Text.decodeUtf8?

def isEntryName (name : List Char) : Bool :=
  !name.isEmpty && Path.isName name && !name.contains '/'

def nameWithin? (directory location : String) : Option String :=
  match (directory ++ "/").toList.isPrefixOf? location.toList with
  | some name => if isEntryName name then some (String.ofList name) else none
  | none => none

/-- The names in a directory. They are text, so a name that is not has no place in a tree; and what
stands in a directory can always be listed. -/
def list? (t : FileTree) (p : Path) : Option (List String) :=
  match t.place p with
  | .occupied location .directory => some (t.nodes.keys.filterMap (nameWithin? location))
  | _ => none

def put (t : FileTree) (location : String) (node : FileNode) : FileTree :=
  { t with nodes := t.nodes.insert location node }

def fits (t : FileTree) (bytes : List UInt8) : Bool := t.room.all (bytes.length ≤ ·)

/-- Gives a file new content, and tells whether all of it was written. What the file held is gone
before the first byte is written, and a disk that is full by then keeps what there was room for. -/
def fill (t : FileTree) (location : String) (bytes : List UInt8) : Bool × FileTree :=
  (t.fits bytes, t.put location (.file (bytes.take (t.room.getD bytes.length))))

def write (t : FileTree) (p : Path) (bytes : List UInt8) : Bool × FileTree :=
  match t.place p with
  | .occupied _ .directory => (false, t)
  | .occupied location (.file _) => t.fill location bytes
  | .vacant location => t.fill location bytes
  | .unreachable => (false, t)

/-- Follows the parts of a path and creates the directories that are missing, until something stands
in the way. -/
def createWalk (t : FileTree) (here : String) : List (List Char) → Bool × FileTree
  | [] => (true, t)
  | part :: rest =>
    if part.isEmpty || part == ['.'] then t.createWalk here rest
    else if part == ['.', '.'] then t.createWalk (above here) rest
    else if maxNameLength < Text.utf8Length part then (false, t)
    else
      match t.nodes.find? (within here part) with
      | some .directory => t.createWalk (within here part) rest
      | some (.file _) => (false, t)
      | none => (t.put (within here part) .directory).createWalk (within here part) rest

/-- Creates a directory and all that hold it, as far as that can be done. The empty path asks for
nothing. -/
def createDirectories (t : FileTree) (p : Path) : Bool × FileTree :=
  if p.text.isEmpty then (true, t)
  else if usable p then t.createWalk (t.start p) p.parts
  else (false, t)

/-- What stands in a tree that did not stand so in an earlier one; nothing is ever removed. -/
def changesFrom (t earlier : FileTree) : List (String × FileNode) :=
  t.nodes.entries.filter fun e => earlier.nodes.find? e.1 != some e.2

end FileTree
end AppHost
