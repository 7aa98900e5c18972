import AppHost.Text.Quoted
import AppHost.Text.Split
import AppHost.Text.Utf8

/-!
Paths as they are written. Everything here looks at the text alone; what a path leads to is a matter
of the file tree.
-/

set_option autoImplicit false
namespace AppHost

structure Path where
  text : String
  deriving DecidableEq, Repr

namespace Path

def isAbsolute (p : Path) : Bool := p.text.toList.head? == some '/'

def join (base more : Path) : Path :=
  if more.isAbsolute || base.text.isEmpty then more
  else if base.text.toList.getLast? == some '/' then ⟨base.text ++ more.text⟩
  else ⟨base.text ++ "/" ++ more.text⟩

/-- What stands between the slashes, after the one that makes a path absolute. -/
def parts (p : Path) : List (List Char) :=
  Text.splitOn '/' (if p.isAbsolute then p.text.toList.drop 1 else p.text.toList)

def partsUtf8 (p : Path) : List (List UInt8) :=
  p.parts.map fun part => Text.encodeUtf8 (String.ofList part)

/-- The order of paths that start alike: part by part, and parts by their bytes. -/
def notAfter (p q : Path) : Bool := p.partsUtf8 ≤ q.partsUtf8

def ofParts (absolute : Bool) (parts : List (List Char)) : Path :=
  ⟨String.ofList ((if absolute then ['/'] else []) ++ Text.joinWith ['/'] parts)⟩

/-- Parts from the last to the first, without the idle ones at the end: those that are empty, and a
single dot unless a relative path starts with it. -/
def withoutIdle (absolute : Bool) : List (List Char) → List (List Char)
  | [] => []
  | part :: rest =>
    if part.isEmpty || (part == ['.'] && (absolute || !rest.isEmpty)) then withoutIdle absolute rest
    else part :: rest

/-- The path of the directory that holds what a path names; the root and the empty path have none. -/
def parent? (p : Path) : Option Path :=
  match withoutIdle p.isAbsolute p.parts.reverse with
  | [] => none
  | _ :: rest => some (ofParts p.isAbsolute (withoutIdle p.isAbsolute rest).reverse)

def isName (part : List Char) : Bool := part != ['.'] && part != ['.', '.']

def fileName? (p : Path) : Option (List Char) :=
  (withoutIdle p.isAbsolute p.parts.reverse).head?.filter isName

/-- What follows the last dot of the file name, if the name does not start with that dot. -/
def extension? (p : Path) : Option (List Char) := do
  let name ← p.fileName?
  let stem := (name.reverse.dropWhile (· != '.')).drop 1
  if stem.isEmpty then none else some (name.reverse.takeWhile (· != '.')).reverse

def extendName? (p : Path) (ending : List Char) : Option Path :=
  match withoutIdle p.isAbsolute p.parts.reverse with
  | name :: rest =>
    if isName name then some (ofParts p.isAbsolute ((name ++ ending) :: rest).reverse) else none
  | [] => none

def quotedChar (c : Char) : List Char := if c = '\'' then ['\\', '\''] else Text.quotedChar c

def quoted (p : Path) : String :=
  String.ofList ('"' :: p.text.toList.flatMap quotedChar ++ ['"'])

end Path
end AppHost
