import AppHost.Dictionary
import AppHost.Identity
import AppHost.Path
import AppHost.Text.Alphanumeric

/-!
What a run of the program finds: variables, the directories that they name, and paths that refer to
them. In a path a dollar sign refers to a variable, by its name or by a name in braces, after which a
text for an unset variable may follow; a tilde in front stands for the home directory.
-/

set_option autoImplicit false
namespace AppHost

structure Environment where
  «variables» : Dictionary String
  -- The home directory of the account, for when no variable names one.
  accountHome : Path
  -- Where hash tables have a key, which is another place in each run.
  slot : String → Nat := fun _ => 0

namespace Environment

def find? (e : Environment) (name : String) : Option String := e.«variables».find? name

/-- The path in a variable; an empty one counts as unset. -/
def path? (e : Environment) (name : String) : Option Path :=
  (e.find? name).bind fun text => if text.isEmpty then none else some ⟨text⟩

def home (e : Environment) : Path := (e.path? "HOME").getD e.accountHome

def configDirectory (e : Environment) : Path :=
  ((e.path? "XDG_CONFIG_HOME").getD (e.home.join ⟨".config"⟩)).join ⟨programName⟩

def dataDirectory (e : Environment) : Path :=
  ((e.path? "XDG_DATA_HOME").getD ((e.home.join ⟨".local"⟩).join ⟨"share"⟩)).join ⟨programName⟩

end Environment

/-! ### References -/

inductive PathPiece
  | plain (text : List Char)
  | reference (name : List Char) (whenUnset : Option (List Char))
  deriving DecidableEq, Repr

namespace PathPiece

def splitDefault : List Char → List Char × Option (List Char)
  | [] => ([], none)
  | ':' :: '-' :: rest => ([], some rest)
  | c :: rest =>
    let (name, whenUnset) := splitDefault rest
    (c :: name, whenUnset)

/-- What stands between braces: a name, and behind it the text for when it is unset. A text without
a name before it is part of the name. -/
def inBraces (inner : List Char) : PathPiece :=
  let (name, whenUnset) := splitDefault inner
  if name.isEmpty then .reference inner none else .reference name whenUnset

def isNameChar (c : Char) : Bool := Text.isAlphanumeric c || c == '_'

/-- Takes a path apart. Two dollar signs stand for one; a dollar sign that refers to nothing and a
brace that is not closed stand for themselves. -/
def ofChars : List Char → List PathPiece
  | [] => []
  | '$' :: '\x7b' :: rest =>
    if rest.contains '\x7d' then
      inBraces (rest.takeWhile (· != '\x7d')) :: ofChars ((rest.dropWhile (· != '\x7d')).drop 1)
    else .plain ['$', '\x7b'] :: ofChars rest
  | '$' :: '$' :: rest => .plain ['$'] :: ofChars rest
  | '$' :: c :: rest =>
    if isNameChar c then
      .reference (c :: rest.takeWhile isNameChar) none :: ofChars (rest.dropWhile isNameChar)
    else .plain ['$'] :: ofChars (c :: rest)
  | c :: rest => .plain [c] :: ofChars rest
termination_by cs => cs.length
decreasing_by
  all_goals simp_wf
  all_goals
    have brace := (List.dropWhile_sublist (l := rest) (fun c => c != '\x7d')).length_le
    have name := (List.dropWhile_sublist (l := rest) isNameChar).length_le
    omega

def value? (e : Environment) : PathPiece → Option (List Char)
  | .plain text => some text
  | .reference name whenUnset =>
    ((e.find? (String.ofList name)).map String.toList).orElse fun _ => whenUnset

end PathPiece

namespace Environment

/-- A tilde in front, alone or before a slash, becomes the home directory. -/
def expandTilde (e : Environment) (text : List Char) : List Char :=
  match text with
  | ['~'] => e.home.text.toList
  | '~' :: '/' :: rest => e.home.text.toList ++ '/' :: rest
  | text => text

/-- Replaces the references of a path, and then a tilde that was written in front of it; a tilde out
of a variable stays. There is no result when a variable is unset. -/
def expand? (e : Environment) (text : String) : Option Path := do
  let pieces ← (PathPiece.ofChars text.toList).mapM (PathPiece.value? e)
  let expanded := pieces.flatten
  return ⟨String.ofList (if text.toList.head? == some '~' then e.expandTilde expanded else expanded)⟩

end Environment
end AppHost
