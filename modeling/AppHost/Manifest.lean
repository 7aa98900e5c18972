import AppHost.Json.Printer
import AppHost.PageRegistry

/-!
Applications as they are declared: their pages, the methods they answer by rule, and the events of
their pages that they pass on. The JSON form writes every field but an absent version; reading fills
in what is missing and passes over what is unknown.
-/

set_option autoImplicit false
namespace AppHost
open Json (Value)
open Calendar (Instant)

structure PageSpec where
  file : String
  title : String
  deriving DecidableEq, Repr

inductive MethodSpec
  -- Answers with a fixed value.
  | reply (value : Value)
  -- Answers with its arguments.
  | echo
  -- Sends its arguments to every page as an event.
  | emit (event : String)

inductive Target
  | page
  | all
  deriving DecidableEq, Repr

structure ListenerSpec where
  target : Target
  emit : Option String
  deriving DecidableEq, Repr

structure Manifest where
  id : String
  allowLaunching : Bool
  autostart : Bool
  version : Option Instant
  pages : Dictionary PageSpec
  methods : Dictionary MethodSpec
  listeners : Dictionary ListenerSpec

structure Descriptor where
  applicationId : String
  version : Option Instant
  pages : List Page
  deriving DecidableEq

namespace Manifest

def pageList (m : Manifest) : List Page :=
  m.pages.entries.map fun e => ⟨e.1, e.2.file, e.2.title⟩

def descriptor (m : Manifest) : Descriptor := ⟨m.id, m.version, m.pageList⟩

def validateMethod (id : String) : String × MethodSpec → Except RuntimeError Unit
  | (name, .emit event) =>
    if event.isEmpty then
      .error (.invalidArgument ("method " ++ name ++ " of " ++ id ++ " emits an unnamed event"))
    else .ok ()
  | _ => .ok ()

/-- The id, then the pages, then the methods, each in the order of their names. -/
def validate (m : Manifest) : Except RuntimeError Unit := do
  if m.id.isEmpty then throw (.invalidArgument "application id must not be empty")
  m.pageList.forM Page.validate
  m.methods.entries.forM (validateMethod m.id)

/-! ### Writing -/

def versionFields (name : String) (version : Option Instant) : List (String × Value) :=
  match version with
  | some v => [(name, .string v.text)]
  | none => []

end Manifest

namespace PageSpec

def toJson (p : PageSpec) : Value :=
  .object [("file", .string p.file), ("title", .string p.title)]

end PageSpec

namespace MethodSpec

def toJson : MethodSpec → Value
  | .reply value => .object [("kind", .string "reply"), ("value", value)]
  | .echo => .object [("kind", .string "echo")]
  | .emit event => .object [("kind", .string "emit"), ("event", .string event)]

end MethodSpec

def Target.name : Target → String
  | .page => "page"
  | .all => "all"

namespace ListenerSpec

def toJson (l : ListenerSpec) : Value :=
  .object [("target", .string l.target.name),
    ("emit", match l.emit with | some e => .string e | none => .null)]

end ListenerSpec

namespace Manifest

def toJson (m : Manifest) : Value :=
  .object ([("id", .string m.id), ("allow_launching", .bool m.allowLaunching),
      ("autostart", .bool m.autostart)] ++ versionFields "version" m.version ++
    [("pages", .object (m.pages.map fun _ p => p.toJson).entries),
      ("methods", .object (m.methods.map fun _ p => p.toJson).entries),
      ("listeners", .object (m.listeners.map fun _ p => p.toJson).entries)])

end Manifest

/-! ### Reading -/

section
variable {α : Type}

def fieldOr? (fields : List (String × Value)) (name : String) (read : Value → Option α)
    (default : α) : Option α :=
  match fields.lookup name with
  | some v => read v
  | none => some default

def field? (fields : List (String × Value)) (name : String) (read : Value → Option α) : Option α :=
  (fields.lookup name).bind read

def nullable? (read : Value → Option α) : Value → Option (Option α)
  | .null => some none
  | v => (read v).map some

def bool? : Value → Option Bool
  | .bool b => some b
  | _ => none

def dictionary? (read : Value → Option α) : Value → Option (Dictionary α)
  | .object fields => do
    let entries ← fields.mapM fun f => (read f.2).map (f.1, ·)
    return Dictionary.ofList entries
  | _ => none

end

def instant? (v : Value) : Option Instant := do
  match Instant.parse (← v.text?) with
  | .ok t => some t
  | .error _ => none

namespace PageSpec

/-- An object, or an array of file and title. -/
def ofValue? : Value → Option PageSpec
  | .object fields => do
    return ⟨← field? fields "file" Value.text?, ← fieldOr? fields "title" Value.text? ""⟩
  | .array [file] => do return ⟨← file.text?, ""⟩
  | .array (file :: title :: _) => do return ⟨← file.text?, ← title.text?⟩
  | _ => none

end PageSpec

namespace MethodSpec

mutual
def finite : Value → Value
  | .number (.float x) => if x.isFinite then .number (.float x) else .null
  | .array items => .array (finiteItems items)
  | .object fields => .object (finiteFields fields)
  | .null => .null
  | .bool b => .bool b
  | .string s => .string s
  | .number (.int n) => .number (.int n)
termination_by structural v => v
def finiteItems : List Value → List Value
  | [] => []
  | v :: rest => finite v :: finiteItems rest
termination_by structural items => items
def finiteFields : List (String × Value) → List (String × Value)
  | [] => []
  | f :: rest => finiteField f :: finiteFields rest
termination_by structural fields => fields
def finiteField : String × Value → String × Value
  | (k, v) => (k, finite v)
termination_by structural field => field
end

/-- An object whose `kind` says which other field is wanted, or an array that starts with the kind
and holds exactly what is wanted. -/
def ofValue? : Value → Option MethodSpec
  | .object fields => do
    match ← field? fields "kind" Value.text? with
    | "reply" => return .reply (finite (← fields.lookup "value"))
    | "echo" => return .echo
    | "emit" => return .emit (← field? fields "event" Value.text?)
    | _ => none
  | .array (kind :: rest) => do
    match ← kind.text?, rest with
    | "reply", [value] => return .reply (finite value)
    | "echo", [] => return .echo
    | "emit", [event] => return .emit (← event.text?)
    | _, _ => none
  | _ => none

end MethodSpec

namespace Target

def ofName? (name : String) : Option Target :=
  if name = "page" then some .page else if name = "all" then some .all else none

def isNothing : Value → Bool
  | .null => true
  | .array items => items.isEmpty
  | .object fields => fields.isEmpty
  | _ => false

/-- A name, or an object with the name as its only key and nothing under it. -/
def ofValue? : Value → Option Target
  | .string name => ofName? name
  | .object [(name, v)] => if isNothing v then ofName? name else none
  | _ => none

end Target

namespace ListenerSpec

def ofValue? : Value → Option ListenerSpec
  | .object fields => do
    return ⟨← fieldOr? fields "target" Target.ofValue? .page,
      ← fieldOr? fields "emit" (nullable? Value.text?) none⟩
  | .array [] => some ⟨.page, none⟩
  | .array [target] => do return ⟨← Target.ofValue? target, none⟩
  | .array (target :: emit :: _) => do
    return ⟨← Target.ofValue? target, ← nullable? Value.text? emit⟩
  | _ => none

end ListenerSpec

namespace Manifest

def ofValue? : Value → Option Manifest
  | .object fields => do
    return {
      id := ← field? fields "id" Value.text?
      allowLaunching := ← fieldOr? fields "allow_launching" bool? true
      autostart := ← fieldOr? fields "autostart" bool? false
      version := ← fieldOr? fields "version" (nullable? instant?) none
      pages := ← fieldOr? fields "pages" (dictionary? PageSpec.ofValue?) .empty
      methods := ← fieldOr? fields "methods" (dictionary? MethodSpec.ofValue?) .empty
      listeners := ← fieldOr? fields "listeners" (dictionary? ListenerSpec.ofValue?) .empty }
  | _ => none

end Manifest
end AppHost
