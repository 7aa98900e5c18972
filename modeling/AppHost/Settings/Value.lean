import AppHost.Dictionary
import AppHost.Numeral
import AppHost.Toml.Value

/-!
Values of settings before their meaning is known, and layers of them. A layer puts values at paths,
one after the other. A table is merged into what stands there, anything else replaces it; a path that
leads through something other than a table or a list puts one in its place.
-/

set_option autoImplicit false
namespace AppHost

inductive Setting
  -- Fills a list up to an index that is set.
  | nothing
  | bool (value : Bool)
  | integer (value : Int)
  | float (value : Float)
  | text (value : String)
  | list (items : List Setting)
  | table (entries : List (String × Setting))

inductive SettingStep
  | key (name : String)
  -- An item of a list; one before the first is counted from the end.
  | index (position : Int)
  deriving DecidableEq, Repr

namespace Setting

def entries : Setting → List (String × Setting)
  | .table entries => entries
  | _ => []

def items : Setting → List Setting
  | .list items => items
  | _ => []

def entry (v : Setting) (name : String) : Setting := (Entries.find? name v.entries).getD .nothing

/-- The items with as many added as it takes to have one at an index, and where that one is. -/
def padded (items : List Setting) (position : Int) : List Setting × Nat :=
  let index := if position < 0 then items.length + position else position
  if index < 0 then (List.replicate index.natAbs .nothing ++ items, 0)
  else (items ++ List.replicate (index.toNat + 1 - items.length) .nothing, index.toNat)

def change (f : Setting → Setting) : List SettingStep → Setting → Setting
  | [], v => f v
  | .key name :: rest, v => .table (Entries.insert name (change f rest (v.entry name)) v.entries)
  | .index position :: rest, v =>
    let (items, index) := padded v.items position
    .list (items.modify index (change f rest))

mutual
def overlay (v old : Setting) : Setting :=
  match v with
  | .table entries => .table (overlayEntries entries old.entries)
  | .nothing => .nothing
  | .bool b => .bool b
  | .integer n => .integer n
  | .float x => .float x
  | .text s => .text s
  | .list items => .list items
termination_by structural v
def overlayEntries (entries old : List (String × Setting)) : List (String × Setting) :=
  match entries with
  | [] => old
  | e :: rest => overlayEntries rest (overlayEntry e old)
termination_by structural entries
def overlayEntry (e : String × Setting) (old : List (String × Setting)) : List (String × Setting) :=
  match e with
  | (name, v) => Entries.insert name (v.overlay ((Entries.find? name old).getD .nothing)) old
termination_by structural e
end

mutual
/-- The same document as settings; dates and times are texts. -/
def ofToml : Toml.Value → Setting
  | .string s => .text s
  | .integer n => .integer n
  | .float x => .float x
  | .bool b => .bool b
  | .datetime t => .text t
  | .array items => .list (ofItems items)
  | .table entries => .table (ofEntries entries)
termination_by structural v => v
def ofItems : List Toml.Value → List Setting
  | [] => []
  | v :: rest => ofToml v :: ofItems rest
termination_by structural items => items
def ofEntries : List (String × Toml.Value) → List (String × Setting)
  | [] => []
  | e :: rest => ofEntry e :: ofEntries rest
termination_by structural entries => entries
def ofEntry : String × Toml.Value → String × Setting
  | (k, v) => (k, ofToml v)
termination_by structural e => e
end

end Setting

/-! ### Paths of settings -/

namespace SettingStep

def isKeyChar (c : Char) : Bool := c.isAlphanum || c == '_' || c == '-'

def index? (cs : List Char) : Option (SettingStep × List Char) :=
  match cs.takeWhile (· != ']'), cs.dropWhile (· != ']') with
  | '+' :: _, _ => none
  | written, _ :: rest => (Numeral.integer? written).map fun n => (.index n, rest)
  | _, [] => none

def key? (cs : List Char) : Option (SettingStep × List Char) :=
  match cs.takeWhile isKeyChar with
  | [] => none
  | name => some (.key (String.ofList name), cs.dropWhile isKeyChar)

def more? : Nat → List Char → Option (List SettingStep)
  | _, [] => some []
  | 0, _ => none
  | fuel + 1, c :: rest => do
    let (step, rest) ← if c = '.' then key? rest else if c = '[' then index? rest else none
    return step :: (← more? fuel rest)

/-- Keys with dots between them and indices in brackets; a name that is not of this form is one key
as it stands. -/
def ofName (name : String) : List SettingStep :=
  let steps : Option (List SettingStep) := do
    let (step, rest) ← key? name.toList
    return step :: (← more? rest.length rest)
  steps.getD [.key name]

end SettingStep

/-- Values with the paths at which they stand. -/
abbrev SettingLayer := List (List SettingStep × Setting)

namespace SettingLayer

def put (root : Setting) (e : List SettingStep × Setting) : Setting := root.change e.2.overlay e.1

def overlay (layer : SettingLayer) (root : Setting) : Setting := layer.foldl put root

def ofEntries (entries : List (String × Setting)) : SettingLayer :=
  entries.map fun e => (SettingStep.ofName e.1, e.2)

def insertBySlot (slot : String → Nat) (e : String × Setting) :
    List (String × Setting) → List (String × Setting)
  | [] => [e]
  | f :: rest => if slot e.1 ≤ slot f.1 then e :: f :: rest else f :: insertBySlot slot e rest

/-- The order in which a hash table goes through its entries. -/
def arranged (slot : String → Nat) (entries : List (String × Setting)) : List (String × Setting) :=
  entries.foldr (insertBySlot slot) []

/-- What a source of settings puts, which has its entries in a hash table. Below the top the keys are
no paths, and the order does not matter. -/
def ofTable (slot : String → Nat) (entries : List (String × Setting)) : SettingLayer :=
  ofEntries (arranged slot entries)

end SettingLayer
end AppHost
