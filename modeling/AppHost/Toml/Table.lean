import AppHost.Toml.Value

/-!
Tables while a document is read. A table remembers how it came about: by a header or as a value, on
the way to a table named by a header, or on the way along a dotted key. A header may fill a table
only once, and a dotted key may add only to tables made by dotted keys.
-/

set_option autoImplicit false
namespace AppHost.Toml

inductive Origin
  | stated
  | passed
  | dotted
  deriving DecidableEq, Repr

inductive Node
  | value (v : Value)
  -- A table in braces, open only to dotted keys beside it.
  | braces (origin : Origin) (entries : List (String × Node))
  | table (origin : Origin) (entries : List (String × Node))
  -- Tables that headers in double brackets add one by one.
  | tables (items : List (List (String × Node)))
  | array (items : List Node)

abbrev Nodes := List (String × Node)

namespace Nodes

def put (key : String) (node : Node) : Nodes → Nodes
  | [] => [(key, node)]
  | (k, n) :: rest => if k = key then (k, node) :: rest else (k, n) :: put key node rest

/-- Changes the table at the end of a path of headers or dotted keys, making tables on the way. -/
def within (origin : Origin) (change : Nodes → Option Nodes) : List String → Nodes → Option Nodes
  | [], nodes => change nodes
  | key :: path, nodes => do
    match nodes.lookup key with
    | none =>
      let inner ← within origin change path []
      return nodes.put key (.table origin inner)
    | some (.table found entries) =>
      if origin = .dotted ∧ (found = .stated ∨ (found = .passed ∧ path.isEmpty)) then none
      else
        let inner ← within origin change path entries
        return nodes.put key (.table found inner)
    | some (.tables items) =>
      if origin = .dotted ∧ path.isEmpty then none
      else
        let last ← items.getLast?
        let inner ← within origin change path last
        return nodes.put key (.tables (items.dropLast ++ [inner]))
    | some _ => none

def add (key : String) (node : Node) (nodes : Nodes) : Option Nodes :=
  match nodes.lookup key with
  | some _ => none
  | none => some (nodes ++ [(key, node)])

def assign (path : List String) (key : String) (node : Node) (nodes : Nodes) : Option Nodes :=
  within .dotted (add key node) path nodes

/-- Opens the table that a header names, which may have been passed through but not stated. -/
def openTable (path : List String) (root : Nodes) : Option Nodes := do
  let key ← path.getLast?
  within .passed (fun nodes =>
    match nodes.lookup key with
    | none => some (nodes ++ [(key, .table .stated [])])
    | some (.table .passed entries) => some (nodes.put key (.table .stated entries))
    | some _ => none) path.dropLast root

/-- Opens one more table under the name in a header with double brackets. -/
def openItem (path : List String) (root : Nodes) : Option Nodes := do
  let key ← path.getLast?
  within .passed (fun nodes =>
    match nodes.lookup key with
    | none => some (nodes ++ [(key, .tables [[]])])
    | some (.tables items) => some (nodes.put key (.tables (items ++ [[]])))
    | some _ => none) path.dropLast root

def assignBelow (header path : List String) (key : String) (node : Node) (root : Nodes) :
    Option Nodes :=
  within .passed (assign path key node) header root

def assignInBraces (key : String) (node : Node) : List String → Nodes → Option Nodes
  | [], nodes => nodes.add key node
  | step :: path, nodes => do
    match nodes.lookup step with
    | none =>
      let inner ← assignInBraces key node path []
      return nodes.put step (.braces .dotted inner)
    | some (.braces .dotted entries) =>
      let inner ← assignInBraces key node path entries
      return nodes.put step (.braces .dotted inner)
    | some _ => none

end Nodes

namespace Node

mutual
def toValue : Node → Value
  | .value v => v
  | .braces _ entries => .table (entriesToValues entries)
  | .table _ entries => .table (entriesToValues entries)
  | .tables items => .array (tablesToValues items)
  | .array items => .array (itemsToValues items)
termination_by structural n => n
def entriesToValues : List (String × Node) → List (String × Value)
  | [] => []
  | e :: rest => entryToValue e :: entriesToValues rest
termination_by structural entries => entries
def entryToValue : String × Node → String × Value
  | (k, n) => (k, n.toValue)
termination_by structural e => e
def tablesToValues : List (List (String × Node)) → List Value
  | [] => []
  | entries :: rest => .table (entriesToValues entries) :: tablesToValues rest
termination_by structural items => items
def itemsToValues : List Node → List Value
  | [] => []
  | n :: rest => n.toValue :: itemsToValues rest
termination_by structural items => items
end

end Node
end AppHost.Toml
