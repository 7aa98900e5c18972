import AppHost.Toml.Number
import AppHost.Toml.Table

/-!
Reading TOML 1.0. Main entry: `parse?`, which gives the document's top table. What is wrong with a
document that cannot be read is not told.
-/

set_option autoImplicit false
namespace AppHost.Toml

def skipInArray : Nat → List Char → List Char
  | 0, cs => cs
  | fuel + 1, cs =>
    match skipSpace cs with
    | '#' :: rest =>
      match newline? (skipComment ('#' :: rest)) with
      | some rest => skipInArray fuel rest
      | none => '#' :: rest
    | rest =>
      match newline? rest with
      | some rest => skipInArray fuel rest
      | none => rest

def numeric? (cs : List Char) : Option (Value × List Char) :=
  match datetime? cs with
  | some (t, rest) => some (.datetime t, rest)
  | none =>
    match float? cs with
    | some (x, rest) => some (.float x, rest)
    | none => (integer? cs).map fun (n, rest) => (.integer n, rest)

def plainValue? (cs : List Char) : Option (Value × List Char) :=
  match cs with
  | [] => none
  | c :: _ =>
    if c = '"' ∨ c = '\'' then (string? cs).map fun (s, rest) => (.string s, rest)
    else if c.isDigit ∨ c = '+' ∨ c = '-' then numeric? cs
    else
      match cs with
      | 't' :: 'r' :: 'u' :: 'e' :: rest => some (.bool true, rest)
      | 'f' :: 'a' :: 'l' :: 's' :: 'e' :: rest => some (.bool false, rest)
      | cs => (specialFloat? cs).map fun (x, rest) => (.float x, rest)

mutual
def value? : Nat → Nat → List Char → Option (Node × List Char)
  | 0, _, _ => none
  | fuel + 1, levels, cs =>
    match cs with
    | '[' :: rest =>
      if levels ≤ 1 then none
      else do
        let (items, rest) ← items? fuel (levels - 1) rest
        return (.array items, rest)
    | '\x7b' :: rest =>
      if levels ≤ 1 then none
      else
        match skipSpace rest with
        | '\x7d' :: rest => some (.braces .stated [], rest)
        | rest => do
          let (entries, rest) ← entries? fuel (levels - 1) rest []
          return (.braces .stated entries, rest)
    | cs => (plainValue? cs).map fun (v, rest) => (.value v, rest)
/-- The items up to the closing bracket; a comma may stand after the last one. -/
def items? : Nat → Nat → List Char → Option (List Node × List Char)
  | 0, _, _ => none
  | fuel + 1, levels, cs =>
    match skipInArray cs.length cs with
    | ']' :: rest => some ([], rest)
    | cs => do
      let (n, rest) ← value? fuel levels cs
      match skipInArray rest.length rest with
      | ',' :: rest => do
        let (more, rest) ← items? fuel levels rest
        return (n :: more, rest)
      | ']' :: rest => return ([n], rest)
      | _ => none
def entries? : Nat → Nat → List Char → Nodes → Option (Nodes × List Char)
  | 0, _, _, _ => none
  | fuel + 1, levels, cs, nodes => do
    let (path, rest) ← key? cs
    let key ← path.getLast?
    let rest ← mark? '=' rest
    let (n, rest) ← value? fuel levels (skipSpace rest)
    let nodes ← Nodes.assignInBraces key n path.dropLast nodes
    match skipSpace rest with
    | ',' :: rest => entries? fuel levels rest nodes
    | '\x7d' :: rest => return (nodes, rest)
    | _ => none
end

def statement? (cs : List Char) (header : List String) (root : Nodes) :
    Option ((List String × Nodes) × List Char) :=
  match cs with
  | '[' :: '[' :: rest => do
    let (path, rest) ← key? rest
    let rest ← mark? ']' rest
    let rest ← mark? ']' rest
    return ((path, ← Nodes.openItem path root), ← lineRest? rest)
  | '[' :: rest => do
    let (path, rest) ← key? rest
    let rest ← mark? ']' rest
    return ((path, ← Nodes.openTable path root), ← lineRest? rest)
  | cs => do
    let (path, rest) ← key? cs
    let key ← path.getLast?
    let rest ← mark? '=' rest
    let rest := skipSpace rest
    let (n, rest) ← value? (2 * rest.length + 2) depthLimit rest
    return ((header, ← Nodes.assignBelow header path.dropLast key n root), ← lineRest? rest)

def statements? : Nat → List Char → List String → Nodes → Option Nodes
  | 0, _, _, _ => none
  | fuel + 1, cs, header, root =>
    match skipSpace cs with
    | [] => some root
    | '#' :: rest => do statements? fuel (← lineEnd? (skipComment ('#' :: rest))) header root
    | cs =>
      match newline? cs with
      | some rest => statements? fuel rest header root
      | none => do
        let ((header, root), rest) ← statement? cs header root
        statements? fuel rest header root

def parse? (text : String) : Option Value := do
  let cs :=
    match text.toList with
    | '\uFEFF' :: rest => rest
    | cs => cs
  let root ← statements? (cs.length + 1) cs [] []
  return .table (Node.entriesToValues root)

end AppHost.Toml
