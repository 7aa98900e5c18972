import AppHost.Decimal
import AppHost.Json.Value

/-!
JSON text of a value: the compact form, and the form with one entry a line. A number that is not
finite has no JSON form and is written as null.
-/

set_option autoImplicit false
namespace AppHost.Json

def escapedChar (c : Char) : List Char :=
  if c = '"' then ['\\', '"']
  else if c = '\\' then ['\\', '\\']
  else if c = '\x08' then ['\\', 'b']
  else if c = '\t' then ['\\', 't']
  else if c = '\n' then ['\\', 'n']
  else if c = '\x0c' then ['\\', 'f']
  else if c = '\r' then ['\\', 'r']
  else if c.toNat < 0x20 then
    ['\\', 'u', '0', '0', Nat.digitChar (c.toNat / 16), Nat.digitChar (c.toNat % 16)]
  else [c]

def stringChars (s : String) : List Char := '"' :: (s.toList.flatMap escapedChar ++ ['"'])

def exponentChars (e : Int) : List Char :=
  (if e < 0 then '-' else '+') :: Decimal.digitChars e.natAbs

/-- Positional while the leading digit stands between the fifth place and the sixteenth digit. -/
def decimalChars (c : Decimal) : List Char :=
  if -5 ≤ c.leading ∧ c.leading ≤ 15 then c.positional ['.', '0'] else c.scientific exponentChars

def floatChars? (x : Float) : Option (List Char) :=
  match Real64.ofFloat x with
  | .nan => none
  | .infinite _ => none
  | .zero negative => some (signChars negative ++ ['0', '.', '0'])
  | .finite negative c => some (signChars negative ++ decimalChars c)

def intChars (n : Int) : List Char := signChars (decide (n < 0)) ++ Nat.toDigits 10 n.natAbs

def nullChars : List Char := ['n', 'u', 'l', 'l']

def Number.chars : Number → List Char
  | .int n => intChars n
  | .float x => (floatChars? x).getD nullChars

def boolChars : Bool → List Char
  | true => ['t', 'r', 'u', 'e']
  | false => ['f', 'a', 'l', 's', 'e']

namespace Value

mutual
def chars : Value → List Char
  | .null => nullChars
  | .bool b => boolChars b
  | .number n => n.chars
  | .string s => stringChars s
  | .array items => '[' :: itemsChars items
  | .object fields => '\x7b' :: fieldsChars fields
termination_by structural v => v
def itemsChars : List Value → List Char
  | [] => [']']
  | v :: rest => v.chars ++ moreItemsChars rest
termination_by structural items => items
def moreItemsChars : List Value → List Char
  | [] => [']']
  | v :: rest => ',' :: (v.chars ++ moreItemsChars rest)
termination_by structural items => items
def fieldsChars : List (String × Value) → List Char
  | [] => ['\x7d']
  | f :: rest => stringChars f.1 ++ ':' :: (fieldChars f ++ moreFieldsChars rest)
termination_by structural fields => fields
def moreFieldsChars : List (String × Value) → List Char
  | [] => ['\x7d']
  | f :: rest => ',' :: (stringChars f.1 ++ ':' :: (fieldChars f ++ moreFieldsChars rest))
termination_by structural fields => fields
def fieldChars : String × Value → List Char
  | (_, v) => v.chars
termination_by structural field => field
end

def text (v : Value) : String := String.ofList v.chars

def indent (n : Nat) : List Char := '\n' :: List.replicate (2 * n) ' '

mutual
def prettyChars (v : Value) (level : Nat) : List Char :=
  match v with
  | .array [] => ['[', ']']
  | .object [] => ['\x7b', '\x7d']
  | .array (v :: rest) => '[' :: prettyItems (v :: rest) level ++ indent level ++ [']']
  | .object (f :: rest) => '\x7b' :: prettyFields (f :: rest) level ++ indent level ++ ['\x7d']
  | .null => nullChars
  | .bool b => boolChars b
  | .number n => n.chars
  | .string s => stringChars s
termination_by structural v
def prettyItems (items : List Value) (level : Nat) : List Char :=
  match items with
  | [] => []
  | v :: rest =>
    indent (level + 1) ++ v.prettyChars (level + 1) ++
      (if rest.isEmpty then [] else [',']) ++ prettyItems rest level
termination_by structural items
def prettyFields (fields : List (String × Value)) (level : Nat) : List Char :=
  match fields with
  | [] => []
  | f :: rest =>
    indent (level + 1) ++ stringChars f.1 ++ [':', ' '] ++ prettyField f level ++
      (if rest.isEmpty then [] else [',']) ++ prettyFields rest level
termination_by structural fields
def prettyField (field : String × Value) (level : Nat) : List Char :=
  match field with
  | (_, v) => v.prettyChars (level + 1)
termination_by structural field
end

def pretty (v : Value) : String := String.ofList (v.prettyChars 0)

end Value
end AppHost.Json
