import AppHost.Dictionary
import AppHost.Power

/-!
JSON values. An object is the list of its entries, as they come in a text or in ascending key order,
each key once (`Value.Canonical`); `Value.sorted` brings the first into the second.
-/

set_option autoImplicit false
namespace AppHost.Json

inductive Number
  | int (value : Int)
  | float (value : Float)

/-- The whole numbers that are kept exactly: those of 64 bits, signed or unsigned. -/
def Fits (n : Int) : Prop := -(2 ^ 63) ≤ n ∧ n < 2 ^ 64

instance (n : Int) : Decidable (Fits n) := inferInstanceAs (Decidable (_ ∧ _))

inductive Value
  | null
  | bool (value : Bool)
  | number (value : Number)
  | string (value : String)
  | array (items : List Value)
  | object (fields : List (String × Value))

namespace Value

def int (n : Int) : Value := .number (.int n)

def nat (n : Nat) : Value := .number (.int n)

def strings (items : List String) : Value := .array (items.map .string)

/-- Entries in key order, a later one replacing an earlier one of the same key. -/
def arrange (fields : List (String × Value)) : List (String × Value) :=
  fields.foldl (fun entries f => Entries.insert f.1 f.2 entries) []

def ofFields (fields : List (String × Value)) : Value := .object (arrange fields)

mutual
def sorted : Value → Value
  | .null => .null
  | .bool b => .bool b
  | .number n => .number n
  | .string s => .string s
  | .array items => .array (sortedItems items)
  | .object fields => .object (arrange (sortedFields fields))
termination_by structural v => v
def sortedItems : List Value → List Value
  | [] => []
  | v :: rest => v.sorted :: sortedItems rest
termination_by structural items => items
def sortedFields : List (String × Value) → List (String × Value)
  | [] => []
  | f :: rest => sortedField f :: sortedFields rest
termination_by structural fields => fields
def sortedField : String × Value → String × Value
  | (k, v) => (k, v.sorted)
termination_by structural field => field
end

def field? (key : String) : Value → Option Value
  | .object fields => Entries.find? key fields
  | _ => none

def text? : Value → Option String
  | .string s => some s
  | _ => none

mutual
def Canonical : Value → Prop
  | .array items => CanonicalItems items
  | .object fields => Entries.Ascending fields ∧ CanonicalFields fields
  | _ => True
def CanonicalItems : List Value → Prop
  | [] => True
  | v :: rest => v.Canonical ∧ CanonicalItems rest
def CanonicalFields : List (String × Value) → Prop
  | [] => True
  | f :: rest => CanonicalField f ∧ CanonicalFields rest
def CanonicalField : String × Value → Prop
  | (_, v) => v.Canonical
end

mutual
def Whole : Value → Prop
  | .number (.int n) => Fits n
  | .number (.float _) => False
  | .array items => WholeItems items
  | .object fields => WholeFields fields
  | _ => True
def WholeItems : List Value → Prop
  | [] => True
  | v :: rest => v.Whole ∧ WholeItems rest
def WholeFields : List (String × Value) → Prop
  | [] => True
  | f :: rest => WholeField f ∧ WholeFields rest
def WholeField : String × Value → Prop
  | (_, v) => v.Whole
end

mutual
def decideWhole : (v : Value) → Decidable v.Whole
  | .number (.int n) => inferInstanceAs (Decidable (Fits n))
  | .number (.float _) => .isFalse id
  | .array items => decideWholeItems items
  | .object fields => decideWholeFields fields
  | .null => .isTrue trivial
  | .bool _ => .isTrue trivial
  | .string _ => .isTrue trivial
def decideWholeItems : (items : List Value) → Decidable (WholeItems items)
  | [] => .isTrue trivial
  | v :: rest =>
    have := decideWhole v
    have := decideWholeItems rest
    inferInstanceAs (Decidable (_ ∧ _))
def decideWholeFields : (fields : List (String × Value)) → Decidable (WholeFields fields)
  | [] => .isTrue trivial
  | f :: rest =>
    have := decideWholeField f
    have := decideWholeFields rest
    inferInstanceAs (Decidable (_ ∧ _))
def decideWholeField : (f : String × Value) → Decidable (WholeField f)
  | (_, v) => decideWhole v
end

instance (v : Value) : Decidable v.Whole := v.decideWhole

mutual
def depth : Value → Nat
  | .array items => depthItems items + 1
  | .object fields => depthFields fields + 1
  | _ => 0
def depthItems : List Value → Nat
  | [] => 0
  | v :: rest => max v.depth (depthItems rest)
def depthFields : List (String × Value) → Nat
  | [] => 0
  | f :: rest => max (depthField f) (depthFields rest)
def depthField : String × Value → Nat
  | (_, v) => v.depth
end

end Value
end AppHost.Json
