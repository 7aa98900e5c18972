import AppHost.Wire.Field

/-!
Messages as tables of their fields. Reading merges one field after the other into a message: a
single value replaces the one before it, a list grows, a message within a message is merged in turn.
Writing puts the fields in the order of the table, without those that have their initial value.
-/

set_option autoImplicit false
namespace AppHost.Wire

def nestingLimit : Nat := 100

structure Field (α : Type) where
  number : Nat
  name : String
  -- Merges a payload, given how many levels are left.
  merge : Nat → WireType → List UInt8 → α → Except Fault (α × List UInt8)
  write : α → List UInt8

structure Schema (α : Type) where
  name : String
  empty : α
  fields : List (Field α)

namespace Schema

variable {α : Type}

def mergeField (s : Schema α) (levels number : Nat) (wireType : WireType) (bytes : List UInt8)
    (a : α) : Except Fault (α × List UInt8) :=
  match s.fields.find? (·.number = number) with
  | some field => (field.merge levels wireType bytes a).mapError (·.within s.name field.name)
  | none => do
    let rest ← skipField (2 * bytes.length + 2) levels number wireType bytes
    return (a, rest)

/-- Merges fields as long as more than `limit` bytes are left. -/
def mergeUntil (s : Schema α) (levels limit : Nat) : Nat → List UInt8 → α →
    Except Fault (α × List UInt8)
  | 0, _, _ => fail .invalidVarint
  | fuel + 1, bytes, a =>
    if bytes.length ≤ limit then .ok (a, bytes)
    else do
      let (number, wireType, rest) ← takeKey bytes
      let (a, rest) ← s.mergeField levels number wireType rest a
      mergeUntil s levels limit fuel rest a

/-- Merges a message that stands in a field. It must end where its length says. -/
def mergeNested (s : Schema α) (levels : Nat) (wireType : WireType) (bytes : List UInt8) (a : α) :
    Except Fault (α × List UInt8) := do
  expectType .lengthDelimited wireType
  if levels = 0 then fail .nestedTooDeep
  else do
    let (n, rest) ← takeVarint bytes
    if rest.length < n then fail .underflow
    else do
      let limit := rest.length - n
      let (a, rest) ← s.mergeUntil (levels - 1) limit (rest.length + 1) rest a
      if rest.length = limit then return (a, rest) else fail .lengthExceeded

def encode (s : Schema α) (a : α) : List UInt8 := s.fields.flatMap (·.write a)

def decode (s : Schema α) (bytes : List UInt8) : Except Fault α := do
  let (a, _) ← s.mergeUntil nestingLimit 0 (bytes.length + 1) bytes s.empty
  return a

end Schema

namespace Field

variable {α β : Type}

def text (number : Nat) (name : String) (get : α → String) (set : String → α → α) : Field α where
  number := number
  name := name
  merge _ wireType bytes a := do
    let (s, rest) ← takeText wireType bytes
    return (set s a, rest)
  write a :=
    if (get a).isEmpty then [] else delimited number (Text.encodeUtf8 (get a))

def texts (number : Nat) (name : String) (get : α → List String) (set : List String → α → α) :
    Field α where
  number := number
  name := name
  merge _ wireType bytes a := do
    let (s, rest) ← takeText wireType bytes
    return (set (get a ++ [s]) a, rest)
  write a := (get a).flatMap fun s => delimited number (Text.encodeUtf8 s)

/-- A signed number of 64 bits, written as its residue modulo 2^64. -/
def int64 (number : Nat) (name : String) (get : α → Int64) (set : Int64 → α → α) : Field α where
  number := number
  name := name
  merge _ wireType bytes a := do
    let (n, rest) ← takeNumber wireType bytes
    return (set (Int64.ofNat n) a, rest)
  write a := if get a = 0 then [] else key number .varint ++ varint (get a).toUInt64.toNat

/-- A signed number of 32 bits, written like one of 64; reading keeps the low 32 bits. -/
def int32 (number : Nat) (name : String) (get : α → Int32) (set : Int32 → α → α) : Field α where
  number := number
  name := name
  merge _ wireType bytes a := do
    let (n, rest) ← takeNumber wireType bytes
    return (set (Int32.ofNat n) a, rest)
  write a := if get a = 0 then [] else key number .varint ++ varint (get a).toInt64.toUInt64.toNat

/-- A message within the message, or one of several that exclude each other. -/
def message (number : Nat) (name : String) (inner : Schema β) (get : α → Option β)
    (set : β → α → α) : Field α where
  number := number
  name := name
  merge levels wireType bytes a := do
    let (b, rest) ← inner.mergeNested levels wireType bytes ((get a).getD inner.empty)
    return (set b a, rest)
  write a :=
    match get a with
    | some b => delimited number (inner.encode b)
    | none => []

end Field
end AppHost.Wire
