import AppHost.Text.Utf8
import AppHost.Wire.Fault
import AppHost.Wire.Varint

/-!
Keys and payloads of fields. A key holds the field's number and its wire type. A field that a
message does not know is checked and passed over; groups may be nested in it, up to the levels left.
-/

set_option autoImplicit false
namespace AppHost.Wire

def key (number : Nat) (wireType : WireType) : List UInt8 := varint (number * 8 + wireType.number)

def takeVarint (bytes : List UInt8) : Except Fault (Nat × List UInt8) :=
  match readVarint bytes with
  | some r => .ok r
  | none => fail .invalidVarint

def takeKey (bytes : List UInt8) : Except Fault (Nat × WireType × List UInt8) := do
  let (n, rest) ← takeVarint bytes
  if 2 ^ 32 ≤ n then fail (.invalidKey n)
  else
    match WireType.ofNumber? (n % 8) with
    | none => fail (.invalidWireType (n % 8))
    | some wireType => if n / 8 = 0 then fail .zeroNumber else return (n / 8, wireType, rest)

def dropBytes (n : Nat) (bytes : List UInt8) : Except Fault (List UInt8) :=
  if bytes.length < n then fail .underflow else .ok (bytes.drop n)

mutual
def skipField : Nat → Nat → Nat → WireType → List UInt8 → Except Fault (List UInt8)
  | 0, _, _, _, _ => fail .invalidVarint
  | fuel + 1, levels, number, wireType, bytes =>
    if levels = 0 then fail .nestedTooDeep
    else
      match wireType with
      | .varint => do
        let (_, rest) ← takeVarint bytes
        return rest
      | .thirtyTwoBit => dropBytes 4 bytes
      | .sixtyFourBit => dropBytes 8 bytes
      | .lengthDelimited => do
        let (n, rest) ← takeVarint bytes
        dropBytes n rest
      | .startGroup => skipGroup fuel levels number bytes
      | .endGroup => fail .unexpectedEndGroup
def skipGroup : Nat → Nat → Nat → List UInt8 → Except Fault (List UInt8)
  | 0, _, _, _ => fail .invalidVarint
  | fuel + 1, levels, number, bytes => do
    let (inner, wireType, rest) ← takeKey bytes
    if wireType = .endGroup then
      if inner = number then return rest else fail .unexpectedEndGroup
    else do
      let rest ← skipField fuel (levels - 1) inner wireType rest
      skipGroup fuel levels number rest
end

def expectType (expected found : WireType) : Except Fault Unit :=
  if found = expected then .ok () else fail (.wrongWireType found expected)

def takeDelimited (bytes : List UInt8) : Except Fault (List UInt8 × List UInt8) := do
  let (n, rest) ← takeVarint bytes
  if rest.length < n then fail .underflow else return (rest.take n, rest.drop n)

def takeText (wireType : WireType) (bytes : List UInt8) : Except Fault (String × List UInt8) := do
  expectType .lengthDelimited wireType
  let (payload, rest) ← takeDelimited bytes
  match Text.decodeUtf8? payload with
  | some s => return (s, rest)
  | none => fail .notUtf8

def takeNumber (wireType : WireType) (bytes : List UInt8) : Except Fault (Nat × List UInt8) := do
  expectType .varint wireType
  takeVarint bytes

def delimited (number : Nat) (payload : List UInt8) : List UInt8 :=
  key number .lengthDelimited ++ varint payload.length ++ payload

end AppHost.Wire
