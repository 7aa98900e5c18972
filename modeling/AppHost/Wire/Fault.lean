/-! What can be wrong with the bytes of a message, and in which fields of which messages it was
met, the innermost first. -/

set_option autoImplicit false
namespace AppHost.Wire

inductive WireType
  | varint
  | sixtyFourBit
  | lengthDelimited
  | startGroup
  | endGroup
  | thirtyTwoBit
  deriving DecidableEq, Repr

namespace WireType

def number : WireType → Nat
  | .varint => 0
  | .sixtyFourBit => 1
  | .lengthDelimited => 2
  | .startGroup => 3
  | .endGroup => 4
  | .thirtyTwoBit => 5

def ofNumber? : Nat → Option WireType
  | 0 => some .varint
  | 1 => some .sixtyFourBit
  | 2 => some .lengthDelimited
  | 3 => some .startGroup
  | 4 => some .endGroup
  | 5 => some .thirtyTwoBit
  | _ => none

def text : WireType → String
  | .varint => "Varint"
  | .sixtyFourBit => "SixtyFourBit"
  | .lengthDelimited => "LengthDelimited"
  | .startGroup => "StartGroup"
  | .endGroup => "EndGroup"
  | .thirtyTwoBit => "ThirtyTwoBit"

@[simp] theorem ofNumber?_number (w : WireType) : ofNumber? w.number = some w := by cases w <;> rfl

end WireType

inductive Cause
  | invalidVarint
  | invalidKey (value : Nat)
  | invalidWireType (value : Nat)
  | zeroNumber
  | wrongWireType (found expected : WireType)
  | underflow
  | lengthExceeded
  | unexpectedEndGroup
  | nestedTooDeep
  | notUtf8
  deriving DecidableEq, Repr

def Cause.message : Cause → String
  | .invalidVarint => "invalid varint"
  | .invalidKey n => "invalid key value: " ++ toString n
  | .invalidWireType n => "invalid wire type value: " ++ toString n
  | .zeroNumber => "invalid tag value: 0"
  | .wrongWireType found expected =>
    "invalid wire type: " ++ found.text ++ " (expected " ++ expected.text ++ ")"
  | .underflow => "buffer underflow"
  | .lengthExceeded => "delimited length exceeded"
  | .unexpectedEndGroup => "unexpected end group tag"
  | .nestedTooDeep => "recursion limit reached"
  | .notUtf8 => "invalid string value: data is not UTF-8 encoded"

structure Fault where
  cause : Cause
  path : List (String × String)
  deriving DecidableEq, Repr

namespace Fault

def within (message field : String) (f : Fault) : Fault :=
  { f with path := f.path ++ [(message, field)] }

def message (f : Fault) : String :=
  "failed to decode Protobuf message: " ++
    String.join (f.path.map fun (message, field) => message ++ "." ++ field ++ ": ") ++
    f.cause.message

end Fault

def fail {α : Type} (cause : Cause) : Except Fault α := .error ⟨cause, []⟩

end AppHost.Wire
