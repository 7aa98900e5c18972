import AppHost.Text.Utf8

/-!
What can be wrong with a JSON text: the cause, the place in the document's structure, and the place
in the text. The message of a fault names the cause, and the line and column where it has one.
-/

set_option autoImplicit false
namespace AppHost.Json

inductive Mismatch
  | missingField (name : String)
  | duplicateField (name : String)
  | wrongType (found : String) (expected : String)
  | wrongLength (found : Nat) (expected : String)
  | unknownVariant (name : String) (known : List String)
  | refused (reason : String)
  deriving DecidableEq, Repr

inductive Cause
  | endInList
  | endInObject
  | endInString
  | endInValue
  | expectedColon
  | expectedListCommaOrEnd
  | expectedObjectCommaOrEnd
  | expectedIdent
  | expectedValue
  | invalidEscape
  | invalidNumber
  | numberOutOfRange
  | controlCharacter
  | keyMustBeString
  | loneSurrogate
  | trailingComma
  | trailingCharacters
  | unexpectedEndOfEscape
  | nestedTooDeep
  | mismatch (reason : Mismatch)
  deriving DecidableEq, Repr

inductive Step
  | key (name : String)
  | index (position : Nat)
  -- Into an object, but no key was read.
  | unread
  deriving DecidableEq, Repr

/-- A place in the text, by how many bytes follow it. A mismatch is placed only when the value
around it has been left; until then the unread text is kept. -/
inductive Place
  | left (bytes : Nat)
  | pending (rest : List Char)
  deriving DecidableEq, Repr

structure Fault where
  cause : Cause
  path : List Step
  place : Place
  deriving DecidableEq, Repr

namespace Mismatch

def oneOf : List String → String
  | [] => "there are no variants"
  | [a] => "`" ++ a ++ "`"
  | [a, b] => "`" ++ a ++ "` or `" ++ b ++ "`"
  | names => "one of " ++ ", ".intercalate (names.map fun n => "`" ++ n ++ "`")

def message : Mismatch → String
  | .missingField name => "missing field `" ++ name ++ "`"
  | .duplicateField name => "duplicate field `" ++ name ++ "`"
  | .wrongType found expected => "invalid type: " ++ found ++ ", expected " ++ expected
  | .wrongLength found expected => "invalid length " ++ toString found ++ ", expected " ++ expected
  | .unknownVariant name known => "unknown variant `" ++ name ++ "`, expected " ++ oneOf known
  | .refused reason => reason

end Mismatch

namespace Cause

def message : Cause → String
  | .endInList => "EOF while parsing a list"
  | .endInObject => "EOF while parsing an object"
  | .endInString => "EOF while parsing a string"
  | .endInValue => "EOF while parsing a value"
  | .expectedColon => "expected `:`"
  | .expectedListCommaOrEnd => "expected `,` or `]`"
  | .expectedObjectCommaOrEnd => "expected `,` or `\x7d`"
  | .expectedIdent => "expected ident"
  | .expectedValue => "expected value"
  | .invalidEscape => "invalid escape"
  | .invalidNumber => "invalid number"
  | .numberOutOfRange => "number out of range"
  | .controlCharacter => "control character (\\u0000-\\u001F) found while parsing a string"
  | .keyMustBeString => "key must be a string"
  | .loneSurrogate => "lone leading surrogate in hex escape"
  | .trailingComma => "trailing comma"
  | .trailingCharacters => "trailing characters"
  | .unexpectedEndOfEscape => "unexpected end of hex escape"
  | .nestedTooDeep => "recursion limit exceeded"
  | .mismatch reason => reason.message

def isMismatch : Cause → Bool
  | .mismatch _ => true
  | _ => false

end Cause

/-- Line and column, the column counting the bytes before the place since the last line break. -/
structure Position where
  line : Nat
  column : Nat
  deriving DecidableEq, Repr

def Position.after (bytes : Nat) : List Char → Position → Position
  | [], p => p
  | c :: rest, p =>
    if bytes < c.utf8Size then ⟨p.line, p.column + bytes⟩
    else if c = '\n' then after (bytes - 1) rest ⟨p.line + 1, 0⟩
    else after (bytes - c.utf8Size) rest ⟨p.line, p.column + c.utf8Size⟩

namespace Fault

def within (step : Step) (f : Fault) : Fault := { f with path := step :: f.path }

def message (f : Fault) (text : List Char) : String :=
  match f.place with
  | .pending _ => f.cause.message
  | .left bytes =>
    let p := Position.after (Text.utf8Length text - bytes) text ⟨1, 0⟩
    f.cause.message ++ " at line " ++ toString p.line ++ " column " ++ toString p.column

def stepsText : List Step → Bool → String
  | [], _ => ""
  | .key name :: rest, first => (if first then "" else ".") ++ name ++ stepsText rest false
  | .index i :: rest, _ => "[" ++ toString i ++ "]" ++ stepsText rest false
  | .unread :: rest, first => (if first then "" else ".") ++ "?" ++ stepsText rest false

/-- The steps to the fault, as `name[0].name: `, or nothing when no step is known. -/
def pathText (f : Fault) : String :=
  if f.path.all (· == .unread) then "" else stepsText f.path true ++ ": "

end Fault

section
variable {α : Type}

def faultAt (cause : Cause) (rest : List Char) : Except Fault α :=
  .error ⟨cause, [], .left (Text.utf8Length rest)⟩

def faultNext (cause : Cause) (rest : List Char) : Except Fault α :=
  .error ⟨cause, [], .left (Text.utf8Length rest - 1)⟩

def mismatch (reason : Mismatch) (rest : List Char) : Except Fault α :=
  .error ⟨.mismatch reason, [], .pending rest⟩

def Fault.settle (f : Fault) : Fault :=
  match f.place with
  | .left _ => f
  | .pending rest => { f with place := .left (Text.utf8Length rest) }

def settled : Except Fault α → Except Fault α
  | .ok a => .ok a
  | .error f => .error f.settle

def within (step : Step) : Except Fault α → Except Fault α
  | .ok a => .ok a
  | .error f => .error (f.within step)

end
end AppHost.Json
