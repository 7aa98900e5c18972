import AppHost.Json.Printer
import AppHost.Json.Skip
import AppHost.Text.Quoted

/-!
Reading JSON into records of known fields. A record is written as an object, in which unknown keys
are passed over and a known key may stand once, or as an array of its fields in order. The first
fault in the text wins, whether it is one of form or of shape.
-/

set_option autoImplicit false
namespace AppHost.Json

variable {α : Type}

def Value.noun : Value → String
  | .null => "null"
  | .bool b => "boolean `" ++ String.ofList (boolChars b) ++ "`"
  | .number (.int n) => "integer `" ++ String.ofList (intChars n) ++ "`"
  | .number (.float x) => "floating point `" ++ String.ofList (Number.float x).chars ++ "`"
  | .string s => "string " ++ Text.quoted s
  | .array _ => "sequence"
  | .object _ => "map"

/-- A reader of one value, given how many levels of nesting are left. -/
abbrev Reading (α : Type) := Nat → List Char → Except Fault (α × List Char)

/-- Refuses what comes next. A scalar is read first, an array or object is left unread. -/
def refuse (expected : String) (cs : List Char) : Except Fault (α × List Char) :=
  match cs with
  | [] => faultAt .endInValue []
  | c :: rest =>
    if c = '[' then mismatch (.wrongType "sequence" expected) (c :: rest)
    else if c = '\x7b' then mismatch (.wrongType "map" expected) (c :: rest)
    else do
      let (v, rest) ← readValue 1 1 (c :: rest)
      mismatch (.wrongType v.noun expected) rest

def readText : Reading String := fun _ cs =>
  match skipBlank cs with
  | '"' :: rest => readString rest
  | rest => settled (refuse "a string" rest)

def readTextAs (expected : String) (rule : String → Except String α) : Reading α := fun _ cs =>
  match skipBlank cs with
  | '"' :: rest => do
    let (s, rest) ← readString rest
    match rule s with
    | .ok a => return (a, rest)
    | .error reason => settled (mismatch (.refused reason) rest)
  | rest => settled (refuse expected rest)

def readOptional (read : Reading α) : Reading (Option α) := fun levels cs =>
  match skipBlank cs with
  | 'n' :: rest => do return (none, ← readWord ['u', 'l', 'l'] rest)
  | rest => do
    let (a, rest) ← read levels rest
    return (some a, rest)

/-- Where reading stands once an array has been left, as far as it can be. -/
def leaveArray (cs : List Char) : List Char :=
  match skipBlank cs with
  | ']' :: rest => rest
  | ',' :: rest => skipBlank rest
  | rest => rest

def leaveObject (cs : List Char) : List Char :=
  match skipBlank cs with
  | '\x7d' :: rest => rest
  | rest => rest

/-- Places a pending fault after the value around it has been left. -/
def leaving (leave : List Char → List Char) : Except Fault α → Except Fault α
  | .ok a => .ok a
  | .error f =>
    match f.place with
    | .left _ => .error f
    | .pending rest => .error { f with place := .left (Text.utf8Length (leave rest)) }

def readListFrom (read : Reading α) : Nat → Nat → Nat → List Char →
    Except Fault (List α × List Char)
  | 0, _, _, cs => faultAt .endInList cs
  | fuel + 1, levels, position, cs => do
    let (more, rest) ← nextItem (position = 0) cs
    if more then do
      let (a, rest) ← within (.index position) (read levels rest)
      let (as, rest) ← readListFrom read fuel levels (position + 1) rest
      return (a :: as, rest)
    else return ([], rest)

def readList (read : Reading α) : Reading (List α) := fun levels cs =>
  match skipBlank cs with
  | '[' :: rest =>
    if levels ≤ 1 then faultNext .nestedTooDeep ('[' :: rest)
    else do
      let (as, rest) ← leaving leaveArray (readListFrom read (rest.length + 1) (levels - 1) 0 rest)
      return (as, ← closeArray rest)
  | rest => settled (refuse "a sequence" rest)

def readAny : Reading Value := fun levels cs => do
  let (v, rest) ← readValue (fuelFor cs) levels cs
  return (v.sorted, rest)

structure Field (α : Type) where
  name : String
  -- The value's effect on the record.
  read : Reading (α → α)
  isSet : α → Bool
  -- A field that may be left out of an array.
  optional : Bool

structure Shape (α : Type) where
  name : String
  fields : List (Field α)

namespace Shape

def expecting (s : Shape α) : String := "struct " ++ s.name

def expectingFields (s : Shape α) : String :=
  s.expecting ++ " with " ++ toString s.fields.length ++
    (if s.fields.length = 1 then " element" else " elements")

def readEntries (s : Shape α) : Nat → Nat → Bool → α → List Char → Except Fault (α × List Char)
  | 0, _, _, _, cs => faultAt .endInObject cs
  | fuel + 1, levels, first, a, cs => do
    let (key, rest) ← within .unread (nextKey first cs)
    match key with
    | none => return (a, rest)
    | some key =>
      match s.fields.find? (·.name = key) with
      | some field =>
        if field.isSet a then mismatch (.duplicateField key) rest
        else do
          let rest ← readColon rest
          let (set, rest) ← within (.key key) (field.read levels rest)
          readEntries s fuel levels false (set a) rest
      | none => do
        let rest ← readColon rest
        let rest ← within (.key key) (skipValue rest)
        readEntries s fuel levels false a rest

def readPositions (s : Shape α) (levels : Nat) : List (Field α) → Nat → α → List Char →
    Except Fault (α × List Char)
  | [], _, a, cs => .ok (a, cs)
  | field :: fields, position, a, cs => do
    let (more, rest) ← nextItem (position = 0) cs
    if more then do
      let (set, rest) ← within (.index position) (field.read levels rest)
      readPositions s levels fields (position + 1) (set a) rest
    else if field.optional then readPositions s levels fields (position + 1) a rest
    else mismatch (.wrongLength position s.expectingFields) rest

/-- Reads a record and hands it to `finish`, which names a field that is missing. -/
def read {β : Type} (s : Shape α) (start : α) (finish : α → Except Mismatch β) : Reading β :=
  fun levels cs =>
    let finished (r : α × List Char) : Except Fault (β × List Char) :=
      match finish r.1 with
      | .ok b => .ok (b, r.2)
      | .error reason => mismatch reason r.2
    match skipBlank cs with
    | '\x7b' :: rest =>
      if levels ≤ 1 then faultNext .nestedTooDeep ('\x7b' :: rest)
      else do
        let (b, rest) ← leaving leaveObject
          (s.readEntries (rest.length + 1) (levels - 1) true start rest >>= finished)
        return (b, ← closeObject rest)
    | '[' :: rest =>
      if levels ≤ 1 then faultNext .nestedTooDeep ('[' :: rest)
      else do
        let (b, rest) ← leaving leaveArray
          (s.readPositions (levels - 1) s.fields 0 start rest >>= finished)
        return (b, ← closeArray rest)
    | rest => settled (refuse s.expecting rest)

end Shape

def required (name : String) : Option α → Except Mismatch α
  | some a => .ok a
  | none => .error (.missingField name)

def readWhole (read : Reading α) (text : String) : Except Fault α := do
  let (a, rest) ← read nestingLimit text.toList
  readEnd rest
  return a

end AppHost.Json
