import AppHost.Json.Fault
import AppHost.Json.Value

/-!
Reading JSON text. Each reader takes the unread characters and gives a value with what is left, or
the first fault. The readers keep the entries of objects as they come; `parse` reads one value and
nothing after it, and brings its objects into key order.

Arrays and objects may be nested 127 deep. Whole numbers of 64 bits are kept; every other number
becomes a double in one multiplication or division by a power of ten.
-/

set_option autoImplicit false
namespace AppHost.Json

def isBlank (c : Char) : Bool := c == ' ' || c == '\n' || c == '\t' || c == '\r'

def skipBlank (cs : List Char) : List Char := cs.dropWhile isBlank

def readWord : List Char → List Char → Except Fault (List Char)
  | [], cs => .ok cs
  | _ :: _, [] => faultAt .endInValue []
  | w :: ws, c :: cs =>
    if c = w then readWord ws cs
    else .error ⟨.expectedIdent, [], .left (Text.utf8Length (c :: cs) - 1)⟩

/-! ### Strings -/

def hexValue? (c : Char) : Option Nat :=
  if c.isDigit then some (c.toNat - 48)
  else if 'a' ≤ c ∧ c ≤ 'f' then some (c.toNat - 87)
  else if 'A' ≤ c ∧ c ≤ 'F' then some (c.toNat - 55)
  else none

/-- Four hexadecimal digits. A fault is noted after four bytes, or at the end if there are fewer. -/
def readHex (cs : List Char) : Except Fault (Nat × List Char) :=
  let bad : Except Fault (Nat × List Char) :=
    if Text.utf8Length cs < 4 then faultAt .endInString []
    else .error ⟨.invalidEscape, [], .left (Text.utf8Length cs - 4)⟩
  match cs with
  | a :: b :: c :: d :: rest =>
    match hexValue? a, hexValue? b, hexValue? c, hexValue? d with
    | some a, some b, some c, some d => .ok (((a * 16 + b) * 16 + c) * 16 + d, rest)
    | _, _, _, _ => bad
  | _ => bad

def readLowSurrogate (high : Nat) : List Char → Except Fault (Char × List Char)
  | [] => faultAt .endInString []
  | '\\' :: [] => faultAt .endInString []
  | '\\' :: 'u' :: rest => do
    let (low, rest) ← readHex rest
    if low < 0xDC00 ∨ 0xDFFF < low then faultAt .loneSurrogate rest
    else .ok (Char.ofNat ((high - 0xD800) * 0x400 + (low - 0xDC00) + 0x10000), rest)
  | '\\' :: c :: rest => faultNext .unexpectedEndOfEscape (c :: rest)
  | c :: rest => faultNext .unexpectedEndOfEscape (c :: rest)

def readUnicodeEscape (cs : List Char) : Except Fault (Char × List Char) := do
  let (n, rest) ← readHex cs
  if 0xDC00 ≤ n ∧ n ≤ 0xDFFF then faultAt .loneSurrogate rest
  else if 0xD800 ≤ n ∧ n ≤ 0xDBFF then readLowSurrogate n rest
  else .ok (Char.ofNat n, rest)

def shortEscape? (c : Char) : Option Char :=
  if c = '"' ∨ c = '\\' ∨ c = '/' then some c
  else if c = 'b' then some '\x08'
  else if c = 'f' then some '\x0c'
  else if c = 'n' then some '\n'
  else if c = 'r' then some '\r'
  else if c = 't' then some '\t'
  else none

def readEscape : List Char → Except Fault (Char × List Char)
  | [] => faultAt .endInString []
  | c :: rest =>
    if c = 'u' then readUnicodeEscape rest
    else
      match shortEscape? c with
      | some e => .ok (e, rest)
      | none => faultNext .invalidEscape (c :: rest)

def readChars : Nat → List Char → Except Fault (List Char × List Char)
  | 0, cs => faultAt .endInString cs
  | _ + 1, [] => faultAt .endInString []
  | fuel + 1, c :: rest =>
    if c = '"' then .ok ([], rest)
    else if c = '\\' then do
      let (e, rest) ← readEscape rest
      let (more, rest) ← readChars fuel rest
      return (e :: more, rest)
    else if c.toNat < 0x20 then faultAt .controlCharacter rest
    else do
      let (more, rest) ← readChars fuel rest
      return (c :: more, rest)

def readString (cs : List Char) : Except Fault (String × List Char) := do
  let (chars, rest) ← readChars (cs.length + 1) cs
  return (String.ofList chars, rest)

/-! ### Numbers -/

def digitValue (c : Char) : Nat := c.toNat - 48

/-- Adds digits to a number as long as it stays below 2^64; also counts the digits left out. -/
def gather (n : Nat) : List Char → Nat × Nat
  | [] => (n, 0)
  | d :: ds =>
    if n * 10 + digitValue d < 2 ^ 64 then gather (n * 10 + digitValue d) ds else (n, ds.length + 1)

def powerOfTen (n : Nat) : Float := Float.ofScientific 1 false n

/-- `significand · 10 ^ exponent` in one rounding after the significand's, or none for infinity.
Below the table of powers the significand is first brought down by the table's last one. -/
def scale? : Nat → Float → Int → Option Float
  | 0, x, _ => some x
  | fuel + 1, x, exponent =>
    if exponent.natAbs ≤ 308 then
      if 0 ≤ exponent then
        let y := x * powerOfTen exponent.natAbs
        if y.isInf then none else some y
      else some (x / powerOfTen exponent.natAbs)
    else if x == 0.0 then some x
    else if 0 ≤ exponent then none
    else scale? fuel (x / powerOfTen 308) (exponent + 308)

def signed (negative : Bool) (x : Float) : Float := if negative then -x else x

def readParts (negative : Bool) (significand : Nat) (exponent : Int) (rest : List Char) :
    Except Fault (Number × List Char) :=
  match scale? (exponent.natAbs / 308 + 2) (UInt64.ofNat significand).toFloat exponent with
  | some x => .ok (.float (signed negative x), rest)
  | none => faultAt .numberOutOfRange rest

/-- The digits of an exponent, or the unread text at the digit that leaves the range of 32 bits. -/
def gatherExponent (n : Nat) : List Char → Except (List Char) (Nat × List Char)
  | [] => .ok (n, [])
  | d :: ds =>
    if d.isDigit then
      if n * 10 + digitValue d < 2 ^ 31 then gatherExponent (n * 10 + digitValue d) ds
      else .error ds
    else .ok (n, d :: ds)

def clampExponent (e : Int) : Int := max (-(2 ^ 31)) (min e (2 ^ 31 - 1))

def readExponent (negative : Bool) (significand : Nat) (start : Int) (cs : List Char) :
    Except Fault (Number × List Char) :=
  let down := cs.head? = some '-'
  let digits := if down ∨ cs.head? = some '+' then cs.tail else cs
  match digits with
  | [] => faultAt .endInValue []
  | d :: rest =>
    if !d.isDigit then faultNext .invalidNumber (d :: rest)
    else
      match gatherExponent (digitValue d) rest with
      | .ok (e, rest) =>
        readParts negative significand (clampExponent (if down then start - e else start + e)) rest
      | .error rest =>
        if significand ≠ 0 ∧ ¬down then faultAt .numberOutOfRange rest
        else .ok (.float (signed negative 0.0), rest.dropWhile Char.isDigit)

def isExponentMark (c : Char) : Bool := c == 'e' || c == 'E'

def readFraction (negative : Bool) (significand : Nat) (start : Int) (cs : List Char) :
    Except Fault (Number × List Char) :=
  let digits := cs.takeWhile Char.isDigit
  let rest := cs.dropWhile Char.isDigit
  let (n, dropped) := gather significand digits
  let exponent := start - ((digits.length : Int) - dropped)
  if digits.isEmpty then
    match rest with
    | [] => faultNext .endInValue []
    | _ => faultNext .invalidNumber rest
  else
    match rest with
    | c :: more => if isExponentMark c then readExponent negative n exponent more
                   else readParts negative n exponent rest
    | [] => readParts negative n exponent rest

/-- A whole number that fits 64 bits is kept; minus zero and everything greater is a double. -/
def wholeNumber (negative : Bool) (n : Nat) : Number :=
  if !negative then .int n
  else if n = 0 ∨ 2 ^ 63 < n then .float (-(UInt64.ofNat n).toFloat)
  else .int (-(n : Int))

def readNumber (negative : Bool) : List Char → Except Fault (Number × List Char)
  | [] => faultAt .endInValue []
  | c :: rest =>
    if !c.isDigit then faultNext .invalidNumber (c :: rest)
    else
      let digits := if c = '0' then [c] else c :: rest.takeWhile Char.isDigit
      let after := if c = '0' then rest else rest.dropWhile Char.isDigit
      let (n, dropped) := gather 0 digits
      match after with
      | [] => if dropped = 0 then .ok (wholeNumber negative n, []) else readParts negative n dropped []
      | d :: more =>
        if c = '0' ∧ d.isDigit then faultNext .invalidNumber after
        else if d = '.' then readFraction negative n dropped more
        else if isExponentMark d then readExponent negative n dropped more
        else if dropped = 0 then .ok (wholeNumber negative n, after)
        else readParts negative n dropped after

/-! ### Arrays and objects -/

/-- Whether another item follows, having passed the comma before it. -/
def nextItem (first : Bool) (cs : List Char) : Except Fault (Bool × List Char) :=
  match skipBlank cs with
  | [] => faultAt .endInList []
  | c :: rest =>
    if c = ']' then .ok (false, c :: rest)
    else if first then .ok (true, c :: rest)
    else if c = ',' then
      match skipBlank rest with
      | [] => faultAt .endInValue []
      | d :: more => if d = ']' then faultNext .trailingComma (d :: more) else .ok (true, d :: more)
    else faultNext .expectedListCommaOrEnd (c :: rest)

def nextKey (first : Bool) (cs : List Char) : Except Fault (Option String × List Char) :=
  match skipBlank cs with
  | [] => faultAt .endInObject []
  | c :: rest =>
    if c = '\x7d' then .ok (none, c :: rest)
    else if first then
      if c = '"' then keyAfterQuote rest else faultNext .keyMustBeString (c :: rest)
    else if c = ',' then
      match skipBlank rest with
      | [] => faultAt .endInValue []
      | d :: more =>
        if d = '"' then keyAfterQuote more
        else if d = '\x7d' then faultNext .trailingComma (d :: more)
        else faultNext .keyMustBeString (d :: more)
    else faultNext .expectedObjectCommaOrEnd (c :: rest)
where
  keyAfterQuote (cs : List Char) : Except Fault (Option String × List Char) := do
    let (key, rest) ← readString cs
    return (some key, rest)

def readColon (cs : List Char) : Except Fault (List Char) :=
  match skipBlank cs with
  | [] => faultAt .endInObject []
  | c :: rest => if c = ':' then .ok rest else faultNext .expectedColon (c :: rest)

def closeArray (cs : List Char) : Except Fault (List Char) :=
  match skipBlank cs with
  | [] => faultAt .endInList []
  | c :: rest =>
    if c = ']' then .ok rest
    else if c = ',' then
      match skipBlank rest with
      | ']' :: _ => faultNext .trailingComma (skipBlank rest)
      | more => faultNext .trailingCharacters more
    else faultNext .trailingCharacters (c :: rest)

def closeObject (cs : List Char) : Except Fault (List Char) :=
  match skipBlank cs with
  | [] => faultAt .endInObject []
  | c :: rest =>
    if c = '\x7d' then .ok rest
    else if c = ',' then faultNext .trailingComma (c :: rest)
    else faultNext .trailingCharacters (c :: rest)

/-! ### Values -/

/-- How many levels of arrays and objects may be open at once, and one more. -/
def nestingLimit : Nat := 128

mutual
/-- One value, with `levels` more levels of nesting allowed, the last of them never entered. -/
def readValue : Nat → Nat → List Char → Except Fault (Value × List Char)
  | 0, _, cs => faultAt .endInValue cs
  | fuel + 1, levels, cs =>
    match skipBlank cs with
    | [] => faultAt .endInValue []
    | c :: rest =>
      if c = 'n' then do return (.null, ← readWord ['u', 'l', 'l'] rest)
      else if c = 't' then do return (.bool true, ← readWord ['r', 'u', 'e'] rest)
      else if c = 'f' then do return (.bool false, ← readWord ['a', 'l', 's', 'e'] rest)
      else if c = '-' then do
        let (n, rest) ← readNumber true rest
        return (.number n, rest)
      else if c.isDigit then do
        let (n, rest) ← readNumber false (c :: rest)
        return (.number n, rest)
      else if c = '"' then do
        let (s, rest) ← readString rest
        return (.string s, rest)
      else if c = '[' then
        if levels ≤ 1 then faultNext .nestedTooDeep (c :: rest)
        else do
          let (items, rest) ← readItems fuel (levels - 1) 0 rest
          return (.array items, ← closeArray rest)
      else if c = '\x7b' then
        if levels ≤ 1 then faultNext .nestedTooDeep (c :: rest)
        else do
          let (fields, rest) ← readFields fuel (levels - 1) true rest
          return (.object fields, ← closeObject rest)
      else faultNext .expectedValue (c :: rest)
def readItems : Nat → Nat → Nat → List Char → Except Fault (List Value × List Char)
  | 0, _, _, cs => faultAt .endInList cs
  | fuel + 1, levels, position, cs => do
    let (more, rest) ← nextItem (position = 0) cs
    if more then do
      let (v, rest) ← within (.index position) (readValue fuel levels rest)
      let (vs, rest) ← readItems fuel levels (position + 1) rest
      return (v :: vs, rest)
    else return ([], rest)
def readFields : Nat → Nat → Bool → List Char → Except Fault (List (String × Value) × List Char)
  | 0, _, _, cs => faultAt .endInObject cs
  | fuel + 1, levels, first, cs => do
    let (key, rest) ← within .unread (nextKey first cs)
    match key with
    | none => return ([], rest)
    | some key => do
      let rest ← readColon rest
      let (v, rest) ← within (.key key) (readValue fuel levels rest)
      let (fields, rest) ← readFields fuel levels false rest
      return ((key, v) :: fields, rest)
end

/-- Enough for any text: every second call reads a character. -/
def fuelFor (cs : List Char) : Nat := 2 * cs.length + 2

def readEnd (cs : List Char) : Except Fault Unit :=
  match skipBlank cs with
  | [] => .ok ()
  | rest => faultNext .trailingCharacters rest

def parse (text : String) : Except Fault Value := do
  let (v, rest) ← readValue (fuelFor text.toList) nestingLimit text.toList
  readEnd rest
  return v.sorted

end AppHost.Json
