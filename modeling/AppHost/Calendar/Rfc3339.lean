import AppHost.Calendar.Instant
import AppHost.Power
import AppHost.Text.Blank
import AppHost.Text.Utf8

/-!
RFC 3339 text of points of time: the writer, and a reader that also takes white space between the
parts, fields of one digit, signed years of any length, and UTC by name. Each field is checked as
soon as it is read, so the leftmost fault wins; that the day exists is checked at the end.
-/

set_option autoImplicit false
namespace AppHost.Calendar

/-! ### Writing -/

def padded (width n : Nat) : List Char :=
  let digits := Nat.toDigits 10 n
  List.replicate (width - digits.length) '0' ++ digits

/-- Four digits, or a sign and at least four digits outside the years 0 to 9999. -/
def yearChars (year : Int) : List Char :=
  if 0 ≤ year ∧ year ≤ 9999 then padded 4 year.toNat
  else (if year < 0 then '-' else '+') :: padded 4 year.natAbs

/-- No fraction, or the fewest of 3, 6 or 9 digits that are exact. -/
def fractionChars (nano : Nat) : List Char :=
  if nano = 0 then []
  else if nano % 1000000 = 0 then '.' :: padded 3 (nano / 1000000)
  else if nano % 1000 = 0 then '.' :: padded 6 (nano / 1000)
  else '.' :: padded 9 nano

def dateChars (d : Date) : List Char :=
  yearChars d.year ++ '-' :: padded 2 d.month ++ '-' :: padded 2 d.day

namespace Instant

/-- Date and time without an offset. A leap second is written as second 60. -/
def localChars (t : Instant) : List Char :=
  let s := t.secondOfDay
  let leap := nanosPerSecond ≤ t.nano
  dateChars t.date ++ 'T' :: padded 2 (s / 3600) ++ ':' :: padded 2 (s / 60 % 60) ++
    ':' :: padded 2 (if leap then s % 60 + 1 else s % 60) ++ fractionChars (t.nano % nanosPerSecond)

def text (t : Instant) : String := String.ofList (t.localChars ++ ['Z'])

def offsetText (t : Instant) : String :=
  String.ofList (t.localChars ++ ['+', '0', '0', ':', '0', '0'])

end Instant

/-! ### Reading -/

inductive TextFault
  | tooShort
  | invalid
  | outOfRange
  | tooLong
  | impossible
  deriving DecidableEq, Repr

def TextFault.message : TextFault → String
  | .tooShort => "premature end of input"
  | .invalid => "input contains invalid characters"
  | .outOfRange => "input is out of range"
  | .tooLong => "trailing input"
  | .impossible => "no possible date and time matching input"

def digitsValue (digits : List Char) : Nat :=
  digits.foldl (fun n d => n * 10 + (d.toNat - 48)) 0

def readDigits (digits rest : List Char) : Except TextFault (Nat × List Char) :=
  if digits.isEmpty then (if rest.isEmpty then .error .tooShort else .error .invalid)
  else if digitsValue digits < 2 ^ 63 then .ok (digitsValue digits, rest)
  else .error .outOfRange

def readUpTo (most : Nat) (cs : List Char) : Except TextFault (Nat × List Char) :=
  let digits := (cs.take most).takeWhile Char.isDigit
  readDigits digits (cs.drop digits.length)

def readAll (cs : List Char) : Except TextFault (Nat × List Char) :=
  readDigits (cs.takeWhile Char.isDigit) (cs.dropWhile Char.isDigit)

def readField (low high : Nat) (cs : List Char) : Except TextFault (Nat × List Char) := do
  let (n, rest) ← readUpTo 2 (Text.trimStart cs)
  if low ≤ n ∧ n ≤ high then return (n, rest) else .error .outOfRange

def readYear (cs : List Char) : Except TextFault (Int × List Char) := do
  let (year, rest) ←
    match Text.trimStart cs with
    | '-' :: rest => do
      let (n, rest) ← readAll rest
      pure (-(n : Int), rest)
    | '+' :: rest => do
      let (n, rest) ← readAll rest
      pure ((n : Int), rest)
    | rest => do
      let (n, rest) ← readUpTo 4 rest
      pure ((n : Int), rest)
  if -(2 ^ 31) ≤ year ∧ year < 2 ^ 31 then return (year, rest) else .error .outOfRange

def readMark (mark : Char) (cs : List Char) : Except TextFault (List Char) :=
  match Text.trimStart cs with
  | [] => .error .tooShort
  | c :: rest => if c = mark then .ok rest else .error .invalid

def readDate (cs : List Char) : Except TextFault (Date × List Char) := do
  let (year, cs) ← readYear cs
  let cs ← readMark '-' cs
  let (month, cs) ← readField 1 12 cs
  let cs ← readMark '-' cs
  let (day, cs) ← readField 1 31 cs
  return (⟨year, month, day⟩, cs)

def readSeparator : List Char → Except TextFault (List Char)
  | [] => .error .tooShort
  | c :: rest => if c = 'T' ∨ c = 't' ∨ c = ' ' then .ok rest else .error .invalid

def readFraction : List Char → Except TextFault (Nat × List Char)
  | '.' :: cs => do
    let (n, rest) ← readUpTo 9 cs
    return (n * 10 ^ (9 - (cs.length - rest.length)), rest.dropWhile Char.isDigit)
  | cs => .ok (0, cs)

structure Clock where
  hour : Nat
  minute : Nat
  second : Nat
  nano : Nat
  deriving DecidableEq, Repr

def readClock (cs : List Char) : Except TextFault (Clock × List Char) := do
  let (hour, cs) ← readField 0 23 cs
  let cs ← readMark ':' cs
  let (minute, cs) ← readField 0 59 cs
  let cs ← readMark ':' cs
  let (second, cs) ← readField 0 60 cs
  let (nano, cs) ← readFraction cs
  return (⟨hour, minute, second, nano⟩, Text.trimStart cs)

/-- Two digits, which count as there when two bytes are. -/
def readPair (cs : List Char) : Except TextFault (Nat × Nat × List Char) :=
  if Text.utf8Length cs < 2 then .error .tooShort
  else
    match cs with
    | a :: b :: rest =>
      if a.isDigit && b.isDigit then .ok (a.toNat - 48, b.toNat - 48, rest) else .error .invalid
    | _ => .error .invalid

def readOffsetSize (cs : List Char) : Except TextFault (Nat × List Char) := do
  let (h, h', cs) ← readPair cs
  let (m, m', cs) ← readPair (cs.dropWhile fun c => c == ':' || Text.isBlank c)
  if m ≤ 5 then return ((h * 10 + h') * 3600 + (m * 10 + m') * 60, cs) else .error .outOfRange

def isUtcName (cs : List Char) : Bool := (cs.take 3).map Char.toLower == ['u', 't', 'c']

def readOffset (cs : List Char) : Except TextFault (Int × List Char) :=
  if isUtcName cs then .ok (0, cs.drop 3)
  else
    match cs with
    | [] => .error .tooShort
    | c :: rest =>
      if c = 'Z' ∨ c = 'z' then .ok (0, rest)
      else if c = '+' then do
        let (n, rest) ← readOffsetSize rest
        return ((n : Int), rest)
      else if c = '-' ∨ c = '\u2212' then do
        let (n, rest) ← readOffsetSize rest
        return (-(n : Int), rest)
      else .error .invalid

/-- The point of time at which a clock shows a time, a number of seconds east of UTC. Second 60 is
the leap second of its minute. -/
def Instant.ofLocal (d : Date) (c : Clock) (offset : Int) : Except TextFault Instant :=
  if ¬d.IsValid ∨ d.year < -262143 ∨ 262142 < d.year then .error .outOfRange
  else if offset ≤ -86400 ∨ 86400 ≤ offset then .error .outOfRange
  else
    let second := if c.second = 60 then 59 else c.second
    let nano := if c.second = 60 then c.nano + nanosPerSecond else c.nano
    let clock : Int := c.hour * 3600 + c.minute * 60 + second
    match Instant.of? ((d.dayNumber - Instant.epochDay) * 86400 + clock - offset) nano with
    | some t => .ok t
    | none => .error .impossible

def Instant.ofChars (cs : List Char) : Except TextFault Instant := do
  let (date, cs) ← readDate cs
  let cs ← readSeparator cs
  let (clock, cs) ← readClock cs
  let (offset, cs) ← readOffset cs
  if (Text.trimStart cs).isEmpty then Instant.ofLocal date clock offset else .error .tooLong

def Instant.parse (text : String) : Except TextFault Instant := Instant.ofChars text.toList

end AppHost.Calendar
