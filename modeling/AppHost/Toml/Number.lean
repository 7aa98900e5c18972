import AppHost.Decimal
import AppHost.Toml.Text
import AppHost.Toml.Value

/-!
Numbers, dates and times. Underscores may stand between digits; whole numbers have 64 bits; dates
must exist. A number too great for a double is refused, unless it is negative.
-/

set_option autoImplicit false
namespace AppHost.Toml

/-! ### Numbers -/

/-- Digits with single underscores between them, the first of them already checked. -/
def digitRun (isDigit : Char → Bool) : List Char → List Char × List Char
  | [] => ([], [])
  | '_' :: d :: rest =>
    if isDigit d then
      let (ds, rest) := digitRun isDigit rest
      (d :: ds, rest)
    else ([], '_' :: d :: rest)
  | c :: rest =>
    if isDigit c then
      let (ds, rest) := digitRun isDigit rest
      (c :: ds, rest)
    else ([], c :: rest)

def digits? (isDigit : Char → Bool) : List Char → Option (List Char × List Char)
  | c :: rest =>
    if isDigit c then
      let (ds, rest) := digitRun isDigit rest
      some (c :: ds, rest)
    else none
  | [] => none

def sign (cs : List Char) : Bool × List Char :=
  match cs with
  | '-' :: rest => (true, rest)
  | '+' :: rest => (false, rest)
  | cs => (false, cs)

def wholeDigits? (cs : List Char) : Option (List Char × List Char) :=
  match cs with
  | '0' :: rest => some (['0'], rest)
  | cs => digits? Char.isDigit cs

def inBase (base : Nat) (digits : List Char) : Nat :=
  digits.foldl (fun n d => n * base + (Json.hexValue? d).getD 0) 0

def isOctal (c : Char) : Bool := decide ('0' ≤ c) && decide (c ≤ '7')

def isBinary (c : Char) : Bool := c == '0' || c == '1'

def integer? (cs : List Char) : Option (Int × List Char) := do
  let (n, rest) ←
    match cs with
    | '0' :: 'x' :: rest =>
      (digits? (fun c => (Json.hexValue? c).isSome) rest).map
        fun (ds, rest) => ((inBase 16 ds : Int), rest)
    | '0' :: 'o' :: rest =>
      (digits? isOctal rest).map fun (ds, rest) => ((inBase 8 ds : Int), rest)
    | '0' :: 'b' :: rest =>
      (digits? isBinary rest).map fun (ds, rest) => ((inBase 2 ds : Int), rest)
    | cs => do
      let (negative, cs) := sign cs
      let (ds, rest) ← wholeDigits? cs
      let n : Int := inBase 10 ds
      pure (if negative then -n else n, rest)
  if -(2 ^ 63) ≤ n ∧ n < 2 ^ 63 then return (n, rest) else none

def exponent? (cs : List Char) : Option (Int × List Char) := do
  match cs with
  | c :: rest =>
    if c = 'e' ∨ c = 'E' then
      let (negative, rest) := sign rest
      let (ds, rest) ← digits? Char.isDigit rest
      let n : Int := inBase 10 ds
      return (if negative then -n else n, rest)
    else none
  | [] => none

def specialFloat? (cs : List Char) : Option (Float × List Char) :=
  match cs with
  | 'i' :: 'n' :: 'f' :: rest => some (1.0 / 0.0, rest)
  | 'n' :: 'a' :: 'n' :: rest => some (0.0 / 0.0, rest)
  | _ => none

def fractional? (cs : List Char) : Option (Decimal × List Char) := do
  let (whole, rest) ← wholeDigits? cs
  match rest with
  | '.' :: rest => do
    let (fraction, rest) ← digits? Char.isDigit rest
    match exponent? rest with
    | some (e, rest) => return (Decimal.ofDigits (whole ++ fraction) fraction.length e, rest)
    | none => return (Decimal.ofDigits (whole ++ fraction) fraction.length 0, rest)
  | rest => do
    let (e, rest) ← exponent? rest
    return (Decimal.ofDigits whole 0 e, rest)

def float? (cs : List Char) : Option (Float × List Char) := do
  let (negative, cs) := sign cs
  match fractional? cs with
  | some (d, rest) =>
    let x := d.toFloat
    if x.isInf && !negative then none else return (if negative then -x else x, rest)
  | none => do
    let (x, rest) ← specialFloat? cs
    return (if negative then -x else x, rest)

/-! ### Dates and times -/

def figures? (count low high : Nat) (cs : List Char) : Option (Nat × List Char) :=
  let ds := cs.take count
  let n := inBase 10 ds
  if ds.length = count ∧ ds.all Char.isDigit ∧ low ≤ n ∧ n ≤ high then some (n, cs.drop count)
  else none

def mark? (mark : Char) : List Char → Option (List Char)
  | c :: rest => if c = mark then some rest else none
  | [] => none

def date? (cs : List Char) : Option (List Char × List Char) := do
  let (year, cs) ← figures? 4 0 9999 cs
  let cs ← mark? '-' cs
  let (month, cs) ← figures? 2 1 12 cs
  let cs ← mark? '-' cs
  let (day, cs) ← figures? 2 1 31 cs
  let d : Calendar.Date := ⟨year, month, day⟩
  if d.IsValid then return (Calendar.dateChars d, cs) else none

/-- Nine digits of a fraction count; trailing zeros are not written. -/
def fractionText (digits : List Char) : List Char :=
  let kept := ((digits.take 9).reverse.dropWhile (· == '0')).reverse
  if kept.isEmpty then [] else '.' :: kept

def time? (cs : List Char) : Option (List Char × List Char) := do
  let (hour, cs) ← figures? 2 0 23 cs
  let cs ← mark? ':' cs
  let (minute, cs) ← figures? 2 0 59 cs
  let cs ← mark? ':' cs
  let (second, cs) ← figures? 2 0 60 cs
  let whole := Calendar.padded 2 hour ++ ':' :: Calendar.padded 2 minute ++
    ':' :: Calendar.padded 2 second
  match cs with
  | '.' :: d :: rest =>
    if d.isDigit then
      let ds := d :: rest.takeWhile Char.isDigit
      return (whole ++ fractionText ds, rest.dropWhile Char.isDigit)
    else return (whole, cs)
  | cs => return (whole, cs)

/-- An offset from UTC; a negative one of zero is written as a positive one. -/
def offset? (cs : List Char) : Option (List Char × List Char) := do
  match cs with
  | c :: rest =>
    if c = 'Z' ∨ c = 'z' then return (['Z'], rest)
    else if c = '+' ∨ c = '-' then do
      let (hour, rest) ← figures? 2 0 23 rest
      let rest ← mark? ':' rest
      let (minute, rest) ← figures? 2 0 59 rest
      let sign := if c = '-' ∧ (hour ≠ 0 ∨ minute ≠ 0) then '-' else '+'
      return (sign :: Calendar.padded 2 hour ++ ':' :: Calendar.padded 2 minute, rest)
    else none
  | [] => none

def timeAfterDate? (cs : List Char) : Option (List Char × List Char) := do
  match cs with
  | c :: rest =>
    if c = 'T' ∨ c = 't' ∨ c = ' ' then do
      let (time, rest) ← time? rest
      match offset? rest with
      | some (offset, rest) => return ('T' :: time ++ offset, rest)
      | none => return ('T' :: time, rest)
    else none
  | [] => none

def datetime? (cs : List Char) : Option (String × List Char) :=
  match date? cs with
  | some (date, rest) =>
    match timeAfterDate? rest with
    | some (time, rest) => some (String.ofList (date ++ time), rest)
    | none => some (String.ofList date, rest)
  | none => (time? cs).map fun (time, rest) => (String.ofList time, rest)

end AppHost.Toml
