import AppHost.Decimal

/-! Numbers as settings and documents write them in plain text: whole numbers with an optional sign,
and numbers with a point, an exponent, or one of the words for infinity and what is no number. -/

set_option autoImplicit false
namespace AppHost.Numeral

def sign (cs : List Char) : Bool × List Char :=
  match cs with
  | '-' :: rest => (true, rest)
  | '+' :: rest => (false, rest)
  | cs => (false, cs)

def digits? (cs : List Char) : Option Nat :=
  if !cs.isEmpty ∧ cs.all Char.isDigit then some (Decimal.ofDigits cs 0 0).digits else none

def whole? (cs : List Char) : Option Int :=
  let (negative, cs) := sign cs
  (digits? cs).map fun n => if negative then -(n : Int) else n

def integer? (cs : List Char) : Option Int :=
  (whole? cs).filter fun n => -(2 ^ 63) ≤ n ∧ n < 2 ^ 63

def natural? (cs : List Char) : Option Nat :=
  let cs := match cs with
    | '+' :: rest => rest
    | cs => cs
  (digits? cs).filter (· < 2 ^ 64)

/-- Digits, at least one of them, around an optional point, and an optional exponent. -/
def decimal? (cs : List Char) : Option Decimal := do
  let whole := cs.takeWhile Char.isDigit
  let (fraction, rest) := match cs.dropWhile Char.isDigit with
    | '.' :: rest => (rest.takeWhile Char.isDigit, rest.dropWhile Char.isDigit)
    | rest => ([], rest)
  if whole.isEmpty && fraction.isEmpty then none
  let exponent ← match rest with
    | [] => some 0
    | c :: rest => if c = 'e' ∨ c = 'E' then whole? rest else none
  return Decimal.ofDigits (whole ++ fraction) fraction.length exponent

def magnitude? (cs : List Char) : Option Float :=
  let word := String.ofList (cs.map Char.toLower)
  if word = "inf" ∨ word = "infinity" then some (1.0 / 0.0)
  else if word = "nan" then some (0.0 / 0.0)
  else (decimal? cs).map Decimal.toFloat

def float? (cs : List Char) : Option Float :=
  let (negative, cs) := sign cs
  (magnitude? cs).map fun x => if negative then -x else x

end AppHost.Numeral
