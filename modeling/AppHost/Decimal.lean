import AppHost.Power

/-!
Binary floating-point numbers as decimals: the exact value of a double, and the fewest digits that
read back as it. Among the decimals with that many digits the one nearest to the exact value is taken.
-/

set_option autoImplicit false
namespace AppHost

structure Decimal where
  digits : Nat
  exponent : Int
  deriving DecidableEq, Repr

/-- The number `mantissa · 2 ^ exponent`, with how near its neighbours are. -/
structure Binary where
  mantissa : Nat
  exponent : Int
  -- The next smaller double is only half a step away.
  afterPower : Bool
  deriving DecidableEq, Repr

namespace Binary

/-- The magnitude that the lower 63 bits of a finite double stand for. -/
def ofBits (bits : Nat) : Binary :=
  let fraction := bits % 2 ^ 52
  let biased : Nat := bits / 2 ^ 52 % 2 ^ 11
  if biased = 0 then ⟨fraction, -1074, false⟩
  else ⟨fraction + 2 ^ 52, (biased : Int) - 1075, fraction = 0 && biased ≠ 1⟩

def ratio (n : Nat) (e : Int) : Nat × Nat :=
  if 0 ≤ e then (n * 2 ^ e.toNat, 1) else (n, 2 ^ (-e).toNat)

end Binary

namespace Decimal

def digitCount (n : Nat) : Nat := if n = 0 then 0 else (Nat.toDigits 10 n).length

/-- The greatest `e` with `10 ^ e ≤ num / den`, for positive numbers. -/
def magnitude (num den : Nat) : Int :=
  if den ≤ num then (digitCount (num / den) : Int) - 1
  else -(digitCount ((den + num - 1) / num - 1) : Int)

/-- `d · 10 ^ k` compared with `num / den`, as two naturals on a common scale. -/
def onScale (d : Nat) (k : Int) (num den : Nat) : Nat × Nat :=
  if 0 ≤ k then (d * 10 ^ k.toNat * den, num) else (d * den, num * 10 ^ (-k).toNat)

/-- The decimals that round to a double: between the midpoints to its neighbours, with the midpoints
themselves exactly when the mantissa is even. -/
def readsAs (b : Binary) (c : Decimal) : Bool :=
  let below := 4 * b.mantissa - (if b.afterPower then 1 else 2)
  let above := 4 * b.mantissa + 2
  let (lowNum, den) := Binary.ratio below (b.exponent - 2)
  let (highNum, _) := Binary.ratio above (b.exponent - 2)
  let (x, low) := onScale c.digits c.exponent lowNum den
  let (y, high) := onScale c.digits c.exponent highNum den
  if b.mantissa % 2 = 0 then decide (low ≤ x ∧ y ≤ high) else decide (low < x ∧ y < high)

/-- The nearest decimal on the grid of `10 ^ k` that reads back, if one does. -/
def onGrid? (b : Binary) (k : Int) : Option Decimal :=
  let (num, den) := Binary.ratio b.mantissa b.exponent
  let (n, d) := if 0 ≤ k then (num, den * 10 ^ k.toNat) else (num * 10 ^ (-k).toNat, den)
  let below : Decimal := ⟨n / d, k⟩
  let above : Decimal := ⟨n / d + 1, k⟩
  match readsAs b below, readsAs b above with
  | true, true => if 2 * (n % d) < d ∨ (2 * (n % d) = d ∧ n / d % 2 = 0) then some below else some above
  | true, false => some below
  | false, true => some above
  | false, false => none

/-- Tries ever finer grids; seventeen digits always suffice. -/
def search (b : Binary) (magnitude : Int) : Nat → Nat → Decimal
  | 0, _ => ⟨0, 0⟩
  | fuel + 1, count =>
    match onGrid? b (magnitude - count + 1) with
    | some c => c
    | none => search b magnitude fuel (count + 1)

def trim : Nat → Decimal → Decimal
  | 0, c => c
  | fuel + 1, c =>
    if c.digits ≠ 0 ∧ c.digits % 10 = 0 then trim fuel ⟨c.digits / 10, c.exponent + 1⟩ else c

def shortest (b : Binary) : Decimal :=
  let (num, den) := Binary.ratio b.mantissa b.exponent
  trim 20 (search b (magnitude num den) 17 1)

def leading (c : Decimal) : Int := c.exponent + digitCount c.digits - 1

def digitChars (n : Nat) : List Char := Nat.toDigits 10 n

def positional (c : Decimal) (pointZero : List Char) : List Char :=
  let ds := digitChars c.digits
  if 0 ≤ c.exponent then ds ++ List.replicate c.exponent.toNat '0' ++ pointZero
  else
    let places := (-c.exponent).toNat
    if places < ds.length then ds.take (ds.length - places) ++ '.' :: ds.drop (ds.length - places)
    else '0' :: '.' :: List.replicate (places - ds.length) '0' ++ ds

def scientific (c : Decimal) (writeExponent : Int → List Char) : List Char :=
  match digitChars c.digits with
  | [] => []
  | d :: [] => d :: 'e' :: writeExponent c.leading
  | d :: rest => d :: '.' :: rest ++ 'e' :: writeExponent c.leading

/-- The nearest double. Magnitudes far outside the range of doubles are settled by their exponent. -/
def toFloat (c : Decimal) : Float :=
  let top := c.exponent + digitCount c.digits
  if c.digits = 0 ∨ top < -400 then 0.0
  else if 400 < top then 1.0 / 0.0
  else if 0 ≤ c.exponent then Float.ofScientific c.digits false c.exponent.toNat
  else Float.ofScientific c.digits true (-c.exponent).toNat

/-- The number that digits stand for, the first `fraction` of them from the right after the point. -/
def ofDigits (digits : List Char) (fraction : Nat) (exponent : Int) : Decimal :=
  ⟨digits.foldl (fun n d => n * 10 + (d.toNat - 48)) 0, exponent - fraction⟩

end Decimal

inductive Real64
  | nan
  | infinite (negative : Bool)
  | zero (negative : Bool)
  | finite (negative : Bool) (magnitude : Decimal)
  deriving DecidableEq, Repr

def Real64.ofFloat (x : Float) : Real64 :=
  let bits := x.toBits.toNat
  let negative := bits / 2 ^ 63 = 1
  let rest := bits % 2 ^ 63
  if rest = 0 then .zero negative
  else if rest = 2047 * 2 ^ 52 then .infinite negative
  else if rest > 2047 * 2 ^ 52 then .nan
  else .finite negative (Decimal.shortest (Binary.ofBits rest))

def signChars (negative : Bool) : List Char := if negative then ['-'] else []

end AppHost
