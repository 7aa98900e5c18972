/-!
The Gregorian calendar, extended without end in both directions. Days are numbered so that day 0 is
the first of March of the year 0; a year here runs from March to February, which puts the leap day
at its end.
-/

set_option autoImplicit false
namespace AppHost.Calendar

structure Date where
  year : Int
  month : Nat
  day : Nat
  deriving DecidableEq, Repr

def isLeap (year : Int) : Bool :=
  (year % 4 = 0 && year % 100 ≠ 0) || year % 400 = 0

def monthLength (year : Int) : Nat → Nat
  | 1 => 31
  | 2 => if isLeap year then 29 else 28
  | 3 => 31
  | 4 => 30
  | 5 => 31
  | 6 => 30
  | 7 => 31
  | 8 => 31
  | 9 => 30
  | 10 => 31
  | 11 => 30
  | 12 => 31
  | _ => 0

namespace Date

def IsValid (d : Date) : Prop := 1 ≤ d.day ∧ d.day ≤ monthLength d.year d.month

instance (d : Date) : Decidable d.IsValid := inferInstanceAs (Decidable (_ ∧ _))

/-- Days before a year that begins in March. -/
def daysBeforeYear (year : Int) : Int := 365 * year + year / 4 - year / 100 + year / 400

/-- Days of a March year before its month, counted from March as 0. -/
def daysBeforeMonth (month : Nat) : Nat := (153 * month + 2) / 5

def marchYear (d : Date) : Int := if d.month ≤ 2 then d.year - 1 else d.year

def marchMonth (d : Date) : Nat := if d.month ≤ 2 then d.month + 9 else d.month - 3

def dayNumber (d : Date) : Int :=
  daysBeforeYear d.marchYear + (daysBeforeMonth d.marchMonth : Int) + (d.day : Int) - 1

/-- The March year in which a day falls: an estimate by the mean year, off by at most one. -/
def yearOfDay (n : Int) : Int :=
  let guess := n * 400 / 146097
  if n < daysBeforeYear guess then guess - 1
  else if daysBeforeYear (guess + 1) ≤ n then guess + 1
  else guess

def ofDayNumber (n : Int) : Date :=
  let year := yearOfDay n
  let inYear := (n - daysBeforeYear year).toNat
  let month := (5 * inYear + 2) / 153
  let day := inYear - daysBeforeMonth month + 1
  if month < 10 then ⟨year, month + 3, day⟩ else ⟨year + 1, month - 9, day⟩

end Date
end AppHost.Calendar
