import AppHost.Calendar.Date

/-!
Points of UTC time with nanoseconds. The last second of a minute may be followed by a leap second,
which is written as that second with 10^9 nanoseconds or more.
-/

set_option autoImplicit false
namespace AppHost.Calendar

/-- The first second of the year -262143, counted from the start of 1970. -/
def firstSecond : Int := -8334601228800

def lastSecond : Int := 8210266876799

def nanosPerSecond : Nat := 1000000000

def Representable (second : Int) (nano : Nat) : Prop :=
  firstSecond ≤ second ∧ second ≤ lastSecond ∧
    (nano < nanosPerSecond ∨ (nano < 2 * nanosPerSecond ∧ second % 60 = 59))

instance (second : Int) (nano : Nat) : Decidable (Representable second nano) :=
  inferInstanceAs (Decidable (_ ∧ _ ∧ _))

structure Instant where
  second : Int
  nano : Nat
  representable : Representable second nano
  deriving DecidableEq

namespace Instant

def of? (second : Int) (nano : Nat) : Option Instant :=
  if h : Representable second nano then some ⟨second, nano, h⟩ else none

/-- Nanoseconds since the start of 1970, a leap second running into the second after it. -/
def sinceEpoch (t : Instant) : Int := t.second * nanosPerSecond + t.nano

def epochDay : Int := 719468

def date (t : Instant) : Date := Date.ofDayNumber (t.second / 86400 + epochDay)

def secondOfDay (t : Instant) : Nat := (t.second % 86400).toNat

end Instant
end AppHost.Calendar
