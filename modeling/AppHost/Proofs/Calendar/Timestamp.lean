import AppHost.Contract.Basic

/-!
Points of time as timestamps. A timestamp has no leap seconds, so that a point of time within one is
moved into the second after it. The last second of the calendar has none after it.
-/

set_option autoImplicit false
namespace AppHost
open Calendar (Instant)

namespace Calendar.Instant

/-- As far from the epoch, but not within a leap second. -/
def folded (t : Instant) : Option Instant :=
  of? (t.second + (t.nano / nanosPerSecond : Nat)) (t.nano % nanosPerSecond)

theorem of?_eq_some {second : Int} {nano : Nat} {t : Instant} (found : of? second nano = some t) :
    t.second = second ∧ t.nano = nano := by
  unfold of? at found
  split at found
  · cases found
    exact ⟨rfl, rfl⟩
  · cases found

theorem nano_div_le (t : Instant) : t.nano / nanosPerSecond ≤ 1 := by
  obtain ⟨-, -, inside⟩ := t.representable
  unfold nanosPerSecond at inside ⊢
  omega

theorem folded_eq_none_iff (t : Instant) :
    t.folded = none ↔ t.second = lastSecond ∧ nanosPerSecond ≤ t.nano := by
  obtain ⟨first, last, inside⟩ := t.representable
  unfold folded of?
  rw [dite_eq_right_iff]
  simp only [reduceCtorEq, imp_false, Representable, firstSecond, lastSecond, nanosPerSecond] at *
  omega

theorem sinceEpoch_of_folded {t later : Instant} (folds : t.folded = some later) :
    later.sinceEpoch = t.sinceEpoch := by
  obtain ⟨second, nano⟩ := of?_eq_some folds
  simp only [sinceEpoch, second, nano, nanosPerSecond]
  omega

end Calendar.Instant

namespace Timestamp

theorem toInt_seconds_ofInstant (t : Instant) :
    (ofInstant t).seconds.toInt = t.second + (t.nano / Calendar.nanosPerSecond : Nat) := by
  obtain ⟨first, last, -⟩ := t.representable
  have carried := t.nano_div_le
  unfold Calendar.firstSecond at first
  unfold Calendar.lastSecond at last
  rw [ofInstant]
  generalize t.nano / Calendar.nanosPerSecond = carry at carried ⊢
  exact Int64.toInt_ofInt_of_le (by omega) (by omega)

theorem toInt_nanos_ofInstant (t : Instant) :
    (ofInstant t).nanos.toInt = (t.nano % Calendar.nanosPerSecond : Nat) := by
  have small : t.nano % Calendar.nanosPerSecond < Calendar.nanosPerSecond :=
    Nat.mod_lt _ (by decide)
  exact Int32.toInt_ofNat_of_lt (Nat.lt_trans small (by decide))

/-- Reading a timestamp back gives the point of time without its leap second. -/
theorem toInstant_ofInstant (t : Instant) :
    (ofInstant t).toInstant =
      match t.folded with
      | some instant => .ok instant
      | none => .error (.invalidTimestamp (ofInstant t)) := by
  have positive : ¬ (ofInstant t).nanos.toInt < 0 := by
    rw [toInt_nanos_ofInstant]
    omega
  unfold toInstant
  rw [if_neg positive, toInt_seconds_ofInstant, toInt_nanos_ofInstant]
  rfl

end Timestamp
end AppHost
