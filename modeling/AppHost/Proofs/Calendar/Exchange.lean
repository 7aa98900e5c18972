import AppHost.Proofs.Calendar.Days
import AppHost.Proofs.Wire.Conversion

/-!
Timestamps of any size, taken for points of time and given back. The calendar ends on both sides, and
a timestamp may name a second twice, once as a leap second; what is given back names it once.
-/

set_option autoImplicit false
namespace AppHost
open Calendar (Date Instant Representable firstSecond lastSecond nanosPerSecond)

namespace Timestamp

def year (t : Timestamp) : Int :=
  (Date.ofDayNumber (t.seconds.toInt / 86400 + Instant.epochDay)).year

def sinceEpoch (t : Timestamp) : Int := t.seconds.toInt * nanosPerSecond + t.nanos.toInt

theorem year_inRange_iff (t : Timestamp) :
    -262143 ≤ t.year ∧ t.year ≤ 262142 ↔
      firstSecond ≤ t.seconds.toInt ∧ t.seconds.toInt ≤ lastSecond := by
  unfold year
  rw [Date.year_ofDayNumber_iff]
  unfold firstSecond lastSecond Instant.epochDay
  omega

theorem inRange_iff (t : Timestamp) :
    t.InRange ↔ (-262143 ≤ t.year ∧ t.year ≤ 262142) ∧
      (0 ≤ t.nanos.toInt ∧ t.nanos.toInt < 1000000000 ∨
        1000000000 ≤ t.nanos.toInt ∧ t.nanos.toInt < 2000000000 ∧ t.seconds.toInt % 60 = 59) := by
  rw [year_inRange_iff]
  unfold InRange Representable nanosPerSecond
  omega

theorem toInstant_iff_inRange (t : Timestamp) :
    (∃ instant, t.toInstant = .ok instant) ↔ t.InRange := by
  constructor
  · rintro ⟨instant, taken⟩
    refine Decidable.not_not.1 fun outside => ?_
    rw [toInstant_of_not_inRange outside] at taken
    cases taken
  · intro inRange
    obtain ⟨instant, taken, -⟩ := toInstant_of_inRange inRange
    exact ⟨instant, taken⟩

theorem toInstant_eq_ok {t : Timestamp} {instant : Instant} (taken : t.toInstant = .ok instant) :
    instant.second = t.seconds.toInt ∧ (instant.nano : Int) = t.nanos.toInt := by
  unfold toInstant at taken
  split at taken
  · cases taken
  · rename_i positive
    split at taken
    · rename_i found
      cases taken
      obtain ⟨second, nano⟩ := Instant.of?_eq_some found
      exact ⟨second, by omega⟩
    · cases taken

/-- A timestamp is taken for a point of time exactly if its second lies in a year of the calendar and
its nanoseconds in that second or in a leap second after the last second of a minute, and otherwise it
is refused as it is. What is given back for the point of time fits into a timestamp, is as far from the
epoch, has less than a second of nanoseconds, and is the same timestamp if that one had so too. -/
theorem exchange (t : Timestamp) :
    ((∃ instant, t.toInstant = .ok instant) ↔
      (-262143 ≤ t.year ∧ t.year ≤ 262142) ∧
        (0 ≤ t.nanos.toInt ∧ t.nanos.toInt < 1000000000 ∨
          1000000000 ≤ t.nanos.toInt ∧ t.nanos.toInt < 2000000000 ∧ t.seconds.toInt % 60 = 59)) ∧
    ((∃ instant, t.toInstant = .ok instant) ∨ t.toInstant = .error (.invalidTimestamp t)) ∧
    ∀ instant, t.toInstant = .ok instant →
      let back := ofInstant instant
      (instant.second = t.seconds.toInt ∧ (instant.nano : Int) = t.nanos.toInt) ∧
      (back.seconds.toInt = instant.second + (instant.nano / 1000000000 : Nat) ∧
        back.nanos.toInt = (instant.nano % 1000000000 : Nat)) ∧
      (0 ≤ back.nanos.toInt ∧ back.nanos.toInt < 1000000000) ∧
      back.sinceEpoch = t.sinceEpoch ∧
      (t.nanos.toInt < 1000000000 → back = t) := by
  refine ⟨(toInstant_iff_inRange t).trans (inRange_iff t), ?_, fun instant taken => ?_⟩
  · by_cases inRange : t.InRange
    · exact .inl ((toInstant_iff_inRange t).2 inRange)
    · exact .inr (toInstant_of_not_inRange inRange)
  · obtain ⟨second, nano⟩ := toInstant_eq_ok taken
    have seconds : (ofInstant instant).seconds.toInt = _ := toInt_seconds_ofInstant instant
    have nanos : (ofInstant instant).nanos.toInt = _ := toInt_nanos_ofInstant instant
    unfold nanosPerSecond at seconds nanos
    refine ⟨⟨second, nano⟩, ⟨seconds, nanos⟩, by omega, ?_, fun small => ?_⟩
    · unfold sinceEpoch nanosPerSecond
      omega
    · obtain ⟨other, same, canonical⟩ :=
        toInstant_of_inRange ((toInstant_iff_inRange t).1 ⟨instant, taken⟩)
      cases taken.symm.trans same
      exact canonical.trans (if_pos small)

-- The leap second before the epoch is given back as the first second after it.
theorem exchange_of_leap_second :
    let t : Timestamp := ⟨-1, 1500000000⟩
    let instant : Instant := ⟨-1, 1500000000, by decide⟩
    t.toInstant = .ok instant ∧ (ofInstant instant).sinceEpoch = t.sinceEpoch ∧
      ofInstant instant = ⟨0, 500000000⟩ := by
  intro t instant
  have taken : t.toInstant = .ok instant := by rfl
  exact ⟨taken, ((exchange t).2.2 instant taken).2.2.2.1, by decide⟩

end Timestamp
end AppHost
