import AppHost.Calendar.Instant

/-!
Each day number is that of one valid date. The dates of the representable points of time lie in the
years from -262143 to 262142.
-/

set_option autoImplicit false
namespace AppHost.Calendar

namespace Date

/-! ### Years that begin in March -/

theorem daysBeforeYear_yearOfDay (n : Int) :
    daysBeforeYear (yearOfDay n) ≤ n ∧ n < daysBeforeYear (yearOfDay n + 1) := by
  unfold yearOfDay daysBeforeYear
  dsimp only
  split
  · omega
  · split <;> omega

/-- A year that begins in March ends with the leap day of the calendar year after it. -/
theorem daysBeforeYear_succ (year : Int) :
    daysBeforeYear (year + 1) =
      daysBeforeYear year + if isLeap (year + 1) then 366 else 365 := by
  unfold daysBeforeYear isLeap
  split
  · rename_i leap
    simp only [Bool.or_eq_true, Bool.and_eq_true, decide_eq_true_eq] at leap
    omega
  · rename_i common
    simp only [Bool.or_eq_true, Bool.and_eq_true, decide_eq_true_eq] at common
    omega

theorem daysBeforeYear_le {first second : Int} (before : first ≤ second) :
    daysBeforeYear first ≤ daysBeforeYear second := by
  unfold daysBeforeYear
  omega

/-- The date on a day of a month, both counted from 0, the month from March. -/
def ofMarch (year : Int) (month day : Nat) : Date :=
  ⟨if month < 10 then year else year + 1, if month < 10 then month + 3 else month - 9, day + 1⟩

theorem dayNumber_ofMarch (year : Int) {month : Nat} (inside : month < 12) (day : Nat) :
    (ofMarch year month day).dayNumber =
      daysBeforeYear year + ((daysBeforeMonth month + day : Nat) : Int) := by
  have whole : (ofMarch year month day).marchYear = year ∧
      (ofMarch year month day).marchMonth = month := by
    unfold ofMarch marchYear marchMonth
    dsimp only
    split <;> split <;> omega
  rw [dayNumber, whole.1, whole.2]
  simp only [ofMarch]
  omega

-- February is left out: its length is what remains of the year.
theorem daysBeforeMonth_succ (year : Int) (day : Nat) : ∀ {month : Nat}, month < 11 →
    daysBeforeMonth (month + 1) = daysBeforeMonth month +
      monthLength (ofMarch year month day).year (ofMarch year month day).month
  | 0, _ | 1, _ | 2, _ | 3, _ | 4, _ | 5, _ | 6, _ | 7, _ | 8, _ | 9, _ | 10, _ => rfl

theorem isValid_ofMarch {year : Int} {month day : Nat} (inside : month < 12)
    (inMonth : daysBeforeMonth month + day < daysBeforeMonth (month + 1))
    (inYear : daysBeforeMonth month + day < if isLeap (year + 1) then 366 else 365) :
    (ofMarch year month day).IsValid := by
  refine ⟨Nat.succ_pos day, ?_⟩
  show day + 1 ≤ monthLength _ _
  by_cases early : month < 11
  · rw [daysBeforeMonth_succ year day early] at inMonth
    omega
  · obtain rfl : month = 11 := by omega
    show day + 1 ≤ if isLeap (year + 1) then 29 else 28
    unfold daysBeforeMonth at inYear
    by_cases leap : isLeap (year + 1)
    · rw [if_pos leap] at inYear ⊢
      omega
    · rw [if_neg leap] at inYear ⊢
      omega

theorem exists_ofMarch (n : Int) : ∃ year : Int, ∃ month day : Nat,
    ofDayNumber n = ofMarch year month day ∧ month < 12 ∧
      n = daysBeforeYear year + ((daysBeforeMonth month + day : Nat) : Int) ∧
      daysBeforeMonth month + day < daysBeforeMonth (month + 1) ∧
      daysBeforeMonth month + day < if isLeap (year + 1) then 366 else 365 := by
  obtain ⟨started, ended⟩ := daysBeforeYear_yearOfDay n
  rw [daysBeforeYear_succ] at ended
  unfold ofDayNumber
  generalize yearOfDay n = year at *
  obtain ⟨inYear, rfl⟩ : ∃ inYear : Nat, n = daysBeforeYear year + inYear :=
    ⟨(n - daysBeforeYear year).toNat, by omega⟩
  have place : (daysBeforeYear year + (inYear : Int) - daysBeforeYear year).toNat = inYear := by
    omega
  have short : inYear < if isLeap (year + 1) then 366 else 365 := by
    split at ended <;> split <;> omega
  have most : inYear < 366 := by
    split at short <;> omega
  have started : daysBeforeMonth ((5 * inYear + 2) / 153) +
      (inYear - daysBeforeMonth ((5 * inYear + 2) / 153)) = inYear := by
    unfold daysBeforeMonth
    omega
  simp only [place]
  refine ⟨year, (5 * inYear + 2) / 153, inYear - daysBeforeMonth ((5 * inYear + 2) / 153),
    ?_, ?_, ?_, ?_, ?_⟩
  · unfold ofMarch
    split <;> rfl
  · omega
  · rw [started]
  · rw [started]
    unfold daysBeforeMonth
    omega
  · rwa [started]

/-! ### Days -/

theorem dayNumber_ofDayNumber (n : Int) : (ofDayNumber n).dayNumber = n := by
  obtain ⟨year, month, day, date, inside, rfl, -, -⟩ := exists_ofMarch n
  rw [date, dayNumber_ofMarch year inside]

theorem isValid_ofDayNumber (n : Int) : (ofDayNumber n).IsValid := by
  obtain ⟨year, month, day, date, inside, -, inMonth, inYear⟩ := exists_ofMarch n
  rw [date]
  exact isValid_ofMarch inside inMonth inYear

theorem month_ofDayNumber (n : Int) : 1 ≤ (ofDayNumber n).month ∧ (ofDayNumber n).month ≤ 12 := by
  obtain ⟨year, month, day, date, inside, -, -, -⟩ := exists_ofMarch n
  rw [date, ofMarch]
  dsimp only
  split <;> omega

theorem dayNumber_newYear (year : Int) :
    (⟨year, 1, 1⟩ : Date).dayNumber = daysBeforeYear (year - 1) + 306 := by
  have months : daysBeforeMonth 10 = 306 := by decide
  simp only [dayNumber, marchYear, marchMonth, months, Nat.reduceLeDiff, if_true, Nat.reduceAdd]
  omega

theorem year_lt_iff (n year : Int) :
    (ofDayNumber n).year < year ↔ n < (⟨year, 1, 1⟩ : Date).dayNumber := by
  obtain ⟨march, month, day, date, inside, place, inMonth, inYear⟩ := exists_ofMarch n
  rw [date, dayNumber_newYear, ofMarch]
  dsimp only
  have first : march + 1 < year → daysBeforeYear (march + 1) ≤ daysBeforeYear (year - 1) :=
    fun before => daysBeforeYear_le (by omega)
  have same : march = year - 1 → daysBeforeYear march = daysBeforeYear (year - 1) :=
    fun same => by rw [same]
  have later : year - 1 < march → daysBeforeYear (year - 1 + 1) ≤ daysBeforeYear march :=
    fun after => daysBeforeYear_le (by omega)
  rw [daysBeforeYear_succ] at first later
  unfold daysBeforeMonth at *
  rcases Int.lt_trichotomy march (year - 1) with before | here | after
  · have first := first (by omega)
    split <;> split at inYear <;> split at first <;> omega
  · have same := same here
    split <;> omega
  · have later := later after
    split <;> split at later <;> omega

/-- The bounds are the first day of the year -262143 and the last of the year 262142. -/
theorem year_ofDayNumber_iff (n : Int) :
    -262143 ≤ (ofDayNumber n).year ∧ (ofDayNumber n).year ≤ 262142 ↔
      -95745824 ≤ n ∧ n ≤ 95745704 := by
  have early := year_lt_iff n (-262143)
  have late := year_lt_iff n 262143
  rw [show (⟨-262143, 1, 1⟩ : Date).dayNumber = -95745824 by decide] at early
  rw [show (⟨262143, 1, 1⟩ : Date).dayNumber = 95745705 by decide] at late
  omega

theorem IsValid.day_le {d : Date} (valid : d.IsValid) : d.day ≤ 31 := by
  refine Nat.le_trans valid.2 ?_
  unfold monthLength
  split <;> first | decide | (split <;> decide)

end Date
end AppHost.Calendar
