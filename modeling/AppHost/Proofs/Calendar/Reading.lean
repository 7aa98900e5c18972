import AppHost.Calendar.Rfc3339
import AppHost.Proofs.Calendar.Days
import AppHost.Proofs.Text.Digits

/-!
The RFC 3339 text of a point of time is read back as that point: years of any sign, all fractions,
and leap seconds.
-/

set_option autoImplicit false
namespace AppHost.Calendar

open Text (EndsDigits endsDigits_cons)

/-! ### Padded numbers -/

theorem isDigit_of_mem_padded {width n : Nat} {c : Char} (member : c ∈ padded width n) :
    c.isDigit = true := by
  rcases List.mem_append.1 member with zero | digit
  · rw [List.eq_of_mem_replicate zero]
    rfl
  · exact Text.isDigit_of_mem_toDigits digit

theorem exists_padded_cons (width n : Nat) : ∃ c digits, padded width n = c :: digits :=
  List.exists_cons_of_ne_nil (List.append_ne_nil_of_right_ne_nil _ Nat.toDigits_ne_nil)

theorem length_padded {width n : Nat} (positive : 0 < width) (small : n < 10 ^ width) :
    (padded width n).length = width := by
  have short := (Nat.length_toDigits_le_iff (by decide) positive).2 small
  rw [padded, List.length_append, List.length_replicate]
  omega

theorem digitsValue_eq (digits : List Char) :
    digitsValue digits = Nat.ofDigitChars 10 digits 0 := by
  have step : (fun (n : Nat) (d : Char) => n * 10 + (d.toNat - 48)) =
      fun n d => 10 * n + (d.toNat - '0'.toNat) := by
    funext n d
    rw [Nat.mul_comm]
    rfl
  rw [digitsValue, step, Nat.ofDigitChars_eq_foldl]

theorem digitsValue_padded (width n : Nat) : digitsValue (padded width n) = n := by
  rw [digitsValue_eq, padded, Nat.ofDigitChars_append, Nat.ofDigitChars_replicate_zero,
    Nat.mul_zero, Nat.ofDigitChars_ten_toDigits]

theorem readDigits_padded (width : Nat) {n : Nat} (small : n < 2 ^ 63) (rest : List Char) :
    readDigits (padded width n) rest = .ok (n, rest) := by
  obtain ⟨c, digits, shape⟩ := exists_padded_cons width n
  have given : (padded width n).isEmpty = false := by
    rw [shape]
    rfl
  rw [readDigits, given, digitsValue_padded, if_pos small]
  rfl

theorem readAll_padded (width : Nat) {n : Nat} (small : n < 2 ^ 63) {rest : List Char}
    (ends : EndsDigits rest) : readAll (padded width n ++ rest) = .ok (n, rest) := by
  have all : ∀ c ∈ padded width n, c.isDigit = true := fun _ => isDigit_of_mem_padded
  rw [readAll, Text.takeWhile_digits all ends, Text.dropWhile_digits all ends,
    readDigits_padded width small]

theorem readUpTo_padded {most width n : Nat} (positive : 0 < width) (fits : width ≤ most)
    (small : n < 10 ^ width) (word : n < 2 ^ 63) {rest : List Char} (ends : EndsDigits rest) :
    readUpTo most (padded width n ++ rest) = .ok (n, rest) := by
  have all : ∀ c ∈ padded width n, c.isDigit = true := fun _ => isDigit_of_mem_padded
  have length := length_padded positive small
  have cut : EndsDigits (rest.take (most - width)) := by
    intro c member
    rw [List.head?_take] at member
    split at member
    · cases member
    · exact ends c member
  have taken : ((padded width n ++ rest).take most).takeWhile Char.isDigit = padded width n := by
    rw [List.take_append, length, List.take_of_length_le (by omega), Text.takeWhile_digits all cut]
  simp only [readUpTo, taken, List.drop_left, readDigits_padded width word]

/-! ### Parts of a text -/

theorem isBlank_of_isDigit {c : Char} (digit : c.isDigit = true) : Text.isBlank c = false := by
  obtain ⟨low, high⟩ : 48 ≤ c.toNat ∧ c.toNat ≤ 57 := by
    simpa [Char.isDigit, UInt32.le_iff_toNat_le] using digit
  have passed : ¬c.toNat ≤ 0x0D ∧ ¬c.toNat ≤ 0x20 ∧ c.toNat ≤ 0x85 ∧ ¬0x85 ≤ c.toNat := by omega
  simp only [Text.isBlank, Text.blankRanges, Text.inRanges, passed, ↓reduceIte, decide_false]

theorem trimStart_cons {c : Char} (plain : Text.isBlank c = false) (rest : List Char) :
    Text.trimStart (c :: rest) = c :: rest := by
  rw [Text.trimStart, List.dropWhile_cons_of_neg (by simp [plain])]

theorem trimStart_padded (width n : Nat) (rest : List Char) :
    Text.trimStart (padded width n ++ rest) = padded width n ++ rest := by
  obtain ⟨c, digits, shape⟩ := exists_padded_cons width n
  have digit : c.isDigit = true := isDigit_of_mem_padded (by rw [shape]; exact List.mem_cons_self)
  rw [shape]
  exact trimStart_cons (isBlank_of_isDigit digit) _

theorem readField_padded {low high n : Nat} (above : low ≤ n) (below : n ≤ high) (small : n < 100)
    {rest : List Char} (ends : EndsDigits rest) :
    readField low high (padded 2 n ++ rest) = .ok (n, rest) := by
  have read : readUpTo 2 (padded 2 n ++ rest) = .ok (n, rest) :=
    readUpTo_padded (by decide) (Nat.le_refl 2) small (Nat.lt_trans small (by decide)) ends
  rw [readField, trimStart_padded, read]
  exact if_pos ⟨above, below⟩

theorem readMark_cons {mark : Char} (plain : Text.isBlank mark = false) (rest : List Char) :
    readMark mark (mark :: rest) = .ok rest := by
  simp only [readMark, trimStart_cons plain, ↓reduceIte]

-- The rest of `readYear` is kept as a variable here: with a cast in its place the kernel would
-- count down from the bounds of a year.
theorem bind_value {α : Type} {read : Except TextFault (Nat × List Char)} {n : Nat}
    {rest : List Char} (taken : read = .ok (n, rest)) (value : Nat → Int)
    (next : Int × List Char → Except TextFault α) :
    (do let (n, rest) ← read
        let r ← pure (value n, rest)
        next r) = next (value n, rest) := by
  rw [taken]
  rfl

section
variable {year : Int} (low : -262143 ≤ year) (high : year ≤ 262142) {rest : List Char}
include low high

theorem readYear_of_sign (ends : EndsDigits rest) :
    readYear ((if year < 0 then '-' else '+') :: padded 4 year.natAbs ++ rest) =
      .ok (year, rest) := by
  have inRange : -(2 ^ 31) ≤ year ∧ year < 2 ^ 31 := by omega
  have taken := readAll_padded 4 (show year.natAbs < 2 ^ 63 by omega) ends
  split
  · rename_i negative
    have back : -(year.natAbs : Int) = year := by omega
    rw [List.cons_append, readYear, trimStart_cons rfl]
    refine (bind_value taken (fun n => -(n : Int)) _).trans ?_
    rw [back]
    exact if_pos inRange
  · rename_i positive
    have back : (year.natAbs : Int) = year := by omega
    rw [List.cons_append, readYear, trimStart_cons rfl]
    refine (bind_value taken (fun n => (n : Int)) _).trans ?_
    rw [back]
    exact if_pos inRange

theorem readYear_of_digits (short : 0 ≤ year ∧ year ≤ 9999) (ends : EndsDigits rest) :
    readYear (padded 4 year.toNat ++ rest) = .ok (year, rest) := by
  have inRange : -(2 ^ 31) ≤ year ∧ year < 2 ^ 31 := by omega
  have back : (year.toNat : Int) = year := by omega
  have taken : readUpTo 4 (padded 4 year.toNat ++ rest) = .ok (year.toNat, rest) :=
    readUpTo_padded (by decide) (Nat.le_refl 4) (by omega) (by omega) ends
  have unsigned {c : Char} (sign : c.isDigit = false) (cs : List Char) :
      padded 4 year.toNat ++ rest ≠ c :: cs := by
    obtain ⟨d, digits, shape⟩ := exists_padded_cons 4 year.toNat
    have digit : d.isDigit = true :=
      isDigit_of_mem_padded (by rw [shape]; exact List.mem_cons_self)
    rw [shape, List.cons_append]
    intro same
    rw [List.head_eq_of_cons_eq same, sign] at digit
    cases digit
  rw [readYear, trimStart_padded]
  split
  · rename_i minus
    exact absurd minus (unsigned rfl _)
  · rename_i plus
    exact absurd plus (unsigned rfl _)
  · refine (bind_value taken (fun n => (n : Int)) _).trans ?_
    rw [back]
    exact if_pos inRange

theorem readYear_yearChars (ends : EndsDigits rest) :
    readYear (yearChars year ++ rest) = .ok (year, rest) := by
  unfold yearChars
  split
  · rename_i short
    exact readYear_of_digits low high short ends
  · exact readYear_of_sign low high ends

end

theorem readFraction_fractionChars {nano : Nat} (small : nano < nanosPerSecond)
    (rest : List Char) :
    readFraction (fractionChars nano ++ 'Z' :: rest) = .ok (nano, 'Z' :: rest) := by
  have ends : EndsDigits ('Z' :: rest) := endsDigits_cons rfl
  have read {width n : Nat} (positive : 0 < width) (fits : width ≤ 9) (short : n < 10 ^ width) :
      readFraction ('.' :: padded width n ++ 'Z' :: rest) =
        .ok (n * 10 ^ (9 - width), 'Z' :: rest) := by
    have word : 10 ^ width ≤ 2 ^ 63 :=
      Nat.le_trans (Nat.pow_le_pow_right (by decide) fits) (by decide)
    have taken : readUpTo 9 (padded width n ++ 'Z' :: rest) = .ok (n, 'Z' :: rest) :=
      readUpTo_padded positive fits short (Nat.lt_of_lt_of_le short word) ends
    have length : (padded width n ++ 'Z' :: rest).length - ('Z' :: rest).length = width := by
      rw [List.length_append, length_padded positive short, Nat.add_sub_cancel]
    simp only [List.cons_append, readFraction, taken, bind, Except.bind, length]
    rfl
  unfold nanosPerSecond at small
  unfold fractionChars
  split
  · rename_i none_
    rw [none_]
    rfl
  split
  · rename_i milli
    rw [read (by decide) (by decide) (by omega)]
    congr 2
    omega
  split
  · rename_i micro
    rw [read (by decide) (by decide) (by omega)]
    congr 2
    omega
  · rw [read (by decide) (by decide) (by omega), Nat.sub_self, Nat.pow_zero, Nat.mul_one]

theorem readDate_dateChars {d : Date} (year : -262143 ≤ d.year ∧ d.year ≤ 262142)
    (month : 1 ≤ d.month ∧ d.month ≤ 12) (day : 1 ≤ d.day ∧ d.day ≤ 31) {rest : List Char}
    (ends : EndsDigits rest) : readDate (dateChars d ++ rest) = .ok (d, rest) := by
  have text : dateChars d ++ rest =
      yearChars d.year ++ '-' :: (padded 2 d.month ++ '-' :: (padded 2 d.day ++ rest)) := by
    simp only [dateChars, List.append_assoc, List.cons_append]
  have dash (more : List Char) : EndsDigits ('-' :: more) := endsDigits_cons rfl
  rw [text, readDate, readYear_yearChars year.1 year.2 (dash _)]
  simp only [bind, Except.bind, readMark_cons (show Text.isBlank '-' = false from rfl),
    readField_padded month.1 month.2 (by omega) (dash _),
    readField_padded day.1 day.2 (by omega) ends]
  rfl

/-! ### Clocks -/

/-- What a clock shows at a point of time: a leap second is second 60. -/
def Instant.clock (t : Instant) : Clock :=
  ⟨t.secondOfDay / 3600, t.secondOfDay / 60 % 60,
    if nanosPerSecond ≤ t.nano then t.secondOfDay % 60 + 1 else t.secondOfDay % 60,
    t.nano % nanosPerSecond⟩

def Clock.chars (c : Clock) : List Char :=
  padded 2 c.hour ++
    ':' :: (padded 2 c.minute ++ ':' :: (padded 2 c.second ++ fractionChars c.nano))

theorem Instant.text_eq (t : Instant) :
    t.text = String.ofList (dateChars t.date ++ 'T' :: (t.clock.chars ++ ['Z'])) := by
  simp only [text, localChars, clock, Clock.chars, List.append_assoc, List.cons_append]

theorem endsDigits_fractionChars (nano : Nat) (rest : List Char) :
    EndsDigits (fractionChars nano ++ 'Z' :: rest) := by
  unfold fractionChars
  split
  · exact endsDigits_cons rfl
  · repeat' split
    all_goals exact endsDigits_cons rfl

theorem readClock_chars {c : Clock} (hour : c.hour ≤ 23) (minute : c.minute ≤ 59)
    (second : c.second ≤ 60) (nano : c.nano < nanosPerSecond) (rest : List Char) :
    readClock (c.chars ++ 'Z' :: rest) = .ok (c, 'Z' :: rest) := by
  have text : c.chars ++ 'Z' :: rest = padded 2 c.hour ++ ':' :: (padded 2 c.minute ++
      ':' :: (padded 2 c.second ++ (fractionChars c.nano ++ 'Z' :: rest))) := by
    simp only [Clock.chars, List.append_assoc, List.cons_append]
  have colon (more : List Char) : EndsDigits (':' :: more) := endsDigits_cons rfl
  rw [text, readClock, readField_padded (Nat.zero_le _) hour (by omega) (colon _)]
  simp only [bind, Except.bind, readMark_cons (show Text.isBlank ':' = false from rfl),
    readField_padded (Nat.zero_le _) minute (by omega) (colon _),
    readField_padded (Nat.zero_le _) second (by omega) (endsDigits_fractionChars c.nano rest),
    readFraction_fractionChars nano, trimStart_cons (show Text.isBlank 'Z' = false from rfl)]
  rfl

namespace Instant

theorem of?_self (t : Instant) : of? t.second t.nano = some t := by
  rw [of?, dif_pos t.representable]

theorem year_date (t : Instant) : -262143 ≤ t.date.year ∧ t.date.year ≤ 262142 := by
  obtain ⟨first, last, -⟩ := t.representable
  unfold firstSecond at first
  unfold lastSecond at last
  unfold date epochDay
  exact (Date.year_ofDayNumber_iff _).2 ⟨by omega, by omega⟩

theorem secondOfDay_lt (t : Instant) : t.secondOfDay < 86400 := by
  unfold secondOfDay
  omega

theorem secondOfDay_of_leap {t : Instant} (leap : nanosPerSecond ≤ t.nano) :
    t.secondOfDay % 60 = 59 := by
  obtain ⟨-, -, inside⟩ := t.representable
  unfold secondOfDay
  omega

theorem second_eq_sixty_iff (t : Instant) : t.clock.second = 60 ↔ nanosPerSecond ≤ t.nano := by
  simp only [clock]
  split
  · rename_i leap
    have last := secondOfDay_of_leap leap
    omega
  · omega

theorem clock_second (t : Instant) :
    (if t.clock.second = 60 then 59 else t.clock.second) = t.secondOfDay % 60 ∧
      (if t.clock.second = 60 then t.clock.nano + nanosPerSecond else t.clock.nano) = t.nano := by
  obtain ⟨-, -, inside⟩ := t.representable
  simp only [second_eq_sixty_iff]
  by_cases leap : nanosPerSecond ≤ t.nano
  · have last := secondOfDay_of_leap leap
    simp only [clock, if_pos leap, last, true_and]
    unfold nanosPerSecond at *
    omega
  · simp only [clock, if_neg leap, true_and]
    unfold nanosPerSecond at *
    omega

theorem ofLocal_clock (t : Instant) : ofLocal t.date t.clock 0 = .ok t := by
  have valid : t.date.IsValid := Date.isValid_ofDayNumber _
  have year := t.year_date
  have inside : ¬(¬t.date.IsValid ∨ t.date.year < -262143 ∨ 262142 < t.date.year) := by
    rintro (invalid | early | late)
    · exact invalid valid
    · omega
    · omega
  have offset : ¬((0 : Int) ≤ -86400 ∨ (86400 : Int) ≤ 0) := by decide
  have day : t.date.dayNumber = t.second / 86400 + epochDay := Date.dayNumber_ofDayNumber _
  obtain ⟨second, nano⟩ := t.clock_second
  have count : (t.second / 86400 + epochDay - epochDay) * 86400 +
      ((t.clock.hour : Int) * 3600 + t.clock.minute * 60 + (t.secondOfDay % 60 : Nat)) - 0 =
      t.second := by
    simp only [clock, secondOfDay]
    omega
  rw [ofLocal, if_neg inside, if_neg offset]
  simp only [day, second, nano, count, of?_self]

theorem parse_text (t : Instant) : parse t.text = .ok t := by
  have day : 1 ≤ t.date.day ∧ t.date.day ≤ 31 :=
    have valid := Date.isValid_ofDayNumber (t.second / 86400 + epochDay)
    ⟨valid.1, valid.day_le⟩
  have short := t.secondOfDay_lt
  have second : t.clock.second ≤ 60 := by
    simp only [clock]
    split <;> omega
  have clock : readClock (t.clock.chars ++ ['Z']) = .ok (t.clock, ['Z']) :=
    readClock_chars (by simp only [clock]; omega) (by simp only [clock]; omega) second
      (Nat.mod_lt _ (by decide)) []
  rw [parse, text_eq, String.toList_ofList, ofChars,
    readDate_dateChars t.year_date (Date.month_ofDayNumber _) day (endsDigits_cons rfl)]
  simp only [bind, Except.bind, readSeparator, true_or, ↓reduceIte, clock]
  exact t.ofLocal_clock

end Instant
end AppHost.Calendar
