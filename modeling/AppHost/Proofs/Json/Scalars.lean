import AppHost.Json.Printer
import AppHost.Json.Reader
import AppHost.Proofs.Text.Digits

/-!
Strings and whole numbers are read back from their JSON text, whatever stands behind a string, and
whatever closes a number.
-/

set_option autoImplicit false
namespace AppHost.Json

/-! ### Strings -/

theorem hexValue?_digitChar : ∀ n < 16, hexValue? (Nat.digitChar n) = some n := by decide

theorem readUnicodeEscape_control {n : Nat} (control : n < 0x20) (rest : List Char) :
    readUnicodeEscape ('0' :: '0' :: Nat.digitChar (n / 16) :: Nat.digitChar (n % 16) :: rest) =
      .ok (Char.ofNat n, rest) := by
  have zero : hexValue? '0' = some 0 := rfl
  have high := hexValue?_digitChar (n / 16) (by omega)
  have low := hexValue?_digitChar (n % 16) (by omega)
  have digits : readHex ('0' :: '0' :: Nat.digitChar (n / 16) :: Nat.digitChar (n % 16) :: rest) =
      .ok (n, rest) := by
    simp only [readHex, zero, high, low]
    rw [show ((0 * 16 + 0) * 16 + n / 16) * 16 + n % 16 = n by omega]
  have notLow : ¬(0xDC00 ≤ n ∧ n ≤ 0xDFFF) := by omega
  have notHigh : ¬(0xD800 ≤ n ∧ n ≤ 0xDBFF) := by omega
  rw [readUnicodeEscape, digits]
  exact (if_neg notLow).trans (if_neg notHigh)

theorem readChars_escapedChar (fuel : Nat) (c : Char) (text : List Char) :
    readChars (fuel + 1) (escapedChar c ++ text) =
      (do let (more, rest) ← readChars fuel text
          return (c :: more, rest)) := by
  have escape (e : List Char) (read : readEscape (e ++ text) = .ok (c, text)) :
      readChars (fuel + 1) ('\\' :: (e ++ text)) =
        (do let (more, rest) ← readChars fuel text
            return (c :: more, rest)) := by
    have backslash : ¬('\\' : Char) = '"' := by decide
    rw [readChars, if_neg backslash, if_pos rfl, read]
    rfl
  unfold escapedChar
  split
  · rename_i quote
    exact escape ['"'] (by rw [quote]; rfl)
  split
  · rename_i backslash
    exact escape ['\\'] (by rw [backslash]; rfl)
  split
  · rename_i backspace
    exact escape ['b'] (by rw [backspace]; rfl)
  split
  · rename_i tab
    exact escape ['t'] (by rw [tab]; rfl)
  split
  · rename_i newline
    exact escape ['n'] (by rw [newline]; rfl)
  split
  · rename_i formFeed
    exact escape ['f'] (by rw [formFeed]; rfl)
  split
  · rename_i carriageReturn
    exact escape ['r'] (by rw [carriageReturn]; rfl)
  split
  · rename_i control
    refine escape ['u', '0', '0', Nat.digitChar (c.toNat / 16), Nat.digitChar (c.toNat % 16)] ?_
    have read := readUnicodeEscape_control control text
    rw [Char.ofNat_toNat] at read
    exact read
  · rename_i quote backslash _ _ _ _ _ control
    simp only [List.singleton_append]
    rw [readChars, if_neg quote, if_neg backslash, if_neg control]

theorem length_escapedChar_pos (c : Char) : 0 < (escapedChar c).length := by
  unfold escapedChar
  repeat' split
  all_goals simp

theorem readChars_flatMap (chars rest : List Char) : ∀ fuel, chars.length < fuel →
    readChars fuel (chars.flatMap escapedChar ++ '"' :: rest) = .ok (chars, rest) := by
  induction chars with
  | nil =>
    intro fuel enough
    obtain ⟨fuel, rfl⟩ := Nat.exists_eq_add_one.2 enough
    rfl
  | cons c chars ih =>
    intro fuel enough
    obtain ⟨fuel, rfl⟩ := Nat.exists_eq_add_one.2 (Nat.zero_lt_of_lt enough)
    rw [List.flatMap_cons, List.append_assoc, readChars_escapedChar,
      ih fuel (by simpa using enough)]
    rfl

theorem length_le_flatMap (chars : List Char) :
    chars.length ≤ (chars.flatMap escapedChar).length := by
  induction chars with
  | nil => exact Nat.zero_le _
  | cons c chars ih =>
    have one := length_escapedChar_pos c
    rw [List.flatMap_cons, List.length_append, List.length_cons]
    omega

/-- The quote in front has been passed. -/
theorem readString_stringChars (s : String) (rest : List Char) :
    readString (s.toList.flatMap escapedChar ++ '"' :: rest) = .ok (s, rest) := by
  have longer := length_le_flatMap s.toList
  have enough : s.toList.length <
      (s.toList.flatMap escapedChar ++ '"' :: rest).length + 1 := by
    rw [List.length_append]
    omega
  rw [readString, readChars_flatMap s.toList rest _ enough]
  exact congrArg (fun text => Except.ok (text, rest)) String.ofList_toList

theorem stringChars_append (s : String) (rest : List Char) :
    stringChars s ++ rest = '"' :: (s.toList.flatMap escapedChar ++ '"' :: rest) := by
  simp [stringChars]

/-! ### Numbers -/

/-- What can stand behind a value in compact text. -/
def Closes (rest : List Char) : Prop := ∀ c ∈ rest.head?, c = ',' ∨ c = ']' ∨ c = '\x7d'

theorem closes_nil : Closes [] := fun _ member => nomatch member

theorem Closes.endsDigits {rest : List Char} (closes : Closes rest) : Text.EndsDigits rest := by
  intro c member
  rcases closes c member with rfl | rfl | rfl <;> rfl

theorem gather_of_lt (digits : List Char) : ∀ n, Nat.ofDigitChars 10 digits n < 2 ^ 64 →
    gather n digits = (Nat.ofDigitChars 10 digits n, 0) := by
  induction digits with
  | nil =>
    intro n small
    rw [gather, Nat.ofDigitChars_nil]
  | cons c digits ih =>
    intro n small
    have value : 10 * n + (c.toNat - '0'.toNat) = n * 10 + digitValue c := by
      rw [Nat.mul_comm]
      rfl
    rw [Nat.ofDigitChars_cons, value] at small ⊢
    have grows := Text.le_ofDigitChars digits (n * 10 + digitValue c)
    rw [gather, if_pos (Nat.lt_of_le_of_lt grows small)]
    exact ih _ small

theorem readNumber_toDigits (negative : Bool) {n : Nat} (small : n < 2 ^ 64) {rest : List Char}
    (closes : Closes rest) :
    readNumber negative (Nat.toDigits 10 n ++ rest) = .ok (wholeNumber negative n, rest) := by
  obtain ⟨c, digits, shape⟩ := Text.exists_toDigits_cons n
  have all : ∀ d ∈ c :: digits, d.isDigit = true := fun d member =>
    Text.isDigit_of_mem_toDigits (shape ▸ member)
  have inside : ∀ d ∈ digits, d.isDigit = true := fun d member =>
    all d (List.mem_cons_of_mem c member)
  -- A zero in front is the only digit, so that all digits are taken either way.
  have alone : c = '0' → digits = [] := by
    rintro rfl
    have zero := Text.toDigits_head n (by rw [shape]; rfl)
    rw [zero, Nat.toDigits_zero] at shape
    exact (List.cons.inj shape).2.symm
  have taken : (if c = '0' then [c] else c :: (digits ++ rest).takeWhile Char.isDigit) =
      c :: digits := by
    split
    · rename_i zero
      rw [alone zero]
    · rw [Text.takeWhile_digits inside closes.endsDigits]
  have left : (if c = '0' then digits ++ rest else (digits ++ rest).dropWhile Char.isDigit) =
      rest := by
    split
    · rename_i zero
      rw [alone zero, List.nil_append]
    · exact Text.dropWhile_digits inside closes.endsDigits
  have value : gather 0 (c :: digits) = (n, 0) := by
    have whole : Nat.ofDigitChars 10 (c :: digits) 0 = n := by
      rw [← shape, Nat.ofDigitChars_ten_toDigits]
    have gathered := gather_of_lt (c :: digits) 0 (by rw [whole]; exact small)
    rwa [whole] at gathered
  have digit : c.isDigit = true := all c List.mem_cons_self
  rw [shape, List.cons_append]
  simp only [readNumber, digit, Bool.not_true, Bool.false_eq_true, ↓reduceIte, taken, left, value]
  cases rest with
  | nil => rfl
  | cons d more =>
    have plain : d.isDigit = false ∧ d ≠ '.' ∧ isExponentMark d = false := by
      rcases closes d rfl with rfl | rfl | rfl <;> decide
    obtain ⟨noDigit, noPoint, noMark⟩ := plain
    simp [noDigit, noPoint, noMark]

theorem wholeNumber_natAbs {n : Int} (fits : Fits n) :
    wholeNumber (decide (n < 0)) n.natAbs = .int n := by
  obtain ⟨low, high⟩ := fits
  by_cases negative : n < 0
  · have nonzero : ¬(n.natAbs = 0 ∨ 2 ^ 63 < n.natAbs) := by omega
    have back : -(n.natAbs : Int) = n := by omega
    simp only [wholeNumber, negative, decide_true, Bool.not_true, Bool.false_eq_true, ↓reduceIte,
      if_neg nonzero, back]
  · have back : (n.natAbs : Int) = n := by omega
    simp [wholeNumber, negative, back]

theorem natAbs_lt_of_fits {n : Int} (fits : Fits n) : n.natAbs < 2 ^ 64 := by
  obtain ⟨low, high⟩ := fits
  omega

end AppHost.Json
