/-!
The decimal digits of a number within a text. A reader that takes all digits takes these and no
more, as long as what follows does not go on with a digit.
-/

set_option autoImplicit false
namespace AppHost.Text

def EndsDigits (rest : List Char) : Prop := ∀ c ∈ rest.head?, c.isDigit = false

theorem endsDigits_cons {c : Char} {rest : List Char} (other : c.isDigit = false) :
    EndsDigits (c :: rest) := by
  intro d member
  cases member
  exact other

theorem isDigit_of_mem_toDigits {n : Nat} {c : Char} (member : c ∈ Nat.toDigits 10 n) :
    c.isDigit = true :=
  Nat.isDigit_of_mem_toDigits (by decide) (by decide) member

section
variable {digits rest : List Char} (all : ∀ c ∈ digits, c.isDigit = true) (ends : EndsDigits rest)
include all ends

theorem takeWhile_digits : (digits ++ rest).takeWhile Char.isDigit = digits := by
  rw [List.takeWhile_append_of_pos all]
  cases rest with
  | nil => simp
  | cons c rest => rw [List.takeWhile_cons_of_neg (by simp [ends c rfl]), List.append_nil]

theorem dropWhile_digits : (digits ++ rest).dropWhile Char.isDigit = rest := by
  rw [List.dropWhile_append_of_pos all]
  cases rest with
  | nil => rfl
  | cons c rest => rw [List.dropWhile_cons_of_neg (by simp [ends c rfl])]

end

theorem le_ofDigitChars (digits : List Char) (n : Nat) : n ≤ Nat.ofDigitChars 10 digits n := by
  rw [Nat.ofDigitChars_eq_ofDigitChars_zero]
  calc n ≤ 10 ^ digits.length * n := Nat.le_mul_of_pos_left n (Nat.pow_pos (by decide))
    _ ≤ 10 ^ digits.length * n + Nat.ofDigitChars 10 digits 0 := Nat.le_add_right _ _

theorem exists_toDigits_cons (n : Nat) : ∃ c digits, Nat.toDigits 10 n = c :: digits :=
  List.exists_cons_of_ne_nil Nat.toDigits_ne_nil

theorem toDigits_head (n : Nat) : (Nat.toDigits 10 n).head? = some '0' → n = 0 := by
  induction n using Nat.strongRecOn with
  | _ n ih =>
    intro leading
    by_cases small : n < 10
    · rw [Nat.toDigits_of_lt_base small] at leading
      simpa using leading
    · obtain ⟨c, digits, shape⟩ := exists_toDigits_cons (n / 10)
      rw [Nat.toDigits_of_base_le (by decide) (by omega), shape] at leading
      have quotient := ih (n / 10) (by omega) (by rw [shape]; exact leading)
      omega

end AppHost.Text
