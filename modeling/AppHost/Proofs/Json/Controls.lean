import AppHost.Proofs.Json.Reading

/-!
The compact text of a value without fractions has no control characters: those of its strings are
escaped, and between the values stand marks alone. So it is one line, whatever the strings say.
-/

set_option autoImplicit false
namespace AppHost.Json

def Printed (cs : List Char) : Prop := ∀ c ∈ cs, 0x20 ≤ c.toNat

namespace Printed
variable {first second : List Char}

theorem of_all {cs : List Char} (all : cs.all (fun c => 0x20 ≤ c.toNat) = true) : Printed cs :=
  fun c member => of_decide_eq_true (List.all_eq_true.1 all c member)

theorem append (front : Printed first) (back : Printed second) : Printed (first ++ second) :=
  List.forall_mem_append.2 ⟨front, back⟩

theorem cons {c : Char} (plain : 0x20 ≤ c.toNat) (back : Printed second) : Printed (c :: second) :=
  List.forall_mem_cons.2 ⟨plain, back⟩

theorem not_mem {c : Char} (printed : Printed first) (control : c.toNat < 0x20) : c ∉ first :=
  fun member => Nat.not_le.2 control (printed c member)

end Printed

/-! ### Texts of scalars -/

theorem printed_escapedChar (c : Char) : Printed (escapedChar c) := by
  have digit : ∀ n < 16, 0x20 ≤ (Nat.digitChar n).toNat := by decide
  unfold escapedChar
  iterate 7
    split
    · exact .of_all (by decide)
  split
  · rename_i control
    have front : Printed ['\\', 'u', '0', '0'] := .of_all (by decide)
    have high := digit (c.toNat / 16) (by omega)
    have low := digit (c.toNat % 16) (by omega)
    exact front.append (.cons high (.cons low (.of_all rfl)))
  · rename_i plain
    exact .cons (Nat.not_lt.1 plain) (.of_all rfl)

theorem printed_stringChars (s : String) : Printed (stringChars s) := by
  refine .cons (by decide) (.append (fun c member => ?_) (.of_all (by decide)))
  obtain ⟨plain, -, member⟩ := List.mem_flatMap.1 member
  exact printed_escapedChar plain c member

theorem printed_intChars (n : Int) : Printed (intChars n) := by
  refine .append ?_ fun c member => ?_
  · cases decide (n < 0) <;> exact .of_all (by decide)
  · have digit := Text.isDigit_of_mem_toDigits member
    simp only [Char.isDigit, Bool.and_eq_true, decide_eq_true_eq] at digit
    have least : (48 : Nat) ≤ c.toNat := digit.1
    omega

/-! ### Texts of values -/

namespace Value

theorem printed_separator (first : Bool) : Printed (separator first) := by
  cases first <;> exact .of_all (by decide)

theorem printed_itemsText {items : List Value} (printed : ∀ v ∈ items, Printed v.chars)
    (first : Bool) : Printed (itemsText first items) := by
  induction items generalizing first with
  | nil =>
    rw [itemsText_nil]
    exact .of_all (by decide)
  | cons v items ih =>
    obtain ⟨item, others⟩ := List.forall_mem_cons.1 printed
    rw [itemsText_cons]
    exact (printed_separator first).append (item.append (ih others false))

theorem printed_fieldsText {fields : List (String × Value)}
    (printed : ∀ f ∈ fields, Printed f.2.chars) (first : Bool) :
    Printed (fieldsText first fields) := by
  induction fields generalizing first with
  | nil =>
    rw [fieldsText_nil]
    exact .of_all (by decide)
  | cons f fields ih =>
    obtain ⟨value, others⟩ := List.forall_mem_cons.1 printed
    rw [fieldsText_cons]
    exact (printed_separator first).append ((printed_stringChars f.1).append
      (.cons (by decide) (value.append (ih others false))))

theorem printed_chars {v : Value} : v.Whole → Printed v.chars := by
  induction v using Value.induction with
  | null => exact fun _ => .of_all (by decide)
  | bool b => cases b <;> exact fun _ => .of_all (by decide)
  | number n =>
    intro whole
    cases n with
    | int n => exact printed_intChars n
    | float x => cases whole
  | string s => exact fun _ => printed_stringChars s
  | array items ih =>
    intro whole
    exact .cons (by decide) (printed_itemsText
      (fun v member => ih v member (wholeItems_iff.1 whole v member)) true)
  | object fields ih =>
    intro whole
    exact .cons (by decide) (printed_fieldsText
      (fun f member => ih f member (wholeFields_iff.1 whole f member)) true)

end Value
end AppHost.Json
