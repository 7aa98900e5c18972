import AppHost.Proofs.Json.Results

/-!
How deep a text may be nested. A reader that is allowed fewer levels reads what it would read with
more, or else it stops because they are used up. So the text of a value is read back exactly if the
value is nested less deep than the limit; a deeper one is refused for that reason and no other.
-/

set_option autoImplicit false
namespace AppHost.Json

variable {α β : Type}

/-- The first result is the second one, unless levels were used up. -/
def UnlessTooDeep (fewer more : Except Fault α) : Prop :=
  fewer = more ∨ ∃ fault, fewer = .error fault ∧ fault.cause = .nestedTooDeep

namespace UnlessTooDeep

theorem refl (result : Except Fault α) : UnlessTooDeep result result := .inl rfl

theorem bind {fewer more : Except Fault α} {next last : α → Except Fault β}
    (first : UnlessTooDeep fewer more) (later : ∀ a, UnlessTooDeep (next a) (last a)) :
    UnlessTooDeep (fewer >>= next) (more >>= last) := by
  rcases first with rfl | ⟨fault, rfl, deep⟩
  · cases fewer with
    | error fault => exact refl _
    | ok a => exact later a
  · exact .inr ⟨fault, rfl, deep⟩

theorem within {fewer more : Except Fault α} (same : UnlessTooDeep fewer more) (step : Step) :
    UnlessTooDeep (Json.within step fewer) (Json.within step more) := by
  rcases same with rfl | ⟨fault, rfl, deep⟩
  · exact refl _
  · exact .inr ⟨fault.within step, rfl, deep⟩

end UnlessTooDeep

/-- With so much fuel, what is read depends on the levels only in that they may be used up. -/
structure ReadsUnlessTooDeep (fuel : Nat) : Prop where
  value : ∀ {levels more : Nat}, levels ≤ more → ∀ cs,
    UnlessTooDeep (readValue fuel levels cs) (readValue fuel more cs)
  items : ∀ {levels more : Nat}, levels ≤ more → ∀ position cs,
    UnlessTooDeep (readItems fuel levels position cs) (readItems fuel more position cs)
  fields : ∀ {levels more : Nat}, levels ≤ more → ∀ first cs,
    UnlessTooDeep (readFields fuel levels first cs) (readFields fuel more first cs)

namespace ReadsUnlessTooDeep
variable {fuel levels more : Nat}

theorem zero : ReadsUnlessTooDeep 0 where
  value _ cs := by
    rw [readValue, readValue]
    exact .refl _
  items _ position cs := by
    rw [readItems, readItems]
    exact .refl _
  fields _ first cs := by
    rw [readFields, readFields]
    exact .refl _

theorem value_succ (reads : ReadsUnlessTooDeep fuel) (le : levels ≤ more) (cs : List Char) :
    UnlessTooDeep (readValue (fuel + 1) levels cs) (readValue (fuel + 1) more cs) := by
  -- An array or an object is entered with one level less, if there is one to use up.
  have entered {β : Type} {inner outer : Except Fault β} {next : β → Except Fault (Value × List Char)}
      (rest : List Char) (same : UnlessTooDeep inner outer) :
      UnlessTooDeep (if levels ≤ 1 then faultNext .nestedTooDeep rest else inner >>= next)
        (if more ≤ 1 then faultNext .nestedTooDeep rest else outer >>= next) := by
    by_cases used : levels ≤ 1
    · rw [if_pos used]
      exact .inr ⟨_, rfl, rfl⟩
    · rw [if_neg used, if_neg (by omega)]
      exact same.bind fun _ => .refl _
  have inner : levels - 1 ≤ more - 1 := Nat.sub_le_sub_right le 1
  rw [readValue, readValue]
  split
  · exact .refl _
  · rename_i c rest _
    iterate 6
      split
      · exact .refl _
    split
    · exact entered (c :: rest) (reads.items inner 0 rest)
    split
    · exact entered (c :: rest) (reads.fields inner true rest)
    · exact .refl _

theorem items_succ (reads : ReadsUnlessTooDeep fuel) (le : levels ≤ more) (position : Nat)
    (cs : List Char) :
    UnlessTooDeep (readItems (fuel + 1) levels position cs)
      (readItems (fuel + 1) more position cs) := by
  rw [readItems, readItems]
  refine (UnlessTooDeep.refl _).bind ?_
  rintro ⟨follows, text⟩
  cases follows with
  | false => exact .refl _
  | true =>
    refine ((reads.value le text).within (.index position)).bind ?_
    rintro ⟨v, after⟩
    exact (reads.items le (position + 1) after).bind fun _ => .refl _

theorem fields_succ (reads : ReadsUnlessTooDeep fuel) (le : levels ≤ more) (first : Bool)
    (cs : List Char) :
    UnlessTooDeep (readFields (fuel + 1) levels first cs)
      (readFields (fuel + 1) more first cs) := by
  rw [readFields, readFields]
  refine (UnlessTooDeep.refl _).bind ?_
  rintro ⟨key, text⟩
  cases key with
  | none => exact .refl _
  | some key =>
    refine (UnlessTooDeep.refl _).bind fun value => ?_
    refine ((reads.value le value).within (.key key)).bind ?_
    rintro ⟨v, after⟩
    exact (reads.fields le false after).bind fun _ => .refl _

theorem all (fuel : Nat) : ReadsUnlessTooDeep fuel := by
  induction fuel with
  | zero => exact zero
  | succ fuel ih => exact ⟨ih.value_succ, ih.items_succ, ih.fields_succ⟩

end ReadsUnlessTooDeep

/-- A value that is nested deeper than the limit allows is refused for that. -/
theorem parse_text_of_deep {v : Value} (whole : v.Whole) (deep : nestingLimit ≤ v.depth) :
    ∃ fault, parse v.text = .error fault ∧ fault.cause = .nestedTooDeep := by
  have enough : 2 * v.chars.length ≤ fuelFor v.chars := Nat.le_add_right _ 2
  -- With levels enough for it the value is read,
  have read := Value.readable whole (Nat.lt_succ_self v.depth) (fuelFor v.chars) enough [] closes_nil
  rw [List.append_nil] at read
  rcases (ReadsUnlessTooDeep.all (fuelFor v.chars)).value (Nat.le_succ_of_le deep) v.chars with
    same | ⟨fault, failed, tooDeep⟩
  -- but what is read with no more than the limit is not nested as deep.
  · have shallow := (GivesShallow.all _).value _ _ _ _ (same.trans read)
    have positive : 0 < nestingLimit := by decide
    omega
  · refine ⟨fault, ?_, tooDeep⟩
    rw [parse, Value.text, String.toList_ofList, failed]
    rfl

end AppHost.Json
