import AppHost.Json.Record
import AppHost.Proofs.Json.Reading

/-!
Records are read back from the compact text of their entries. What an object does to a record is
said entry by entry (`Shape.Fills`): the field of the key must still be open, and takes the value's
text.
-/

set_option autoImplicit false
namespace AppHost.Json

variable {α β : Type}

/-! ### Fields -/

theorem takes_readText (levels : Nat) (s : String) :
    Takes (readText levels) (Value.string s).chars s := by
  intro rest _
  have plain : isBlank '"' = false := rfl
  simp only [Value.chars, stringChars_append, readText, skipBlank_cons plain,
    readString_stringChars]

theorem takes_readTextAs {expected : String} {rule : String → Except String α} (levels : Nat)
    {s : String} {a : α} (read : rule s = .ok a) :
    Takes (readTextAs expected rule levels) (Value.string s).chars a := by
  intro rest _
  have plain : isBlank '"' = false := rfl
  simp only [Value.chars, stringChars_append, readTextAs, skipBlank_cons plain,
    readString_stringChars, bind, Except.bind, read]
  rfl

theorem takes_readOptional {read : Reading α} {levels : Nat} {s : String} {a : α}
    (takes : Takes (read levels) (Value.string s).chars a) :
    Takes (readOptional read levels) (Value.string s).chars (some a) := by
  intro rest closes
  have present (text : List Char) : readOptional read levels ('"' :: text) =
      read levels ('"' :: text) >>= fun found => pure (some found.1, found.2) := rfl
  have taken := takes rest closes
  rw [Value.chars, stringChars_append] at taken ⊢
  rw [present, taken]
  rfl

section
variable {read : Reading α} {fuel levels : Nat}

theorem readListFrom_succ {position : Nat} {cs text more rest : List Char} {a : α} {as : List α}
    (next : nextItem (position = 0) cs = .ok (true, text)) (item : read levels text = .ok (a, more))
    (later : readListFrom read fuel levels (position + 1) more = .ok (as, rest)) :
    readListFrom read (fuel + 1) levels position cs = .ok (a :: as, rest) := by
  simp only [readListFrom, next, item, later, bind, Except.bind, within, ↓reduceIte]
  rfl

theorem readListFrom_itemsText {write : α → Value} {as : List α}
    (takes : ∀ a ∈ as, Starts (write a).chars ∧ Takes (read levels) (write a).chars a)
    (rest : List Char) :
    ∀ {fuel position : Nat} {first : Bool}, first = decide (position = 0) → as.length < fuel →
      readListFrom read fuel levels position (Value.itemsText first (as.map write) ++ rest) =
        .ok (as, ']' :: rest) := by
  induction as with
  | nil =>
    intro fuel position first place enough
    obtain ⟨fuel, rfl⟩ := Nat.exists_eq_add_one.2 enough
    rw [List.map_nil, Value.itemsText_nil, readListFrom, List.singleton_append, nextItem_close]
    rfl
  | cons a as ih =>
    intro fuel position first place enough
    obtain ⟨⟨starts, taken⟩, others⟩ := List.forall_mem_cons.1 takes
    obtain ⟨fuel, rfl⟩ := Nat.exists_eq_add_one.2 (Nat.zero_lt_of_lt enough)
    rw [List.map_cons, Value.itemsText_cons, List.append_assoc, List.append_assoc]
    have next := nextItem_separator first
      (starts.append (Value.itemsText false (as.map write) ++ rest))
    rw [place] at next ⊢
    refine readListFrom_succ next (taken _ (Value.closes_itemsText _ rest)) ?_
    exact ih others (by simp) (Nat.lt_of_succ_lt_succ enough)

end

theorem takes_readList {read : Reading α} {write : α → Value} {levels : Nat} (deep : 1 < levels)
    {as : List α}
    (takes : ∀ a ∈ as, Starts (write a).chars ∧ Takes (read (levels - 1)) (write a).chars a) :
    Takes (readList read levels) (Value.array (as.map write)).chars as := by
  intro rest _
  have plain : isBlank '[' = false := rfl
  have opening : true = decide (0 = 0) := rfl
  have enough : as.length < (Value.itemsText true (as.map write) ++ rest).length + 1 := by
    have items := Value.length_lt_itemsText true fun v (member : v ∈ as.map write) => by
      obtain ⟨a, listed, rfl⟩ := List.mem_map.1 member
      exact (takes a listed).1
    rw [List.length_map] at items
    rw [List.length_append]
    omega
  simp only [Value.chars_array, List.cons_append, readList, skipBlank_cons plain,
    if_neg (Nat.not_le.2 deep), readListFrom_itemsText takes rest opening enough, leaving,
    bind, Except.bind, closeArray_cons]
  rfl

/-! ### Records -/

/-- These entries turn one record into another, each through the field of its name. -/
inductive Shape.Fills (s : Shape α) (levels : Nat) : α → List (String × Value) → α → Prop where
  | done {a : α} : Fills s levels a [] a
  | field {a b : α} {set : α → α} {key : String} {field : Field α} {v : Value}
      {fields : List (String × Value)} :
      s.fields.find? (·.name = key) = some field → field.isSet a = false →
      Takes (field.read levels) v.chars set → Fills s levels (set a) fields b →
      Fills s levels a ((key, v) :: fields) b

namespace Shape
variable {s : Shape α} {levels : Nat} {a b : α} {fields : List (String × Value)}

theorem Fills.readEntries (fills : s.Fills levels a fields b) (rest : List Char) :
    ∀ {fuel : Nat} {first : Bool}, fields.length < fuel →
      s.readEntries fuel levels first a (Value.fieldsText first fields ++ rest) =
        .ok (b, '\x7d' :: rest) := by
  induction fills with
  | done =>
    intro fuel first enough
    obtain ⟨fuel, rfl⟩ := Nat.exists_eq_add_one.2 enough
    rw [Value.fieldsText_nil, Shape.readEntries, List.singleton_append, nextKey_close]
    rfl
  | @field a b set key field v fields found unset takes _ ih =>
    intro fuel first enough
    obtain ⟨fuel, rfl⟩ := Nat.exists_eq_add_one.2 (Nat.zero_lt_of_lt enough)
    have taken := takes _ (Value.closes_fieldsText fields rest)
    rw [Value.fieldsText_cons, List.append_assoc, List.append_assoc, List.cons_append,
      List.append_assoc]
    simp only [Shape.readEntries, nextKey_separator, within, bind, Except.bind, found, unset,
      Bool.false_eq_true, ↓reduceIte, readColon_cons, taken]
    exact ih (Nat.lt_of_succ_lt_succ enough)

theorem Fills.takes (fills : s.Fills (levels - 1) a fields b) (deep : 1 < levels)
    {finish : α → Except Mismatch β} {record : β} (finished : finish b = .ok record) :
    Takes (s.read a finish levels) (Value.object fields).chars record := by
  intro rest _
  have plain : isBlank '\x7b' = false := rfl
  have enough : fields.length < (Value.fieldsText true fields ++ rest).length + 1 := by
    have entries := Value.length_lt_fieldsText true fields
    rw [List.length_append]
    omega
  simp only [Value.chars_object, List.cons_append, Shape.read, skipBlank_cons plain,
    if_neg (Nat.not_le.2 deep), fills.readEntries rest enough, finished, leaving, bind, Except.bind,
    closeObject_cons]
  rfl

end Shape

theorem readWhole_of_takes {read : Reading α} {v : Value} {a : α}
    (takes : Takes (read nestingLimit) v.chars a) : readWhole read v.text = .ok a := by
  have taken := takes [] closes_nil
  rw [List.append_nil] at taken
  rw [readWhole, Value.text, String.toList_ofList, taken]
  rfl

end AppHost.Json
