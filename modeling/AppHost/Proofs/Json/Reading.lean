import AppHost.Proofs.Attempts
import AppHost.Proofs.Json.Scalars
import AppHost.Proofs.Json.Values

/-!
Compact text is read back: a value without fractions gives itself, up to the order of its objects.
The items of an array and the entries of an object are read one at a time, each from the text that
it was given, so that the fuel of a reader has to last only for the text that is left.
-/

set_option autoImplicit false
namespace AppHost.Json

variable {α : Type}

/-- The reader takes this text and no more, whatever closes it. -/
def Takes (read : List Char → Except Fault (α × List Char)) (text : List Char) (a : α) : Prop :=
  ∀ rest, Closes rest → read (text ++ rest) = .ok (a, rest)

/-- The text goes on with a value, neither with a blank nor with the end of an array. -/
def Starts (text : List Char) : Prop := ∃ c more, text = c :: more ∧ isBlank c = false ∧ c ≠ ']'

theorem Starts.append {text : List Char} (starts : Starts text) (rest : List Char) :
    Starts (text ++ rest) := by
  obtain ⟨c, more, rfl, plain, open_⟩ := starts
  exact ⟨c, more ++ rest, rfl, plain, open_⟩

theorem Starts.length_pos {text : List Char} (starts : Starts text) : 0 < text.length := by
  obtain ⟨c, more, rfl, -, -⟩ := starts
  exact Nat.zero_lt_succ _

theorem skipBlank_cons {c : Char} (plain : isBlank c = false) (rest : List Char) :
    skipBlank (c :: rest) = c :: rest := by
  rw [skipBlank, List.dropWhile_cons_of_neg (by simp [plain])]

theorem starts_stringChars (s : String) : Starts (stringChars s) :=
  ⟨'"', _, rfl, rfl, by decide⟩

theorem plain_of_isDigit {c : Char} (digit : c.isDigit = true) : isBlank c = false ∧ c ≠ ']' := by
  constructor
  · rw [← Bool.not_eq_true]
    intro blank
    simp only [isBlank, Bool.or_eq_true, beq_iff_eq] at blank
    rcases blank with ((rfl | rfl) | rfl) | rfl <;> cases digit
  · rintro rfl
    cases digit

theorem starts_intChars (n : Int) : Starts (intChars n) := by
  by_cases negative : n < 0
  · exact ⟨'-', Nat.toDigits 10 n.natAbs, by simp [intChars, signChars, negative], rfl, by decide⟩
  · obtain ⟨c, digits, shape⟩ := Text.exists_toDigits_cons n.natAbs
    have digit : c.isDigit = true := Text.isDigit_of_mem_toDigits (by rw [shape]; simp)
    exact ⟨c, digits, by simp [intChars, signChars, negative, shape], plain_of_isDigit digit⟩

theorem Value.starts_chars {v : Value} (whole : v.Whole) : Starts v.chars := by
  cases v with
  | null => exact ⟨'n', _, rfl, rfl, by decide⟩
  | bool b => cases b <;> exact ⟨_, _, rfl, rfl, by decide⟩
  | number n =>
    cases n with
    | int n => exact starts_intChars n
    | float x => cases whole
  | string s => exact starts_stringChars s
  | array items => exact ⟨'[', _, rfl, rfl, by decide⟩
  | object fields => exact ⟨'\x7b', _, rfl, rfl, by decide⟩

/-! ### Items and entries -/

def separator (first : Bool) : List Char := if first then [] else [',']

theorem nextItem_close (first : Bool) (rest : List Char) :
    nextItem first (']' :: rest) = .ok (false, ']' :: rest) := rfl

theorem nextItem_separator (first : Bool) {text : List Char} (starts : Starts text) :
    nextItem first (separator first ++ text) = .ok (true, text) := by
  obtain ⟨c, more, rfl, plain, open_⟩ := starts
  have passed := skipBlank_cons plain more
  cases first with
  | true => simp only [nextItem, separator, ↓reduceIte, List.nil_append, passed, if_neg open_]
  | false =>
    have comma : skipBlank (',' :: c :: more) = ',' :: c :: more := rfl
    simp [nextItem, separator, comma, passed, open_]

theorem nextKey_close (first : Bool) (rest : List Char) :
    nextKey first ('\x7d' :: rest) = .ok (none, '\x7d' :: rest) := rfl

theorem nextKey_separator (first : Bool) (key : String) (rest : List Char) :
    nextKey first (separator first ++ (stringChars key ++ rest)) = .ok (some key, rest) := by
  have read : nextKey.keyAfterQuote (key.toList.flatMap escapedChar ++ '"' :: rest) =
      .ok (some key, rest) := by
    rw [nextKey.keyAfterQuote, readString_stringChars]
    rfl
  rw [stringChars_append]
  cases first <;> exact read

theorem readColon_cons (rest : List Char) : readColon (':' :: rest) = .ok rest := rfl

theorem closeArray_cons (rest : List Char) : closeArray (']' :: rest) = .ok rest := rfl

theorem closeObject_cons (rest : List Char) : closeObject ('\x7d' :: rest) = .ok rest := rfl

namespace Value

def itemsText (first : Bool) (items : List Value) : List Char :=
  if first then itemsChars items else moreItemsChars items

def fieldsText (first : Bool) (fields : List (String × Value)) : List Char :=
  if first then fieldsChars fields else moreFieldsChars fields

theorem chars_array (items : List Value) : (array items).chars = '[' :: itemsText true items := rfl

theorem chars_object (fields : List (String × Value)) :
    (object fields).chars = '\x7b' :: fieldsText true fields := rfl

theorem itemsText_nil (first : Bool) : itemsText first [] = [']'] := by cases first <;> rfl

theorem itemsText_cons (first : Bool) (v : Value) (items : List Value) :
    itemsText first (v :: items) = separator first ++ (v.chars ++ itemsText false items) := by
  cases first <;> rfl

theorem fieldsText_nil (first : Bool) : fieldsText first [] = ['\x7d'] := by cases first <;> rfl

theorem fieldsText_cons (first : Bool) (key : String) (v : Value)
    (fields : List (String × Value)) :
    fieldsText first ((key, v) :: fields) =
      separator first ++ (stringChars key ++ ':' :: (v.chars ++ fieldsText false fields)) := by
  cases first <;> rfl

theorem closes_itemsText (items : List Value) (rest : List Char) :
    Closes (itemsText false items ++ rest) := by
  cases items <;> rintro c ⟨⟩
  · exact .inr (.inl rfl)
  · exact .inl rfl

theorem closes_fieldsText (fields : List (String × Value)) (rest : List Char) :
    Closes (fieldsText false fields ++ rest) := by
  cases fields <;> rintro c ⟨⟩
  · exact .inr (.inr rfl)
  · exact .inl rfl

theorem length_lt_itemsText (first : Bool) {items : List Value}
    (starts : ∀ v ∈ items, Starts v.chars) : items.length < (itemsText first items).length := by
  induction items generalizing first with
  | nil =>
    rw [itemsText_nil]
    exact Nat.one_pos
  | cons v items ih =>
    obtain ⟨item, others⟩ := List.forall_mem_cons.1 starts
    have text := item.length_pos
    have more := ih false others
    rw [itemsText_cons, List.length_append, List.length_append, List.length_cons]
    omega

theorem length_lt_fieldsText (first : Bool) (fields : List (String × Value)) :
    fields.length < (fieldsText first fields).length := by
  induction fields generalizing first with
  | nil =>
    rw [fieldsText_nil]
    exact Nat.one_pos
  | cons f fields ih =>
    have more := ih false
    rw [fieldsText_cons]
    simp only [List.length_append, List.length_cons]
    omega

end Value

/-! ### Values -/

/-- Fuel that lasts for a text of the value lets the reader take it. -/
def Readable (levels : Nat) (v : Value) : Prop :=
  ∀ fuel, 2 * v.chars.length ≤ fuel → Takes (readValue fuel levels) v.chars v

section
variable {fuel levels : Nat}

theorem readItems_succ {position : Nat} {cs text more rest : List Char} {v : Value}
    {items : List Value} (next : nextItem (position = 0) cs = .ok (true, text))
    (item : readValue fuel levels text = .ok (v, more))
    (later : readItems fuel levels (position + 1) more = .ok (items, rest)) :
    readItems (fuel + 1) levels position cs = .ok (v :: items, rest) := by
  simp only [readItems, next, item, later, bind, Except.bind, within, ↓reduceIte]
  rfl

theorem readFields_succ {first : Bool} {key : String} {cs text more rest : List Char} {v : Value}
    {fields : List (String × Value)} (next : nextKey first cs = .ok (some key, ':' :: text))
    (value : readValue fuel levels text = .ok (v, more))
    (later : readFields fuel levels false more = .ok (fields, rest)) :
    readFields (fuel + 1) levels first cs = .ok ((key, v) :: fields, rest) := by
  simp only [readFields, next, readColon_cons, value, later, bind, Except.bind, within]
  rfl

theorem readItems_itemsText {items : List Value}
    (readable : ∀ v ∈ items, Starts v.chars ∧ Readable levels v) (rest : List Char) :
    ∀ {fuel position : Nat} {first : Bool}, first = decide (position = 0) →
      2 * (Value.itemsText first items).length ≤ fuel →
      readItems fuel levels position (Value.itemsText first items ++ rest) =
        .ok (items, ']' :: rest) := by
  induction items with
  | nil =>
    intro fuel position first place enough
    rw [Value.itemsText_nil, List.length_singleton] at enough
    obtain ⟨fuel, rfl⟩ := Nat.exists_eq_add_one.2 (show 0 < fuel by omega)
    rw [Value.itemsText_nil, readItems, List.singleton_append, nextItem_close]
    rfl
  | cons v items ih =>
    intro fuel position first place enough
    obtain ⟨⟨starts, reads⟩, others⟩ := List.forall_mem_cons.1 readable
    have text := starts.length_pos
    have more := Value.length_lt_itemsText false fun v member => (others v member).1
    rw [Value.itemsText_cons] at enough ⊢
    simp only [List.length_append] at enough
    obtain ⟨fuel, rfl⟩ := Nat.exists_eq_add_one.2 (show 0 < fuel by omega)
    rw [List.append_assoc, List.append_assoc]
    have next := nextItem_separator first (starts.append (Value.itemsText false items ++ rest))
    rw [place] at next ⊢
    refine readItems_succ next (reads fuel (by omega) _ (Value.closes_itemsText items rest)) ?_
    exact ih others (by simp) (by omega)

theorem readFields_fieldsText {fields : List (String × Value)}
    (readable : ∀ f ∈ fields, Readable levels f.2) (rest : List Char) :
    ∀ {fuel : Nat} {first : Bool}, 2 * (Value.fieldsText first fields).length ≤ fuel →
      readFields fuel levels first (Value.fieldsText first fields ++ rest) =
        .ok (fields, '\x7d' :: rest) := by
  induction fields with
  | nil =>
    intro fuel first enough
    rw [Value.fieldsText_nil, List.length_singleton] at enough
    obtain ⟨fuel, rfl⟩ := Nat.exists_eq_add_one.2 (show 0 < fuel by omega)
    rw [Value.fieldsText_nil, readFields, List.singleton_append, nextKey_close]
    rfl
  | cons f fields ih =>
    intro fuel first enough
    obtain ⟨key, v⟩ := f
    obtain ⟨reads, others⟩ : Readable levels v ∧ ∀ f ∈ fields, Readable levels f.2 :=
      List.forall_mem_cons.1 readable
    have more := Value.length_lt_fieldsText false fields
    rw [Value.fieldsText_cons] at enough ⊢
    simp only [List.length_append, List.length_cons] at enough
    obtain ⟨fuel, rfl⟩ := Nat.exists_eq_add_one.2 (show 0 < fuel by omega)
    rw [List.append_assoc, List.append_assoc, List.cons_append, List.append_assoc]
    refine readFields_succ (nextKey_separator first key _)
      (reads fuel (by omega) _ (Value.closes_fieldsText fields rest)) ?_
    exact ih others (by omega)

end

theorem readValue_digit {fuel levels : Nat} {c : Char} (digit : c.isDigit = true)
    (rest : List Char) :
    readValue (fuel + 1) levels (c :: rest) =
      (do let (n, rest) ← readNumber false (c :: rest)
          return (.number n, rest)) := by
  have other {d : Char} (word : d.isDigit = false) : c ≠ d := by
    rintro rfl
    rw [digit] at word
    cases word
  simp only [readValue, skipBlank_cons (plain_of_isDigit digit).1, if_neg (other (d := 'n') rfl),
    if_neg (other (d := 't') rfl), if_neg (other (d := 'f') rfl), if_neg (other (d := '-') rfl),
    digit, ↓reduceIte]

theorem readValue_int {fuel levels : Nat} {n : Int} (fits : Fits n) :
    Takes (readValue (fuel + 1) levels) (intChars n) (.int n) := by
  intro rest closes
  have digits := readNumber_toDigits (decide (n < 0)) (natAbs_lt_of_fits fits) closes
  rw [wholeNumber_natAbs fits] at digits
  by_cases negative : n < 0
  · have text : intChars n ++ rest = '-' :: (Nat.toDigits 10 n.natAbs ++ rest) := by
      simp [intChars, signChars, negative]
    rw [decide_eq_true negative] at digits
    have plain : isBlank '-' = false := rfl
    simp only [text, readValue, skipBlank_cons plain, Char.reduceEq, ↓reduceIte, digits]
    rfl
  · have text : intChars n ++ rest = Nat.toDigits 10 n.natAbs ++ rest := by
      simp [intChars, signChars, negative]
    obtain ⟨c, more, shape⟩ := Text.exists_toDigits_cons n.natAbs
    have digit : c.isDigit = true := Text.isDigit_of_mem_toDigits (by rw [shape]; simp)
    rw [decide_eq_false negative, shape, List.cons_append] at digits
    rw [text, shape, List.cons_append, readValue_digit digit, digits]
    rfl

theorem readValue_null {fuel levels : Nat} :
    Takes (readValue (fuel + 1) levels) nullChars .null := by
  intro rest _
  have plain : isBlank 'n' = false := rfl
  simp only [nullChars, List.cons_append, List.nil_append, readValue, skipBlank_cons plain,
    ↓reduceIte, readWord]
  rfl

theorem readValue_bool {fuel levels : Nat} (b : Bool) :
    Takes (readValue (fuel + 1) levels) (boolChars b) (.bool b) := by
  intro rest _
  have plain : isBlank 't' = false ∧ isBlank 'f' = false := ⟨rfl, rfl⟩
  cases b <;>
    simp only [boolChars, List.cons_append, List.nil_append, readValue, skipBlank_cons plain.1,
      skipBlank_cons plain.2, Char.reduceEq, ↓reduceIte, readWord] <;>
    rfl

theorem readValue_string {fuel levels : Nat} (s : String) :
    Takes (readValue (fuel + 1) levels) (stringChars s) (.string s) := by
  intro rest _
  have plain : isBlank '"' = false := rfl
  have digit : Char.isDigit '"' = false := rfl
  simp only [stringChars_append, readValue, skipBlank_cons plain, Char.reduceEq, ↓reduceIte, digit,
    Bool.false_eq_true, readString_stringChars]
  rfl

theorem readValue_array {fuel levels : Nat} (deep : 1 < levels) {text rest : List Char}
    {items : List Value} (read : readItems fuel (levels - 1) 0 text = .ok (items, ']' :: rest)) :
    readValue (fuel + 1) levels ('[' :: text) = .ok (.array items, rest) := by
  have plain : isBlank '[' = false := rfl
  have digit : Char.isDigit '[' = false := rfl
  simp only [readValue, skipBlank_cons plain, Char.reduceEq, ↓reduceIte, digit, Bool.false_eq_true,
    if_neg (Nat.not_le.2 deep), read, bind, Except.bind, closeArray_cons]
  rfl

theorem readValue_object {fuel levels : Nat} (deep : 1 < levels) {text rest : List Char}
    {fields : List (String × Value)}
    (read : readFields fuel (levels - 1) true text = .ok (fields, '\x7d' :: rest)) :
    readValue (fuel + 1) levels ('\x7b' :: text) = .ok (.object fields, rest) := by
  have plain : isBlank '\x7b' = false := rfl
  have digit : Char.isDigit '\x7b' = false := rfl
  simp only [readValue, skipBlank_cons plain, Char.reduceEq, ↓reduceIte, digit, Bool.false_eq_true,
    if_neg (Nat.not_le.2 deep), read, bind, Except.bind, closeObject_cons]
  rfl

theorem Readable.of_succ {levels : Nat} {v : Value} (whole : v.Whole)
    (takes : ∀ fuel, 2 * v.chars.length ≤ fuel + 1 →
      Takes (readValue (fuel + 1) levels) v.chars v) : Readable levels v := by
  intro fuel enough
  have text := (Value.starts_chars whole).length_pos
  obtain ⟨fuel, rfl⟩ := Nat.exists_eq_add_one.2 (show 0 < fuel by omega)
  exact takes fuel enough

theorem Value.readable {v : Value} :
    v.Whole → ∀ {levels : Nat}, v.depth < levels → Readable levels v := by
  induction v using Value.induction with
  | null => exact fun whole _ _ => .of_succ whole fun fuel _ => readValue_null
  | bool b => exact fun whole _ _ => .of_succ whole fun fuel _ => readValue_bool b
  | number n =>
    intro whole levels _
    cases n with
    | int n => exact .of_succ whole fun fuel _ => readValue_int whole
    | float x => cases whole
  | string s => exact fun whole _ _ => .of_succ whole fun fuel _ => readValue_string s
  | array items ih =>
    intro whole levels deep
    have nested : depthItems items < levels - 1 := by
      rw [depth] at deep
      omega
    have readable : ∀ v ∈ items, Starts v.chars ∧ Readable (levels - 1) v := fun v member =>
      have whole := wholeItems_iff.1 whole v member
      ⟨starts_chars whole, ih v member whole
        (Nat.lt_of_le_of_lt (depthItems_le_iff.1 (Nat.le_refl _) v member) nested)⟩
    refine .of_succ whole fun fuel enough rest _ => ?_
    rw [chars_array, List.length_cons] at enough
    have opening : true = decide (0 = 0) := rfl
    exact readValue_array (by omega) (readItems_itemsText readable rest opening (by omega))
  | object fields ih =>
    intro whole levels deep
    have nested : depthFields fields < levels - 1 := by
      rw [depth] at deep
      omega
    have readable : ∀ f ∈ fields, Readable (levels - 1) f.2 := fun f member =>
      ih f member (wholeFields_iff.1 whole f member)
        (Nat.lt_of_le_of_lt (depthFields_le_iff.1 (Nat.le_refl _) f member) nested)
    refine .of_succ whole fun fuel enough rest _ => ?_
    rw [chars_object, List.length_cons] at enough
    exact readValue_object (by omega) (readFields_fieldsText readable rest (by omega))

/-- A value without fractions is read back, its objects brought into key order. -/
theorem parse_text {v : Value} (whole : v.Whole) (shallow : v.depth < nestingLimit) :
    parse v.text = .ok v.sorted := by
  have enough : 2 * v.chars.length ≤ fuelFor v.chars := Nat.le_add_right _ 2
  have read := Value.readable whole shallow (fuelFor v.chars) enough [] closes_nil
  rw [List.append_nil] at read
  rw [parse, Value.text, String.toList_ofList, read]
  rfl

theorem canonical_of_parse {text : String} {v : Value} (read : parse text = .ok v) :
    v.Canonical := by
  obtain ⟨⟨found, rest⟩, -, ended⟩ := bind_eq_ok read
  obtain ⟨_, -, sorted⟩ := bind_eq_ok ended
  cases sorted
  exact found.canonical_sorted

end AppHost.Json
