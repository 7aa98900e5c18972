import AppHost.Wire.Schema

/-!
Reading back what was written. Bytes that hold whole fields take a message from one state to
another, whatever follows them; so do two rows of such bytes one after the other, and what a field
writes is such a row.
-/

set_option autoImplicit false
namespace AppHost.Wire

variable {α β : Type}

theorem WireType.number_lt (w : WireType) : w.number < 8 := by cases w <;> decide

theorem length_varint_pos (n : Nat) : 0 < (varint n).length := by
  rw [varint, varintFrom]
  split <;> simp

theorem takeVarint_varint {n : Nat} (small : n < 2 ^ 64) (rest : List UInt8) :
    takeVarint (varint n ++ rest) = .ok (n, rest) := by
  rw [takeVarint, readVarint_varint small]

def IsFieldNumber (number : Nat) : Prop := 0 < number ∧ number < 2 ^ 29

instance (number : Nat) : Decidable (IsFieldNumber number) := inferInstanceAs (Decidable (_ ∧ _))

theorem takeKey_key {number : Nat} (valid : IsFieldNumber number) (wireType : WireType)
    (rest : List UInt8) : takeKey (key number wireType ++ rest) = .ok (number, wireType, rest) := by
  obtain ⟨positive, small⟩ := valid
  have type := wireType.number_lt
  have low : (number * 8 + wireType.number) % 8 = wireType.number := by omega
  have high : (number * 8 + wireType.number) / 8 = number := by omega
  have below : ¬2 ^ 32 ≤ number * 8 + wireType.number := by omega
  simp only [takeKey, key, takeVarint_varint (show number * 8 + wireType.number < 2 ^ 64 by omega)]
  simp only [bind, Except.bind, low, high, if_neg below, WireType.ofNumber?_number,
    if_neg (Nat.ne_of_gt positive)]
  rfl

theorem takeDelimited_append {payload : List UInt8} (fits : payload.length < 2 ^ 64)
    (rest : List UInt8) :
    takeDelimited (varint payload.length ++ (payload ++ rest)) = .ok (payload, rest) := by
  have within : ¬(payload ++ rest).length < payload.length := by simp
  simp only [takeDelimited, takeVarint_varint fits, bind, Except.bind, if_neg within,
    List.take_left, List.drop_left]
  rfl

theorem takeText_append {text : String} (fits : (Text.encodeUtf8 text).length < 2 ^ 64)
    (rest : List UInt8) :
    takeText .lengthDelimited
        (varint (Text.encodeUtf8 text).length ++ (Text.encodeUtf8 text ++ rest)) =
      .ok (text, rest) := by
  simp only [takeText, expectType, if_true, takeDelimited_append fits, bind, Except.bind,
    Text.decodeUtf8?_encodeUtf8]
  rfl

namespace Schema
variable {s : Schema α} {levels : Nat} {bytes more : List UInt8} {a b c : α}

/-- Bytes that take a message from one state to another, whatever follows them. -/
def Reads (s : Schema α) (levels : Nat) (bytes : List UInt8) (a b : α) : Prop :=
  ∃ rounds ≤ bytes.length, ∀ limit fuel rest, limit ≤ rest.length →
    s.mergeUntil levels limit (fuel + rounds) (bytes ++ rest) a =
      s.mergeUntil levels limit fuel rest b

theorem Reads.nil (s : Schema α) (levels : Nat) (a : α) : s.Reads levels [] a a :=
  ⟨0, Nat.le_refl 0, fun _ _ _ _ => rfl⟩

theorem Reads.append (first : s.Reads levels bytes a b) (second : s.Reads levels more b c) :
    s.Reads levels (bytes ++ more) a c := by
  obtain ⟨m, mLe, first⟩ := first
  obtain ⟨n, nLe, second⟩ := second
  refine ⟨n + m, by rw [List.length_append]; omega, fun limit fuel rest within => ?_⟩
  rw [List.append_assoc, ← Nat.add_assoc, first limit (fuel + n) (more ++ rest),
    second limit fuel rest within]
  rw [List.length_append]
  omega

theorem reads_key {number : Nat} {wireType : WireType} {opening payload : List UInt8}
    (opens : ∀ rest, takeKey (opening ++ rest) = .ok (number, wireType, rest))
    (merges : ∀ rest, s.mergeField levels number wireType (payload ++ rest) a = .ok (b, rest)) :
    s.Reads levels (opening ++ payload) a b := by
  have first : 0 < opening.length := by
    cases opening with
    | nil => cases opens []
    | cons byte opening => exact Nat.succ_pos _
  refine ⟨1, by rw [List.length_append]; omega, fun limit fuel rest within => ?_⟩
  have longer : ¬(opening ++ payload ++ rest).length ≤ limit := by
    simp only [List.length_append]
    omega
  rw [mergeUntil, if_neg longer, List.append_assoc, opens]
  simp only [bind, Except.bind, merges]

theorem reads_field {f : Field α} {wireType : WireType} {payload : List UInt8}
    (known : s.fields.find? (·.number = f.number) = some f) (valid : IsFieldNumber f.number)
    (merges : ∀ rest, f.merge levels wireType (payload ++ rest) a = .ok (b, rest)) :
    s.Reads levels (key f.number wireType ++ payload) a b := by
  refine reads_key (takeKey_key valid wireType) fun rest => ?_
  simp only [mergeField, known, merges]
  rfl

theorem mergeUntil_of_reads (reads : s.Reads levels bytes a b) (rest : List UInt8) {fuel : Nat}
    (enough : bytes.length < fuel) :
    s.mergeUntil levels rest.length fuel (bytes ++ rest) a = .ok (b, rest) := by
  obtain ⟨rounds, within, reads⟩ := reads
  obtain ⟨left, rfl⟩ : ∃ left, fuel = left + 1 + rounds := ⟨fuel - rounds - 1, by omega⟩
  rw [reads rest.length (left + 1) rest (Nat.le_refl _), mergeUntil, if_pos (Nat.le_refl _)]

theorem decode_of_reads (reads : s.Reads nestingLimit bytes s.empty a) : s.decode bytes = .ok a := by
  have whole := mergeUntil_of_reads reads [] (Nat.lt_succ_self _)
  rw [List.append_nil] at whole
  rw [decode]
  exact congrArg (Except.map Prod.fst) whole

theorem mergeNested_of_reads (reads : s.Reads levels bytes a b) (fits : bytes.length < 2 ^ 64)
    (rest : List UInt8) :
    s.mergeNested (levels + 1) .lengthDelimited (varint bytes.length ++ (bytes ++ rest)) a =
      .ok (b, rest) := by
  have within : ¬(bytes ++ rest).length < bytes.length := by simp
  have limit : (bytes ++ rest).length - bytes.length = rest.length := by simp
  have enough : bytes.length < (bytes ++ rest).length + 1 := by
    rw [List.length_append]
    omega
  have inner := mergeUntil_of_reads reads rest enough
  simp only [mergeNested, expectType, if_true, bind, Except.bind, takeVarint_varint fits,
    if_neg within, limit, Nat.add_sub_cancel, Nat.add_one_ne_zero, if_false, inner]
  rfl

theorem length_write_le {f : Field α} (member : f ∈ s.fields) (a : α) :
    (f.write a).length ≤ (s.encode a).length := by
  obtain ⟨before, after, fields⟩ := List.append_of_mem member
  rw [encode, fields, List.flatMap_append, List.flatMap_cons, List.length_append,
    List.length_append]
  omega

end Schema

/-! ### What fields write -/

theorem ofNat_toNat_toUInt64 (n : Int64) : Int64.ofNat n.toUInt64.toNat = n := by
  simp [Int64.ofNat]

theorem ofNat_toNat_toInt64 (n : Int32) : Int32.ofNat n.toInt64.toUInt64.toNat = n := by
  rw [← Int64.toInt32_ofNat', ofNat_toNat_toUInt64, Int32.toInt32_toInt64]

theorem length_delimited_le (number : Nat) (payload : List UInt8) :
    payload.length ≤ (delimited number payload).length := by
  simp only [delimited, List.length_append]
  omega

/-- A part of a message can be looked at and replaced by itself. -/
structure IsPart (get : α → β) (set : β → α → α) : Prop where
  get_set : ∀ b a, get (set b a) = b := by intros; rfl
  set_get : ∀ a, set (get a) a = a := by intros; rfl
  set_set : ∀ b c a, set b (set c a) = set b a := by intros; rfl

/-- Of two values the later one counts, unless it is the initial one, which is not written. -/
def lastOf [DecidableEq β] (initial earlier later : β) : β :=
  if later = initial then earlier else later

@[simp] theorem lastOf_initial [DecidableEq β] (initial later : β) :
    lastOf initial initial later = later := by
  rw [lastOf]
  split <;> simp_all

namespace Schema
variable {s : Schema α} {levels number : Nat} {name : String} {a x : α}

theorem reads_cons {f : Field α} {fields : List (Field α)} {y z : α}
    (first : s.Reads levels (f.write a) x y)
    (later : s.Reads levels (fields.flatMap (·.write a)) y z) :
    s.Reads levels ((f :: fields).flatMap (·.write a)) x z :=
  first.append later

theorem reads_delimited {f : Field α} {payload : List UInt8} {x y : α}
    (known : s.fields.find? (·.number = f.number) = some f) (valid : IsFieldNumber f.number)
    (merges : ∀ rest, f.merge levels .lengthDelimited
      (varint payload.length ++ (payload ++ rest)) x = .ok (y, rest)) :
    s.Reads levels (delimited f.number payload) x y := by
  rw [delimited, List.append_assoc]
  refine reads_field known valid fun rest => ?_
  rw [List.append_assoc]
  exact merges rest

theorem reads_text {get : α → String} {set : String → α → α} (part : IsPart get set)
    (known : s.fields.find? (·.number = number) = some (.text number name get set))
    (valid : IsFieldNumber number) (fits : (s.encode a).length < 2 ^ 64) :
    s.Reads levels ((Field.text number name get set).write a) x
      (set (lastOf "" (get x) (get a)) x) := by
  have whole := length_write_le (List.mem_of_find?_eq_some known) a
  simp only [Field.text] at whole ⊢
  split
  · rename_i empty
    rw [lastOf, if_pos (String.isEmpty_iff.1 empty), part.set_get]
    exact .nil s levels x
  · rename_i given
    rw [if_neg given] at whole
    rw [lastOf, if_neg (mt String.isEmpty_iff.2 given)]
    have payload := length_delimited_le number (Text.encodeUtf8 (get a))
    refine reads_delimited (f := .text number name get set) known valid fun rest => ?_
    simp only [Field.text, takeText_append
      (show (Text.encodeUtf8 (get a)).length < 2 ^ 64 by omega)]
    rfl

theorem reads_texts_from {get : α → List String} {set : List String → α → α}
    (part : IsPart get set)
    (known : s.fields.find? (·.number = number) = some (.texts number name get set))
    (valid : IsFieldNumber number) {texts : List String}
    (fits : (texts.flatMap fun t => delimited number (Text.encodeUtf8 t)).length < 2 ^ 64) (x : α) :
    s.Reads levels (texts.flatMap fun t => delimited number (Text.encodeUtf8 t)) x
      (set (get x ++ texts) x) := by
  induction texts generalizing x with
  | nil =>
    rw [List.append_nil, part.set_get]
    exact .nil s levels x
  | cons text rest ih =>
    rw [List.flatMap_cons, List.length_append] at fits
    have payload := length_delimited_le number (Text.encodeUtf8 text)
    have first : s.Reads levels (delimited number (Text.encodeUtf8 text)) x
        (set (get x ++ [text]) x) := by
      refine reads_delimited (f := .texts number name get set) known valid fun rest => ?_
      simp only [Field.texts, takeText_append
        (show (Text.encodeUtf8 text).length < 2 ^ 64 by omega)]
      rfl
    have later := ih (by omega) (set (get x ++ [text]) x)
    rw [part.get_set, part.set_set, List.append_assoc, List.singleton_append] at later
    exact first.append later

theorem reads_texts {get : α → List String} {set : List String → α → α} (part : IsPart get set)
    (known : s.fields.find? (·.number = number) = some (.texts number name get set))
    (valid : IsFieldNumber number) (fits : (s.encode a).length < 2 ^ 64) :
    s.Reads levels ((Field.texts number name get set).write a) x (set (get x ++ get a) x) :=
  reads_texts_from part known valid
    (Nat.lt_of_le_of_lt (length_write_le (List.mem_of_find?_eq_some known) a) fits) x

theorem reads_int64 {get : α → Int64} {set : Int64 → α → α} (part : IsPart get set)
    (known : s.fields.find? (·.number = number) = some (.int64 number name get set))
    (valid : IsFieldNumber number) :
    s.Reads levels ((Field.int64 number name get set).write a) x
      (set (lastOf 0 (get x) (get a)) x) := by
  simp only [Field.int64]
  split
  · rename_i zero
    rw [lastOf, if_pos zero, part.set_get]
    exact .nil s levels x
  · rename_i given
    rw [lastOf, if_neg given]
    refine reads_field (f := .int64 number name get set) known valid fun rest => ?_
    simp only [Field.int64, takeNumber, expectType, if_true, bind, Except.bind,
      takeVarint_varint (UInt64.toNat_lt _), ofNat_toNat_toUInt64]
    rfl

theorem reads_int32 {get : α → Int32} {set : Int32 → α → α} (part : IsPart get set)
    (known : s.fields.find? (·.number = number) = some (.int32 number name get set))
    (valid : IsFieldNumber number) :
    s.Reads levels ((Field.int32 number name get set).write a) x
      (set (lastOf 0 (get x) (get a)) x) := by
  simp only [Field.int32]
  split
  · rename_i zero
    rw [lastOf, if_pos zero, part.set_get]
    exact .nil s levels x
  · rename_i given
    rw [lastOf, if_neg given]
    refine reads_field (f := .int32 number name get set) known valid fun rest => ?_
    simp only [Field.int32, takeNumber, expectType, if_true, bind, Except.bind,
      takeVarint_varint (UInt64.toNat_lt _), ofNat_toNat_toInt64]
    rfl

/-- What is written of a message is merged into the message that there is. -/
def Merges (s : Schema α) (levels : Nat) (merge : α → α → α) : Prop :=
  ∀ a x, (s.encode a).length < 2 ^ 64 → s.Reads levels (s.encode a) x (merge x a)

theorem reads_message {inner : Schema β} {get : α → Option β} {set : β → α → α}
    (known : s.fields.find? (·.number = number) = some (.message number name inner get set))
    (valid : IsFieldNumber number) (fits : (s.encode a).length < 2 ^ 64) {b : β}
    (given : get a = some b) {merge : β → β → β} (merges : inner.Merges levels merge) :
    s.Reads (levels + 1) ((Field.message number name inner get set).write a) x
      (set (merge ((get x).getD inner.empty) b) x) := by
  have whole := length_write_le (List.mem_of_find?_eq_some known) a
  simp only [Field.message, given] at whole ⊢
  have payload := length_delimited_le number (inner.encode b)
  have small : (inner.encode b).length < 2 ^ 64 := by omega
  refine reads_delimited (f := .message number name inner get set) known valid fun rest => ?_
  simp only [Field.message, mergeNested_of_reads (merges b _ small) small]
  rfl

theorem reads_message_of_none {inner : Schema β} {get : α → Option β} {set : β → α → α}
    (absent : get a = none) (x : α) :
    s.Reads levels ((Field.message number name inner get set).write a) x x := by
  simp only [Field.message, absent]
  exact .nil s levels x

theorem reads_optional {inner : Schema β} {get : α → Option β} (set : Option β → α → α)
    (part : IsPart get set)
    (known : s.fields.find? (·.number = number) =
      some (.message number name inner get fun b => set (some b)))
    (valid : IsFieldNumber number) (fits : (s.encode a).length < 2 ^ 64) {merge : β → β → β}
    (merges : inner.Merges levels merge) (fresh : ∀ b, merge inner.empty b = b) :
    s.Reads (levels + 1) ((Field.message number name inner get fun b => set (some b)).write a) x
      (set (Option.merge merge (get x) (get a)) x) := by
  cases given : get a with
  | none =>
    rw [Option.merge_none_right, part.set_get]
    exact reads_message_of_none given x
  | some b =>
    have reads := reads_message (x := x) known valid fits given merges
    cases before : get x with
    | none => rwa [before, Option.getD_none, fresh] at reads
    | some c => rwa [before] at reads

end Schema
end AppHost.Wire
