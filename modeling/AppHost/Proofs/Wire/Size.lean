import AppHost.Proofs.Wire.Rows
import AppHost.Wire.Message

/-!
How much room messages take. What a reader leaves is no longer than what it was given, and a text
takes no more room in the message than it took in the bytes. So a message that was read is not
written in many more bytes than it was read from.
-/

set_option autoImplicit false
namespace AppHost.Wire

variable {α β : Type} {bytes rest : List UInt8}

/-! ### What readers leave -/

theorem length_varintFrom_le {place n : Nat} (within : place ≤ 9)
    (read : readVarintFrom place bytes = some (n, rest)) :
    (varintFrom (9 - place) n).length + rest.length ≤ bytes.length := by
  induction bytes generalizing place n rest with
  | nil => cases read
  | cons b bytes ih =>
    rw [readVarintFrom] at read
    split at read
    · rename_i last
      subst last
      split at read
      · cases read
        simp only [Nat.sub_self, varintFrom, List.length_cons, List.length_nil]
        omega
      · cases read
    · rename_i notLast
      obtain ⟨fuel, next⟩ : ∃ fuel, 9 - place = fuel + 1 := ⟨8 - place, by omega⟩
      rw [next, varintFrom]
      split at read
      · rename_i short
        cases read
        rw [if_pos short]
        simp only [List.length_cons, List.length_nil]
        omega
      · obtain ⟨⟨m, more⟩, tail, same⟩ := Option.map_eq_some_iff.1 read
        cases same
        have later := ih (by omega) tail
        rw [show 9 - (place + 1) = fuel by omega] at later
        have byte := b.toNat_lt
        split
        · simp only [List.length_cons, List.length_nil]
          omega
        · rw [show (b.toNat - 128 + 128 * m) / 128 = m by omega]
          simp only [List.length_cons]
          omega

theorem length_takeVarint {n : Nat} (taken : takeVarint bytes = .ok (n, rest)) :
    (varint n).length + rest.length ≤ bytes.length := by
  unfold takeVarint at taken
  split at taken
  · rename_i answer read
    cases taken
    exact length_varintFrom_le (Nat.zero_le 9) read
  · cases taken

theorem length_takeKey {number : Nat} {wireType : WireType}
    (taken : takeKey bytes = .ok (number, wireType, rest)) : rest.length < bytes.length := by
  obtain ⟨key, split, opens⟩ := front_of_takeKey taken
  have alone := opens []
  rw [List.append_nil] at alone
  have positive := length_pos_of_takeKey alone
  rw [split, List.length_append]
  omega

theorem length_of_skipped {fuel levels number : Nat} {wireType : WireType}
    (skipped : skipField fuel levels number wireType bytes = .ok rest) :
    rest.length ≤ bytes.length := by
  obtain ⟨p, split, -⟩ := (stands_of_skipped fuel).1 levels number wireType bytes rest skipped
  rw [split, List.length_append]
  exact Nat.le_add_left _ _

def textSize (number : Nat) (text : String) : Nat :=
  (delimited number (Text.encodeUtf8 text)).length

theorem length_key {number : Nat} (small : number < 16) (wireType : WireType) :
    (key number wireType).length = 1 := by
  have type := wireType.number_lt
  rw [key, varint, varintFrom, if_pos (by omega)]
  rfl

theorem length_takeText {number : Nat} (small : number < 16) {wireType : WireType} {text : String}
    (taken : takeText wireType bytes = .ok (text, rest)) :
    textSize number text + rest.length ≤ bytes.length + 1 := by
  obtain ⟨-, -, taken⟩ := bind_eq_ok taken
  obtain ⟨⟨payload, more⟩, delimited, taken⟩ := bind_eq_ok taken
  obtain ⟨⟨n, tail⟩, length, delimited⟩ := bind_eq_ok delimited
  have first := length_takeVarint length
  dsimp only at taken delimited
  split at delimited
  · cases delimited
  · rename_i enough
    cases delimited
    split at taken
    · rename_i decoded
      cases taken
      have payload : (Text.encodeUtf8 text).length = n := by
        rw [Text.encodeUtf8_of_decodeUtf8? decoded, List.length_take]
        omega
      rw [textSize, Wire.delimited, payload]
      simp only [List.length_append, length_key small, payload, List.length_drop]
      omega
    · cases taken

/-! ### What fields add -/

/-- Reading the field adds no more to a size than its bytes, the key counted as one. -/
def Field.Bounded (f : Field α) (size : α → Nat) : Prop :=
  ∀ levels wireType bytes a b rest, f.merge levels wireType bytes a = .ok (b, rest) →
    size b + rest.length ≤ size a + bytes.length + 1

def Schema.Bounded (s : Schema α) (size : α → Nat) : Prop := ∀ f ∈ s.fields, f.Bounded size

namespace Schema
variable {s : Schema α} {size : α → Nat} {a b : α}

theorem size_mergeField (bounded : s.Bounded size) {levels number : Nat} {wireType : WireType}
    (merged : s.mergeField levels number wireType bytes a = .ok (b, rest)) :
    size b + rest.length ≤ size a + bytes.length + 1 := by
  unfold mergeField at merged
  split at merged
  · rename_i f known
    have member := List.mem_of_find?_eq_some known
    cases answer : f.merge levels wireType bytes a with
    | error fault =>
      rw [answer] at merged
      cases merged
    | ok answered =>
      rw [answer] at merged
      cases merged
      exact bounded f member levels wireType bytes a b rest answer
  · obtain ⟨after, skipped, same⟩ := bind_eq_ok merged
    cases same
    have := length_of_skipped skipped
    omega

theorem size_mergeUntil (bounded : s.Bounded size) {levels limit fuel : Nat}
    (merged : s.mergeUntil levels limit fuel bytes a = .ok (b, rest)) :
    size b + rest.length ≤ size a + bytes.length := by
  induction fuel generalizing bytes a with
  | zero => cases merged
  | succ fuel ih =>
    rw [mergeUntil] at merged
    split at merged
    · cases merged
      exact Nat.le_refl _
    · obtain ⟨⟨number, wireType, more⟩, key, merged⟩ := bind_eq_ok merged
      obtain ⟨⟨next, tail⟩, field, merged⟩ := bind_eq_ok merged
      have first := length_takeKey key
      have second := size_mergeField bounded field
      have third := ih merged
      omega

theorem size_mergeNested (bounded : s.Bounded size) {levels : Nat} {wireType : WireType}
    (merged : s.mergeNested levels wireType bytes a = .ok (b, rest)) :
    size b + rest.length ≤ size a + bytes.length := by
  obtain ⟨-, -, merged⟩ := bind_eq_ok merged
  split at merged
  · cases merged
  · obtain ⟨⟨n, tail⟩, length, merged⟩ := bind_eq_ok merged
    have first := length_takeVarint length
    dsimp only at merged
    split at merged
    · cases merged
    · obtain ⟨⟨next, more⟩, inner, merged⟩ := bind_eq_ok merged
      have second := size_mergeUntil bounded inner
      dsimp only at merged
      split at merged
      · cases merged
        omega
      · cases merged

theorem size_decode (bounded : s.Bounded size) (decoded : s.decode bytes = .ok a) :
    size a ≤ size s.empty + bytes.length := by
  obtain ⟨⟨b, rest⟩, merged, same⟩ := bind_eq_ok decoded
  cases same
  have := size_mergeUntil bounded merged
  omega

end Schema

namespace Field
variable {number : Nat} {name : String} {size : α → Nat}

theorem bounded_text {get : α → String} {set : String → α → α} (small : number < 16)
    (grows : ∀ text a, size (set text a) ≤ size a + textSize number text) :
    (Field.text number name get set).Bounded size := by
  intro levels wireType bytes a b rest merged
  obtain ⟨⟨text, tail⟩, taken, same⟩ := bind_eq_ok merged
  cases same
  have first := length_takeText small taken
  have second := grows text a
  omega

theorem bounded_texts {get : α → List String} {set : List String → α → α} (small : number < 16)
    (grows : ∀ text a, size (set (get a ++ [text]) a) ≤ size a + textSize number text) :
    (Field.texts number name get set).Bounded size := by
  intro levels wireType bytes a b rest merged
  obtain ⟨⟨text, tail⟩, taken, same⟩ := bind_eq_ok merged
  cases same
  have first := length_takeText small taken
  have second := grows text a
  omega

theorem length_takeNumber {wireType : WireType} {n : Nat}
    (taken : takeNumber wireType bytes = .ok (n, rest)) : rest.length ≤ bytes.length := by
  obtain ⟨-, -, taken⟩ := bind_eq_ok taken
  have := length_takeVarint taken
  omega

theorem bounded_int64 {get : α → Int64} {set : Int64 → α → α}
    (grows : ∀ n a, size (set n a) ≤ size a) : (Field.int64 number name get set).Bounded size := by
  intro levels wireType bytes a b rest merged
  obtain ⟨⟨n, tail⟩, taken, same⟩ := bind_eq_ok merged
  cases same
  have first := length_takeNumber taken
  have second := grows (Int64.ofNat n) a
  omega

theorem bounded_int32 {get : α → Int32} {set : Int32 → α → α}
    (grows : ∀ n a, size (set n a) ≤ size a) : (Field.int32 number name get set).Bounded size := by
  intro levels wireType bytes a b rest merged
  obtain ⟨⟨n, tail⟩, taken, same⟩ := bind_eq_ok merged
  cases same
  have first := length_takeNumber taken
  have second := grows (Int32.ofNat n) a
  omega

theorem bounded_message {inner : Schema β} {get : α → Option β} {set : β → α → α}
    {innerSize : β → Nat} (bounded : inner.Bounded innerSize)
    (grows : ∀ b a, size (set b a) + innerSize ((get a).getD inner.empty) ≤ size a + innerSize b) :
    (Field.message number name inner get set).Bounded size := by
  intro levels wireType bytes a b rest merged
  obtain ⟨⟨next, tail⟩, nested, same⟩ := bind_eq_ok merged
  cases same
  have first := Schema.size_mergeNested bounded nested
  have second := grows next a
  omega

end Field

/-! ### What messages add up to -/

theorem length_varintFrom_le_succ (fuel n : Nat) : (varintFrom fuel n).length ≤ fuel + 1 := by
  induction fuel generalizing n with
  | zero => exact Nat.le_refl 1
  | succ fuel ih =>
    rw [varintFrom]
    split
    · simp
    · exact Nat.succ_le_succ (ih (n / 128))

theorem length_varint_le (n : Nat) : (varint n).length ≤ 10 := length_varintFrom_le_succ 9 n

theorem length_delimited_le_add (number : Nat) (payload : List UInt8) :
    (delimited number payload).length ≤ payload.length + 20 := by
  have first := length_varint_le (number * 8 + WireType.lengthDelimited.number)
  have second := length_varint_le payload.length
  simp only [delimited, key, List.length_append]
  omega

def textsSize (number : Nat) (texts : List String) : Nat :=
  (texts.flatMap fun text => delimited number (Text.encodeUtf8 text)).length

theorem textsSize_append (number : Nat) (texts : List String) (text : String) :
    textsSize number (texts ++ [text]) = textsSize number texts + textSize number text := by
  rw [textsSize, List.flatMap_append, List.length_append, List.flatMap_singleton]
  rfl

theorem textSize_empty_le (number : Nat) (text : String) :
    textSize number "" ≤ textSize number text := by
  have length := length_varint_pos (Text.encodeUtf8 text).length
  have blank : (Text.encodeUtf8 "").length = 0 := rfl
  simp only [textSize, delimited, List.length_append, blank, show (varint 0).length = 1 from rfl]
  omega

section
variable {number : Nat} {name : String} {a : α}

theorem length_write_text_le {get : α → String} {set : String → α → α} :
    ((Field.text number name get set).write a).length ≤ textSize number (get a) := by
  simp only [Field.text, textSize]
  split
  · exact Nat.zero_le _
  · exact Nat.le_refl _

theorem length_write_texts_le {get : α → List String} {set : List String → α → α} :
    ((Field.texts number name get set).write a).length ≤ textsSize number (get a) :=
  Nat.le_refl _

theorem length_write_int64_le {get : α → Int64} {set : Int64 → α → α} :
    ((Field.int64 number name get set).write a).length ≤ 20 := by
  have first := length_varint_le (number * 8 + WireType.varint.number)
  have second := length_varint_le (get a).toUInt64.toNat
  simp only [Field.int64]
  split
  · exact Nat.zero_le _
  · rw [List.length_append, key]
    omega

theorem length_write_int32_le {get : α → Int32} {set : Int32 → α → α} :
    ((Field.int32 number name get set).write a).length ≤ 20 := by
  have first := length_varint_le (number * 8 + WireType.varint.number)
  have second := length_varint_le (get a).toInt64.toUInt64.toNat
  simp only [Field.int32]
  split
  · exact Nat.zero_le _
  · rw [List.length_append, key]
    omega

theorem length_cons_le {f : Field α} {fields : List (Field α)} {m n : Nat}
    (first : (f.write a).length ≤ m) (later : (fields.flatMap (·.write a)).length ≤ n) :
    ((f :: fields).flatMap (·.write a)).length ≤ m + n := by
  rw [List.flatMap_cons, List.length_append]
  exact Nat.add_le_add first later

end

/-- Reading adds no more to a size than its bytes, and what is written is not much longer. -/
structure Schema.Sized (s : Schema α) (size : α → Nat) : Prop where
  bounded : s.Bounded size
  size_empty : size s.empty ≤ 40
  length_encode : ∀ a, (s.encode a).length ≤ size a + 60

/-- What is written of a message takes little more room than the bytes it was read from. -/
theorem Schema.length_encode_of_decode {s : Schema α} {size : α → Nat} (sized : s.Sized size)
    {a : α} (decoded : s.decode bytes = .ok a) : (s.encode a).length ≤ bytes.length + 100 := by
  have read := size_decode sized.bounded decoded
  have blank := sized.size_empty
  have written := sized.length_encode a
  omega

theorem length_timestamp_le (t : Timestamp) : (timestamp.encode t).length ≤ 40 := by
  have length : (timestamp.encode t).length ≤ _ :=
    length_cons_le length_write_int64_le (length_cons_le length_write_int32_le (Nat.zero_le 0))
  exact length

theorem bounded_timestamp : timestamp.Bounded fun _ => 0 := by
  intro f member
  simp only [timestamp, List.mem_cons, List.not_mem_nil, or_false] at member
  rcases member with rfl | rfl
  · exact Field.bounded_int64 fun _ _ => Nat.le_refl 0
  · exact Field.bounded_int32 fun _ _ => Nat.le_refl 0

theorem bounded_nothing (name : String) : (nothing name).Bounded fun _ => 0 := by
  intro f member
  cases member

theorem sized_nothing (name : String) : (nothing name).Sized fun _ => 0 where
  bounded := bounded_nothing name
  size_empty := Nat.zero_le _
  length_encode _ := Nat.zero_le _

theorem sized_pageRequest (name : String) :
    (pageRequest name).Sized fun p => textSize 1 p.applicationId + textSize 2 p.pageId where
  bounded := by
    intro f member
    simp only [pageRequest, List.mem_cons, List.not_mem_nil, or_false] at member
    rcases member with rfl | rfl
    · exact Field.bounded_text (by decide) fun _ _ => by dsimp only; omega
    · exact Field.bounded_text (by decide) fun _ _ => by dsimp only; omega
  size_empty := show textSize 1 "" + textSize 2 "" ≤ 40 by decide
  length_encode p := by
    have length : ((pageRequest name).encode p).length ≤ _ :=
      length_cons_le length_write_text_le (length_cons_le length_write_text_le (Nat.zero_le 0))
    omega

theorem sized_pageAnswer :
    pageAnswer.Sized fun p => textSize 1 p.fileName + textSize 2 p.title where
  bounded := by
    intro f member
    simp only [pageAnswer, List.mem_cons, List.not_mem_nil, or_false] at member
    rcases member with rfl | rfl | rfl
    · exact Field.bounded_text (by decide) fun _ _ => by dsimp only; omega
    · exact Field.bounded_text (by decide) fun _ _ => by dsimp only; omega
    · exact Field.bounded_message bounded_timestamp fun _ _ => Nat.le_refl _
  size_empty := by decide
  length_encode p := by
    have version : ((Field.message 3 "application_version" timestamp PageAnswer.version
        fun t p => { p with version := some t }).write p).length ≤ 60 := by
      simp only [Field.message]
      cases p.version with
      | none => exact Nat.zero_le _
      | some t =>
        have inner := length_timestamp_le t
        have outer := length_delimited_le_add 3 (timestamp.encode t)
        dsimp only
        omega
    have length : (pageAnswer.encode p).length ≤ _ :=
      length_cons_le length_write_text_le (length_cons_le length_write_text_le
        (length_cons_le version (Nat.zero_le 0)))
    omega

theorem length_event_le (e : ServerEvent) :
    (event.encode e).length ≤ textSize 1 e.name + textsSize 2 e.arguments := by
  have length : (event.encode e).length ≤ _ :=
    length_cons_le length_write_text_le (length_cons_le length_write_texts_le (Nat.zero_le 0))
  exact length

theorem sized_event : event.Sized fun e => textSize 1 e.name + textsSize 2 e.arguments where
  bounded := by
    intro f member
    simp only [event, List.mem_cons, List.not_mem_nil, or_false] at member
    rcases member with rfl | rfl
    · exact Field.bounded_text (by decide) fun _ _ => by dsimp only; omega
    · exact Field.bounded_texts (by decide) fun _ _ => by rw [textsSize_append]; dsimp only; omega
  size_empty := by decide
  length_encode e := Nat.le_add_right_of_le (length_event_le e)

theorem sized_invocation : invocation.Sized fun m =>
    textSize 1 m.applicationId + textSize 2 m.method + textsSize 3 m.arguments where
  bounded := by
    intro f member
    simp only [invocation, List.mem_cons, List.not_mem_nil, or_false] at member
    rcases member with rfl | rfl | rfl
    · exact Field.bounded_text (by decide) fun _ _ => by dsimp only; omega
    · exact Field.bounded_text (by decide) fun _ _ => by dsimp only; omega
    · exact Field.bounded_texts (by decide) fun _ _ => by rw [textsSize_append]; dsimp only; omega
  size_empty := by decide
  length_encode m := by
    have length : (invocation.encode m).length ≤ _ :=
      length_cons_le length_write_text_le (length_cons_le length_write_text_le
        (length_cons_le length_write_texts_le (Nat.zero_le 0)))
    omega

theorem sized_result : result.Sized fun r => textSize 1 r.result where
  bounded := by
    intro f member
    simp only [result, List.mem_cons, List.not_mem_nil, or_false] at member
    subst member
    exact Field.bounded_text (by decide) fun _ _ => by dsimp only; omega
  size_empty := by decide
  length_encode r := by
    have length : (result.encode r).length ≤ _ :=
      length_cons_le length_write_text_le (Nat.zero_le 0)
    omega

theorem sized_trigger : trigger.Sized fun t =>
    textSize 1 t.applicationId + textSize 2 t.pageId + textSize 3 t.name +
      textsSize 4 t.arguments where
  bounded := by
    intro f member
    simp only [trigger, List.mem_cons, List.not_mem_nil, or_false] at member
    rcases member with rfl | rfl | rfl | rfl
    · exact Field.bounded_text (by decide) fun _ _ => by dsimp only; omega
    · exact Field.bounded_text (by decide) fun _ _ => by dsimp only; omega
    · exact Field.bounded_text (by decide) fun _ _ => by dsimp only; omega
    · exact Field.bounded_texts (by decide) fun _ _ => by rw [textsSize_append]; dsimp only; omega
  size_empty := by decide
  length_encode t := by
    have length : (trigger.encode t).length ≤ _ :=
      length_cons_le length_write_text_le (length_cons_le length_write_text_le
        (length_cons_le length_write_text_le (length_cons_le length_write_texts_le
          (Nat.zero_le 0))))
    omega

/-- The event a further event of the update is read into. -/
def eventOf (u : Update) : ServerEvent := (u.variant.bind Variant.event?).getD event.empty

theorem sized_update : update.Sized fun u =>
    textSize 1 (eventOf u).name + textsSize 2 (eventOf u).arguments where
  bounded := by
    intro f member
    simp only [update, List.mem_cons, List.not_mem_nil, or_false] at member
    rcases member with rfl | rfl
    · refine Field.bounded_message (bounded_nothing _) fun _ u => ?_
      have blank := textSize_empty_le 1 (eventOf u).name
      change textSize 1 "" + 0 + 0 ≤ _
      omega
    · refine Field.bounded_message sized_event.bounded fun e u => ?_
      change _ + (textSize 1 (eventOf u).name + textsSize 2 (eventOf u).arguments) ≤ _
      exact Nat.le_of_eq (Nat.add_comm _ _)
  size_empty := by decide
  length_encode u := by
    obtain ⟨_ | m | e⟩ := u
    · exact Nat.zero_le _
    · exact Nat.le_add_left_of_le (show 2 ≤ 60 by decide)
    · have inner := length_event_le e
      have outer := length_delimited_le_add 2 (event.encode e)
      have whole : update.encode ⟨some (.event e)⟩ = delimited 2 (event.encode e) := by
        exact List.append_nil _
      rw [whole]
      change _ ≤ textSize 1 e.name + textsSize 2 e.arguments + 60
      omega

theorem Kind.sized (k : Kind) : ∃ size, k.schema.Sized size := by
  cases k with
  | resolveRequest => exact ⟨_, sized_pageRequest _⟩
  | resolveResponse => exact ⟨_, sized_pageAnswer⟩
  | consumeRequest => exact ⟨_, sized_pageRequest _⟩
  | streamUpdate => exact ⟨_, sized_update⟩
  | heartbeatEvent => exact ⟨_, sized_nothing _⟩
  | serverEvent => exact ⟨_, sized_event⟩
  | methodRequest => exact ⟨_, sized_invocation⟩
  | methodResponse => exact ⟨_, sized_result⟩
  | triggerRequest => exact ⟨_, sized_trigger⟩
  | triggerResponse => exact ⟨_, sized_nothing _⟩

end AppHost.Wire
