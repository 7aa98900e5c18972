import AppHost.Proofs.Attempts
import AppHost.Proofs.Wire.Reading

/-!
Bytes as rows of whole fields, whatever message they are meant for. The grammar says which bytes
those are; passing over a field takes exactly such bytes, and so does every field that a message
knows. What is read so far does not depend on what follows.
-/

set_option autoImplicit false
namespace AppHost.Wire

variable {α β : Type} {bytes rest front : List UInt8}

mutual
/-- What stands after the key of a field, with so many levels of groups left. -/
inductive Payload : Nat → Nat → WireType → List UInt8 → Prop
  | varint {levels number n : Nat} {bytes : List UInt8} (read : readVarint bytes = some (n, [])) :
      Payload (levels + 1) number .varint bytes
  | thirtyTwoBit {levels number : Nat} {bytes : List UInt8} (length : bytes.length = 4) :
      Payload (levels + 1) number .thirtyTwoBit bytes
  | sixtyFourBit {levels number : Nat} {bytes : List UInt8} (length : bytes.length = 8) :
      Payload (levels + 1) number .sixtyFourBit bytes
  | lengthDelimited {levels number : Nat} {length content : List UInt8}
      (read : readVarint length = some (content.length, [])) :
      Payload (levels + 1) number .lengthDelimited (length ++ content)
  -- A group ends with a key of its own number.
  | group {levels number : Nat} {numbers : List Nat} {fields close : List UInt8}
      (row : Row levels numbers fields) (closes : takeKey close = .ok (number, .endGroup, [])) :
      Payload (levels + 1) number .startGroup (fields ++ close)
/-- Whole fields one after the other, which have these numbers. -/
inductive Row : Nat → List Nat → List UInt8 → Prop
  | nil {levels : Nat} : Row levels [] []
  | cons {levels number : Nat} {wireType : WireType} {numbers : List Nat}
      {key payload rest : List UInt8} (opens : takeKey key = .ok (number, wireType, []))
      (stands : Payload levels number wireType payload) (row : Row levels numbers rest) :
      Row levels (number :: numbers) (key ++ (payload ++ rest))
end

/-! ### Readers take bytes from the front -/

section
variable {number n : Nat} {wireType : WireType}

theorem front_of_readVarintFrom {place : Nat} (read : readVarintFrom place bytes = some (n, rest)) :
    ∃ front, bytes = front ++ rest ∧
      ∀ more, readVarintFrom place (front ++ more) = some (n, more) := by
  induction bytes generalizing place n with
  | nil => cases read
  | cons b bytes ih =>
    rw [readVarintFrom] at read
    split at read
    · rename_i last
      split at read
      · rename_i small
        cases read
        refine ⟨[b], rfl, fun more => ?_⟩
        rw [List.singleton_append, readVarintFrom, if_pos last, if_pos small]
      · cases read
    · rename_i notLast
      split at read
      · rename_i short
        cases read
        refine ⟨[b], rfl, fun more => ?_⟩
        rw [List.singleton_append, readVarintFrom, if_neg notLast, if_pos short]
      · rename_i long
        obtain ⟨⟨m, left⟩, tail, same⟩ := Option.map_eq_some_iff.1 read
        cases same
        obtain ⟨front, split, later⟩ := ih tail
        refine ⟨b :: front, congrArg (b :: ·) split, fun more => ?_⟩
        rw [List.cons_append, readVarintFrom, if_neg notLast, if_neg long, later]
        rfl

theorem takeVarint_of_read (read : readVarint bytes = some (n, rest)) :
    takeVarint bytes = .ok (n, rest) := by
  rw [takeVarint, read]

theorem takeVarint_append (read : readVarint front = some (n, [])) (more : List UInt8) :
    takeVarint (front ++ more) = .ok (n, more) := by
  obtain ⟨used, split, later⟩ := front_of_readVarintFrom read
  rw [List.append_nil] at split
  exact takeVarint_of_read (split ▸ later more)

theorem front_of_takeVarint (taken : takeVarint bytes = .ok (n, rest)) :
    ∃ front, bytes = front ++ rest ∧ readVarint front = some (n, []) := by
  unfold takeVarint at taken
  split at taken
  · rename_i answer read
    cases taken
    obtain ⟨front, split, later⟩ := front_of_readVarintFrom read
    have whole := later []
    rw [List.append_nil] at whole
    exact ⟨front, split, whole⟩
  · cases taken

theorem front_of_takeKey (taken : takeKey bytes = .ok (number, wireType, rest)) :
    ∃ front, bytes = front ++ rest ∧
      ∀ more, takeKey (front ++ more) = .ok (number, wireType, more) := by
  obtain ⟨⟨value, left⟩, read, checked⟩ := bind_eq_ok taken
  obtain ⟨front, split, readFront⟩ := front_of_takeVarint read
  dsimp only at checked
  split at checked
  · cases checked
  · rename_i small
    split at checked
    · cases checked
    · rename_i known
      split at checked
      · cases checked
      · rename_i positive
        cases checked
        refine ⟨front, split, fun more => ?_⟩
        simp only [takeKey, takeVarint_append readFront, bind, Except.bind, if_neg small, known,
          if_neg positive]
        rfl

theorem takeKey_append (taken : takeKey front = .ok (number, wireType, [])) (more : List UInt8) :
    takeKey (front ++ more) = .ok (number, wireType, more) := by
  obtain ⟨used, split, later⟩ := front_of_takeKey taken
  rw [List.append_nil] at split
  exact split ▸ later more

theorem length_pos_of_takeKey (taken : takeKey front = .ok (number, wireType, [])) :
    0 < front.length := by
  cases front with
  | nil => cases taken
  | cons b front => exact Nat.succ_pos _

theorem dropBytes_append {p : List UInt8} (length : p.length = n) (more : List UInt8) :
    dropBytes n (p ++ more) = .ok more := by
  subst length
  rw [dropBytes, if_neg (by simp), List.drop_left]

theorem front_of_dropBytes (dropped : dropBytes n bytes = .ok rest) :
    ∃ front, bytes = front ++ rest ∧ front.length = n := by
  unfold dropBytes at dropped
  split at dropped
  · cases dropped
  · rename_i enough
    cases dropped
    refine ⟨bytes.take n, (List.take_append_drop n bytes).symm, ?_⟩
    rw [List.length_take]
    omega

end

/-! ### Passing over fields -/

mutual
theorem Payload.skipped {levels number : Nat} {wireType : WireType} {p : List UInt8}
    (stands : Payload levels number wireType p) {fuel : Nat} (enough : 2 * p.length < fuel)
    (more : List UInt8) : skipField fuel levels number wireType (p ++ more) = .ok more := by
  obtain ⟨fuel, rfl⟩ : ∃ less, fuel = less + 1 := ⟨fuel - 1, by omega⟩
  cases stands with
  | varint read =>
    rw [skipField.eq_def]
    simp only [Nat.add_one_ne_zero, if_false, takeVarint_append read]
    rfl
  | thirtyTwoBit length =>
    rw [skipField.eq_def]
    simp only [Nat.add_one_ne_zero, if_false, dropBytes_append length]
  | sixtyFourBit length =>
    rw [skipField.eq_def]
    simp only [Nat.add_one_ne_zero, if_false, dropBytes_append length]
  | lengthDelimited read =>
    rw [skipField.eq_def, List.append_assoc]
    simp only [Nat.add_one_ne_zero, if_false, takeVarint_append read]
    exact dropBytes_append rfl more
  | group row closes =>
    rw [skipField.eq_def, List.append_assoc]
    simp only [Nat.add_one_ne_zero, if_false]
    rw [List.length_append] at enough
    exact row.skipped closes (by omega) more
theorem Row.skipped {levels number : Nat} {numbers : List Nat} {fields close : List UInt8}
    (row : Row levels numbers fields) (closes : takeKey close = .ok (number, .endGroup, []))
    {fuel : Nat} (enough : 2 * (fields.length + close.length) ≤ fuel) (more : List UInt8) :
    skipGroup fuel (levels + 1) number (fields ++ (close ++ more)) = .ok more := by
  have last := length_pos_of_takeKey closes
  obtain ⟨fuel, rfl⟩ : ∃ less, fuel = less + 1 := ⟨fuel - 1, by omega⟩
  cases row with
  | nil =>
    rw [List.nil_append, skipGroup, takeKey_append closes]
    dsimp only [bind, Except.bind]
    rw [if_pos rfl, if_pos rfl]
    rfl
  | @cons _ _ wireType _ key payload rest opens stands row =>
    have first := length_pos_of_takeKey opens
    simp only [List.length_append] at enough
    have forField : 2 * payload.length < fuel := by omega
    have forRest : 2 * (rest.length + close.length) ≤ fuel := by omega
    have inner := stands.skipped forField (rest ++ (close ++ more))
    have later := row.skipped closes forRest more
    have notClosed : wireType ≠ .endGroup := by
      rintro rfl
      cases stands
    rw [List.append_assoc, List.append_assoc, skipGroup, takeKey_append opens]
    dsimp only [bind, Except.bind]
    rw [if_neg notClosed, Nat.add_sub_cancel, inner]
    exact later
end

theorem stands_of_skipped (fuel : Nat) :
    (∀ levels number wireType bytes rest,
      skipField fuel levels number wireType bytes = .ok rest →
        ∃ p, bytes = p ++ rest ∧ Payload levels number wireType p) ∧
    (∀ levels number bytes rest, skipGroup fuel (levels + 1) number bytes = .ok rest →
      ∃ numbers fields close, bytes = fields ++ (close ++ rest) ∧ Row levels numbers fields ∧
        takeKey close = .ok (number, .endGroup, [])) := by
  induction fuel with
  | zero =>
    constructor
    · intro levels number wireType bytes rest skipped
      cases skipped
    · intro levels number bytes rest skipped
      cases skipped
  | succ fuel ih =>
    obtain ⟨fields, groups⟩ := ih
    constructor
    · intro levels number wireType bytes rest skipped
      rw [skipField.eq_def] at skipped
      dsimp only at skipped
      split at skipped
      · cases skipped
      · rename_i some
        obtain ⟨levels, rfl⟩ := Nat.exists_eq_succ_of_ne_zero some
        cases wireType with
        | varint =>
          obtain ⟨⟨n, more⟩, read, same⟩ := bind_eq_ok skipped
          cases same
          obtain ⟨front, split, read⟩ := front_of_takeVarint read
          exact ⟨front, split, .varint read⟩
        | thirtyTwoBit =>
          obtain ⟨front, split, length⟩ := front_of_dropBytes skipped
          exact ⟨front, split, .thirtyTwoBit length⟩
        | sixtyFourBit =>
          obtain ⟨front, split, length⟩ := front_of_dropBytes skipped
          exact ⟨front, split, .sixtyFourBit length⟩
        | lengthDelimited =>
          obtain ⟨⟨n, more⟩, read, dropped⟩ := bind_eq_ok skipped
          obtain ⟨length, split, read⟩ := front_of_takeVarint read
          obtain ⟨content, inner, rfl⟩ := front_of_dropBytes dropped
          refine ⟨length ++ content, ?_, .lengthDelimited read⟩
          rw [split, List.append_assoc]
          exact congrArg (length ++ ·) inner
        | startGroup =>
          obtain ⟨numbers, inner, close, split, row, closes⟩ :=
            groups levels number bytes rest skipped
          exact ⟨inner ++ close, by rw [split, List.append_assoc], .group row closes⟩
        | endGroup => cases skipped
    · intro levels number bytes rest skipped
      rw [skipGroup] at skipped
      obtain ⟨⟨inner, wireType, more⟩, taken, skipped⟩ := bind_eq_ok skipped
      obtain ⟨key, split, opens⟩ := front_of_takeKey taken
      have opens := opens []
      rw [List.append_nil] at opens
      dsimp only at skipped
      split at skipped
      · rename_i closes
        split at skipped
        · rename_i own
          cases skipped
          rw [closes, own] at opens
          exact ⟨[], [], key, split, .nil, opens⟩
        · cases skipped
      · obtain ⟨after, field, skipped⟩ := bind_eq_ok skipped
        obtain ⟨p, first, stands⟩ := fields _ _ _ _ _ field
        obtain ⟨numbers, later, close, second, row, closes⟩ := groups _ _ _ _ skipped
        refine ⟨inner :: numbers, key ++ (p ++ later), close, ?_, .cons opens stands row, closes⟩
        rw [split, first, second]
        simp only [List.append_assoc]

/-- A field takes what stands after its key, and looks no further. -/
def Field.IsLocal (f : Field α) : Prop :=
  ∀ levels wireType bytes a b rest, f.merge levels wireType bytes a = .ok (b, rest) →
    ∃ p, bytes = p ++ rest ∧ (∀ less number, Payload (less + 1) number wireType p) ∧
      ∀ more, f.merge levels wireType (p ++ more) a = .ok (b, more)

namespace Schema

def IsLocal (s : Schema α) : Prop := ∀ f ∈ s.fields, f.IsLocal

variable {s : Schema α} {levels number : Nat} {wireType : WireType} {a b c : α}

theorem merge_of_mergeField {f : Field α}
    (known : s.fields.find? (·.number = number) = some f)
    (merged : s.mergeField levels number wireType bytes a = .ok (b, rest)) :
    f.merge levels wireType bytes a = .ok (b, rest) := by
  unfold mergeField at merged
  rw [known] at merged
  dsimp only at merged
  cases answer : f.merge levels wireType bytes a with
  | error fault =>
    rw [answer] at merged
    cases merged
  | ok answered =>
    rw [answer] at merged
    cases merged
    rfl

theorem front_of_mergeField (isLocal : s.IsLocal)
    (merged : s.mergeField levels number wireType bytes a = .ok (b, rest)) :
    ∃ p, bytes = p ++ rest ∧ (0 < levels → Payload levels number wireType p) ∧
      ∀ more, s.mergeField levels number wireType (p ++ more) a = .ok (b, more) := by
  cases known : s.fields.find? (·.number = number) with
  | some f =>
    have answer := merge_of_mergeField known merged
    obtain ⟨p, split, stands, later⟩ :=
      isLocal f (List.mem_of_find?_eq_some known) _ _ _ _ _ _ answer
    refine ⟨p, split, fun some => ?_, fun more => by simp only [mergeField, known, later]; rfl⟩
    obtain ⟨less, rfl⟩ := Nat.exists_eq_succ_of_ne_zero (Nat.ne_of_gt some)
    exact stands less number
  | none =>
    unfold mergeField at merged ⊢
    rw [known] at merged
    obtain ⟨after, skipped, same⟩ := bind_eq_ok merged
    cases same
    obtain ⟨p, split, stands⟩ := (stands_of_skipped _).1 _ _ _ _ _ skipped
    refine ⟨p, split, fun _ => stands, fun more => ?_⟩
    have enough : 2 * p.length < 2 * (p ++ more).length + 2 := by
      rw [List.length_append]
      omega
    simp only [known, stands.skipped enough]
    rfl

theorem reads_of_mergeUntil (isLocal : s.IsLocal) {limit fuel : Nat}
    (merged : s.mergeUntil levels limit fuel bytes a = .ok (b, rest)) :
    ∃ front, bytes = front ++ rest ∧ s.Reads levels front a b ∧
      (0 < levels → ∃ numbers, Row levels numbers front) := by
  induction fuel generalizing bytes a with
  | zero => cases merged
  | succ fuel ih =>
    rw [mergeUntil] at merged
    split at merged
    · cases merged
      exact ⟨[], rfl, .nil s levels b, fun _ => ⟨[], .nil⟩⟩
    · obtain ⟨⟨number, wireType, more⟩, taken, merged⟩ := bind_eq_ok merged
      obtain ⟨⟨next, tail⟩, field, merged⟩ := bind_eq_ok merged
      obtain ⟨key, split, opens⟩ := front_of_takeKey taken
      have opens := opens []
      rw [List.append_nil] at opens
      obtain ⟨p, first, stands, merges⟩ := front_of_mergeField isLocal field
      obtain ⟨front, second, reads, row⟩ := ih merged
      refine ⟨key ++ (p ++ front), ?_, ?_, fun some => ?_⟩
      · rw [split, first, second]
        simp only [List.append_assoc]
      · rw [← List.append_assoc]
        exact (reads_key (takeKey_append opens) merges).append reads
      · obtain ⟨numbers, row⟩ := row some
        exact ⟨number :: numbers, .cons opens (stands some) row⟩

theorem length_of_mergeUntil {limit fuel : Nat}
    (merged : s.mergeUntil levels limit fuel bytes a = .ok (b, rest)) : rest.length ≤ limit := by
  induction fuel generalizing bytes a with
  | zero => cases merged
  | succ fuel ih =>
    rw [mergeUntil] at merged
    split at merged
    · rename_i short
      cases merged
      exact short
    · obtain ⟨⟨number, wireType, more⟩, -, merged⟩ := bind_eq_ok merged
      obtain ⟨⟨next, tail⟩, -, merged⟩ := bind_eq_ok merged
      exact ih merged

theorem reads_of_decode (isLocal : s.IsLocal) (decoded : s.decode bytes = .ok a) :
    s.Reads nestingLimit bytes s.empty a ∧ ∃ numbers, Row nestingLimit numbers bytes := by
  obtain ⟨⟨b, rest⟩, merged, same⟩ := bind_eq_ok decoded
  cases same
  have nothing : rest = [] :=
    List.eq_nil_of_length_eq_zero (Nat.le_zero.1 (length_of_mergeUntil merged))
  obtain ⟨front, rfl, reads, row⟩ := reads_of_mergeUntil isLocal merged
  rw [nothing, List.append_nil]
  exact ⟨reads, row (by decide)⟩

theorem decode_eq_ok_iff (isLocal : s.IsLocal) :
    s.decode bytes = .ok a ↔ s.Reads nestingLimit bytes s.empty a :=
  ⟨fun decoded => (reads_of_decode isLocal decoded).1, decode_of_reads⟩

theorem Reads.unique (first : s.Reads levels bytes a b) (second : s.Reads levels bytes a c) :
    b = c := by
  have one := mergeUntil_of_reads first [] (Nat.lt_succ_self _)
  have other := mergeUntil_of_reads second [] (Nat.lt_succ_self _)
  rw [one] at other
  cases other
  rfl

end Schema

theorem Payload.unique {levels number : Nat} {wireType : WireType} {p q : List UInt8}
    (first : Payload levels number wireType p) (second : Payload levels number wireType q)
    {more other : List UInt8} (same : p ++ more = q ++ other) : p = q ∧ more = other := by
  have forFirst : 2 * p.length < 2 * (p.length + q.length) + 1 := by omega
  have forSecond : 2 * q.length < 2 * (p.length + q.length) + 1 := by omega
  have one := first.skipped forFirst more
  have two := second.skipped forSecond other
  rw [same, two] at one
  cases one
  exact ⟨List.append_cancel_right same, rfl⟩

namespace Schema
variable {s : Schema α} {levels number : Nat} {wireType : WireType} {a b c : α}

/-- Whole fields that are read with all that follows are read one by one. -/
theorem Reads.uncons (isLocal : s.IsLocal) {key payload : List UInt8}
    (opens : takeKey key = .ok (number, wireType, []))
    (stands : Payload levels number wireType payload)
    (reads : s.Reads levels (key ++ (payload ++ rest)) a c) :
    ∃ b, (∀ more, s.mergeField levels number wireType (payload ++ more) a = .ok (b, more)) ∧
      s.Reads levels rest b c := by
  have merged := mergeUntil_of_reads reads [] (Nat.lt_succ_self _)
  have some : ¬(key ++ (payload ++ rest)).length ≤ 0 := by
    have first := length_pos_of_takeKey opens
    rw [List.length_append]
    omega
  rw [List.append_nil, List.length_nil, mergeUntil, if_neg some, takeKey_append opens] at merged
  obtain ⟨_, ⟨⟩, merged⟩ := bind_eq_ok merged
  obtain ⟨⟨b, tail⟩, field, merged⟩ := bind_eq_ok merged
  obtain ⟨p, split, taken, merges⟩ := front_of_mergeField isLocal field
  have positive : 0 < levels := by
    cases stands <;> exact Nat.succ_pos _
  obtain ⟨rfl, rfl⟩ := stands.unique (taken positive) split
  obtain ⟨front, left, reads, -⟩ := reads_of_mergeUntil isLocal merged
  rw [List.append_nil] at left
  exact ⟨b, merges, left ▸ reads⟩

theorem Reads.split (isLocal : s.IsLocal) {numbers : List Nat} (row : Row levels numbers front)
    (reads : s.Reads levels (front ++ rest) a c) :
    ∃ b, s.Reads levels front a b ∧ s.Reads levels rest b c := by
  induction numbers generalizing front a with
  | nil =>
    cases row
    exact ⟨a, .nil s levels a, reads⟩
  | cons number numbers ih =>
    obtain - | ⟨opens, stands, row⟩ := row
    simp only [List.append_assoc] at reads
    obtain ⟨b, merges, reads⟩ := reads.uncons isLocal opens stands
    obtain ⟨c, first, second⟩ := ih row reads
    refine ⟨c, ?_, second⟩
    rw [← List.append_assoc]
    exact (reads_key (takeKey_append opens) merges).append first

def Lacks (s : Schema α) (number : Nat) : Prop := ∀ f ∈ s.fields, f.number ≠ number

theorem mergeField_of_lacks (lacks : s.Lacks number) {payload : List UInt8}
    (stands : Payload levels number wireType payload) (more : List UInt8) (a : α) :
    s.mergeField levels number wireType (payload ++ more) a = .ok (a, more) := by
  have unknown : s.fields.find? (·.number = number) = none := by
    simpa [List.find?_eq_none, Lacks] using lacks
  have enough : 2 * payload.length < 2 * (payload ++ more).length + 2 := by
    rw [List.length_append]
    omega
  simp only [mergeField, unknown, stands.skipped enough]
  rfl

theorem reads_unknown {numbers : List Nat} (row : Row levels numbers front)
    (lacks : ∀ number ∈ numbers, s.Lacks number) (a : α) : s.Reads levels front a a := by
  induction numbers generalizing front with
  | nil =>
    cases row
    exact .nil s levels a
  | cons number numbers ih =>
    obtain ⟨lacksFirst, lacksLater⟩ := List.forall_mem_cons.1 lacks
    obtain - | ⟨opens, stands, row⟩ := row
    rw [← List.append_assoc]
    refine Reads.append (reads_key (takeKey_append opens) fun more => ?_) (ih row lacksLater)
    exact mergeField_of_lacks lacksFirst stands more a

end Schema

/-! ### Fields -/

theorem front_of_takeDelimited {payload : List UInt8}
    (taken : takeDelimited bytes = .ok (payload, rest)) :
    ∃ p, bytes = p ++ rest ∧ (∀ less number, Payload (less + 1) number .lengthDelimited p) ∧
      ∀ more, takeDelimited (p ++ more) = .ok (payload, more) := by
  obtain ⟨⟨n, tail⟩, read, taken⟩ := bind_eq_ok taken
  obtain ⟨length, split, read⟩ := front_of_takeVarint read
  dsimp only at taken
  split at taken
  · cases taken
  · rename_i enough
    cases taken
    have whole : (tail.take n).length = n := by
      rw [List.length_take]
      omega
    refine ⟨length ++ tail.take n, ?_, fun less number => ?_, fun more => ?_⟩
    · rw [split, List.append_assoc, List.take_append_drop]
    · exact .lengthDelimited (whole.symm ▸ read)
    · have inside : ¬(tail.take n ++ more).length < n := by
        rw [List.length_append]
        omega
      simp only [takeDelimited, List.append_assoc, takeVarint_append read, bind, Except.bind,
        if_neg inside, List.take_left' whole, List.drop_left' whole]
      rfl

theorem expectType_eq_ok {expected found : WireType} (meant : expectType expected found = .ok ()) :
    found = expected := by
  unfold expectType at meant
  split at meant
  · assumption
  · cases meant

theorem front_of_takeText {wireType : WireType} {text : String}
    (taken : takeText wireType bytes = .ok (text, rest)) :
    ∃ p, bytes = p ++ rest ∧ (∀ less number, Payload (less + 1) number wireType p) ∧
      ∀ more, takeText wireType (p ++ more) = .ok (text, more) := by
  obtain ⟨u, meant, after⟩ := bind_eq_ok taken
  clear taken
  cases expectType_eq_ok meant
  obtain ⟨⟨payload, tail⟩, delimited, after⟩ := bind_eq_ok after
  obtain ⟨p, split, stands, later⟩ := front_of_takeDelimited delimited
  dsimp only at after
  split at after
  · rename_i decoded
    cases after
    refine ⟨p, split, stands, fun more => ?_⟩
    simp only [takeText, meant, later, bind, Except.bind, decoded]
    rfl
  · cases after

theorem front_of_takeNumber {wireType : WireType} {n : Nat}
    (taken : takeNumber wireType bytes = .ok (n, rest)) :
    ∃ p, bytes = p ++ rest ∧ (∀ less number, Payload (less + 1) number wireType p) ∧
      ∀ more, takeNumber wireType (p ++ more) = .ok (n, more) := by
  obtain ⟨u, meant, taken⟩ := bind_eq_ok taken
  cases expectType_eq_ok meant
  obtain ⟨p, split, read⟩ := front_of_takeVarint taken
  refine ⟨p, split, fun less number => .varint read, fun more => ?_⟩
  rw [takeNumber, meant]
  exact takeVarint_append read more

theorem Schema.front_of_mergeNested {s : Schema α} (isLocal : s.IsLocal) {levels : Nat}
    {wireType : WireType} {a b : α}
    (nested : s.mergeNested levels wireType bytes a = .ok (b, rest)) :
    ∃ p, bytes = p ++ rest ∧ (∀ less number, Payload (less + 1) number wireType p) ∧
      ∀ more, s.mergeNested levels wireType (p ++ more) a = .ok (b, more) := by
  obtain ⟨u, meant, after⟩ := bind_eq_ok nested
  clear nested
  cases expectType_eq_ok meant
  split at after
  · cases after
  · rename_i some
    obtain ⟨⟨n, content⟩, taken, after⟩ := bind_eq_ok after
    obtain ⟨length, split, read⟩ := front_of_takeVarint taken
    dsimp only at after
    split at after
    · cases after
    · rename_i present
      obtain ⟨⟨last, left⟩, merged, ends⟩ := bind_eq_ok after
      dsimp only at ends
      split at ends
      · rename_i whole
        cases ends
        obtain ⟨front, rfl, reads, -⟩ := reads_of_mergeUntil isLocal merged
        rw [List.length_append] at present whole
        obtain rfl : n = front.length := by omega
        refine ⟨length ++ front, by rw [split, List.append_assoc], fun less number =>
          .lengthDelimited read, fun more => ?_⟩
        have inside : ¬(front ++ more).length < front.length := by
          rw [List.length_append]
          omega
        have limit : (front ++ more).length - front.length = more.length := by
          rw [List.length_append]
          omega
        have enough : front.length < (front ++ more).length + 1 := by
          rw [List.length_append]
          omega
        have inner := mergeUntil_of_reads reads more enough
        simp only [mergeNested, meant, bind, Except.bind, if_neg some, List.append_assoc,
          takeVarint_append read, if_neg inside, limit, inner]
        rfl
      · cases ends

namespace Field
variable {number : Nat} {name : String}

@[simp] theorem isLocal_text {get : α → String} {set : String → α → α} :
    (Field.text number name get set).IsLocal := by
  intro levels wireType bytes a b rest merged
  obtain ⟨⟨text, tail⟩, taken, same⟩ := bind_eq_ok merged
  cases same
  obtain ⟨p, split, stands, later⟩ := front_of_takeText taken
  exact ⟨p, split, stands, fun more => by simp only [Field.text, later]; rfl⟩

@[simp] theorem isLocal_texts {get : α → List String} {set : List String → α → α} :
    (Field.texts number name get set).IsLocal := by
  intro levels wireType bytes a b rest merged
  obtain ⟨⟨text, tail⟩, taken, same⟩ := bind_eq_ok merged
  cases same
  obtain ⟨p, split, stands, later⟩ := front_of_takeText taken
  exact ⟨p, split, stands, fun more => by simp only [Field.texts, later]; rfl⟩

@[simp] theorem isLocal_int64 {get : α → Int64} {set : Int64 → α → α} :
    (Field.int64 number name get set).IsLocal := by
  intro levels wireType bytes a b rest merged
  obtain ⟨⟨n, tail⟩, taken, same⟩ := bind_eq_ok merged
  cases same
  obtain ⟨p, split, stands, later⟩ := front_of_takeNumber taken
  exact ⟨p, split, stands, fun more => by simp only [Field.int64, later]; rfl⟩

@[simp] theorem isLocal_int32 {get : α → Int32} {set : Int32 → α → α} :
    (Field.int32 number name get set).IsLocal := by
  intro levels wireType bytes a b rest merged
  obtain ⟨⟨n, tail⟩, taken, same⟩ := bind_eq_ok merged
  cases same
  obtain ⟨p, split, stands, later⟩ := front_of_takeNumber taken
  exact ⟨p, split, stands, fun more => by simp only [Field.int32, later]; rfl⟩

theorem isLocal_message {inner : Schema β} (isLocal : inner.IsLocal) {get : α → Option β}
    {set : β → α → α} : (Field.message number name inner get set).IsLocal := by
  intro levels wireType bytes a b rest merged
  obtain ⟨⟨next, tail⟩, nested, same⟩ := bind_eq_ok merged
  cases same
  obtain ⟨p, split, stands, later⟩ := Schema.front_of_mergeNested isLocal nested
  exact ⟨p, split, stands, fun more => by simp only [Field.message, later]; rfl⟩

end Field
end AppHost.Wire
