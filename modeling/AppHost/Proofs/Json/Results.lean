import AppHost.Json.Record
import AppHost.Proofs.Json.Reading

/-!
What readers give, whatever text they read: a value is nested no deeper than there are levels left
for it, and what is kept of it is in key order. So whatever was read once can be written and read
again.
-/

set_option autoImplicit false
namespace AppHost.Json

variable {α β : Type}

def Gives (read : List Char → Except Fault (α × List Char)) (holds : α → Prop) : Prop :=
  ∀ cs a rest, read cs = .ok (a, rest) → holds a

theorem within_eq_ok {step : Step} {read : Except Fault α} {a : α}
    (found : within step read = .ok a) : read = .ok a := by
  cases read with
  | error f => cases found
  | ok b => exact found

theorem leaving_eq_ok {leave : List Char → List Char} {read : Except Fault α} {a : α}
    (found : leaving leave read = .ok a) : read = .ok a := by
  cases read with
  | error f =>
    simp only [leaving] at found
    split at found <;> cases found
  | ok b => exact found

theorem settled_eq_ok {read : Except Fault α} {a : α} (found : settled read = .ok a) :
    read = .ok a := by
  cases read with
  | error f => cases found
  | ok b => exact found

theorem gives_refuse (expected : String) (holds : α → Prop) : Gives (refuse expected) holds := by
  intro cs a rest found
  unfold refuse at found
  split at found
  · cases found
  · split at found
    · cases found
    · split at found
      · cases found
      · obtain ⟨v, -, found⟩ := bind_eq_ok found
        cases found

/-! ### Values -/

namespace Value

theorem depth_sorted_le (v : Value) : v.sorted.depth ≤ v.depth := by
  induction v using Value.induction with
  | null | bool | number | string => exact Nat.le_refl _
  | array items ih =>
    rw [sorted, sortedItems_eq]
    apply Nat.succ_le_succ
    refine depthItems_le_iff.2 fun v member => ?_
    obtain ⟨item, listed, rfl⟩ := List.mem_map.1 member
    exact Nat.le_trans (ih item listed) (depthItems_le_iff.1 (Nat.le_refl _) item listed)
  | object fields ih =>
    apply Nat.succ_le_succ
    refine depthFields_le_iff.2 fun f member => ?_
    have listed := mem_arrange member
    rw [sortedFields_eq] at listed
    obtain ⟨g, before, rfl⟩ := List.mem_map.1 listed
    exact Nat.le_trans (ih g before) (depthFields_le_iff.1 (Nat.le_refl _) g before)

end Value

/-- Readers of values with so much fuel give none that is nested deeper than the levels left. -/
structure GivesShallow (fuel : Nat) : Prop where
  value : ∀ levels, Gives (readValue fuel levels) (·.depth ≤ levels - 1)
  items : ∀ levels position,
    Gives (readItems fuel levels position) (∀ v ∈ ·, v.depth ≤ levels - 1)
  fields : ∀ levels first,
    Gives (readFields fuel levels first) (∀ f ∈ ·, f.2.depth ≤ levels - 1)

namespace GivesShallow
variable {fuel : Nat}

theorem zero : GivesShallow 0 where
  value levels cs v rest found := by
    rw [readValue] at found
    cases found
  items levels position cs items rest found := by
    rw [readItems] at found
    cases found
  fields levels first cs fields rest found := by
    rw [readFields] at found
    cases found

theorem value_succ (shallow : GivesShallow fuel) (levels : Nat) :
    Gives (readValue (fuel + 1) levels) (·.depth ≤ levels - 1) := by
  intro cs v rest found
  have scalar {β : Type} {read : Except Fault β} {next : β → Except Fault (Value × List Char)}
      (flat : ∀ b, next b = .ok (v, rest) → v.depth = 0) (found : read >>= next = .ok (v, rest)) :
      v.depth ≤ levels - 1 := by
    obtain ⟨b, -, found⟩ := bind_eq_ok found
    rw [flat b found]
    exact Nat.zero_le _
  unfold readValue at found
  split at found
  · cases found
  · rename_i c text _
    -- Words, numbers and strings come first, then arrays and objects.
    iterate 6
      split at found
      · exact scalar (fun b done => by cases done; rfl) found
    split at found
    · split at found
      · cases found
      · obtain ⟨⟨items, more⟩, read, found⟩ := bind_eq_ok found
        obtain ⟨_, -, found⟩ := bind_eq_ok found
        cases found
        have inner := Value.depthItems_le_iff.2 (shallow.items _ _ _ _ _ read)
        rw [Value.depth]
        omega
    split at found
    · split at found
      · cases found
      · obtain ⟨⟨fields, more⟩, read, found⟩ := bind_eq_ok found
        obtain ⟨_, -, found⟩ := bind_eq_ok found
        cases found
        have inner := Value.depthFields_le_iff.2 (shallow.fields _ _ _ _ _ read)
        rw [Value.depth]
        omega
    · cases found

theorem items_succ (shallow : GivesShallow fuel) (levels position : Nat) :
    Gives (readItems (fuel + 1) levels position) (∀ v ∈ ·, v.depth ≤ levels - 1) := by
  intro cs items rest found
  rw [readItems] at found
  obtain ⟨⟨more, text⟩, -, found⟩ := bind_eq_ok found
  cases more with
  | false =>
    cases found
    exact List.forall_mem_nil _
  | true =>
    obtain ⟨⟨v, after⟩, first, found⟩ := bind_eq_ok found
    obtain ⟨⟨others, left⟩, later, found⟩ := bind_eq_ok found
    cases found
    exact List.forall_mem_cons.2
      ⟨shallow.value _ _ _ _ (within_eq_ok first), shallow.items _ _ _ _ _ later⟩

theorem fields_succ (shallow : GivesShallow fuel) (levels : Nat) (first : Bool) :
    Gives (readFields (fuel + 1) levels first) (∀ f ∈ ·, f.2.depth ≤ levels - 1) := by
  intro cs fields rest found
  rw [readFields] at found
  obtain ⟨⟨key, text⟩, -, found⟩ := bind_eq_ok found
  cases key with
  | none =>
    cases found
    exact List.forall_mem_nil _
  | some key =>
    obtain ⟨_, -, found⟩ := bind_eq_ok found
    obtain ⟨⟨v, after⟩, value, found⟩ := bind_eq_ok found
    obtain ⟨⟨others, left⟩, later, found⟩ := bind_eq_ok found
    cases found
    exact List.forall_mem_cons.2
      ⟨shallow.value _ _ _ _ (within_eq_ok value), shallow.fields _ _ _ _ _ later⟩

theorem all (fuel : Nat) : GivesShallow fuel := by
  induction fuel with
  | zero => exact zero
  | succ fuel ih => exact ⟨ih.value_succ, ih.items_succ, ih.fields_succ⟩

end GivesShallow

/-- A value that was read may be written and read again. -/
structure Value.Rereadable (v : Value) : Prop where
  canonical : v.Canonical
  shallow : v.depth < nestingLimit

theorem Value.Rereadable.parse_text {v : Value} (readable : v.Rereadable) (whole : v.Whole) :
    parse v.text = .ok v := by
  rw [Json.parse_text whole readable.shallow, sorted_of_canonical readable.canonical]

theorem Value.rereadable_sorted {v : Value} {levels : Nat} (depth : v.depth ≤ levels - 1)
    (limit : levels ≤ nestingLimit) : v.sorted.Rereadable where
  canonical := v.canonical_sorted
  shallow := by
    have sorted := v.depth_sorted_le
    have positive : 0 < nestingLimit := by decide
    omega

theorem rereadable_of_parse {text : String} {v : Value} (read : parse text = .ok v) : v.Rereadable := by
  obtain ⟨⟨found, rest⟩, value, ended⟩ := bind_eq_ok read
  obtain ⟨_, -, sorted⟩ := bind_eq_ok ended
  cases sorted
  exact Value.rereadable_sorted ((GivesShallow.all _).value _ _ _ _ value) (Nat.le_refl _)

/-! ### Lists and records -/

theorem gives_readAny {levels : Nat} (limit : levels ≤ nestingLimit) :
    Gives (readAny levels) Value.Rereadable := by
  intro cs v rest found
  obtain ⟨⟨read, more⟩, value, found⟩ := bind_eq_ok found
  cases found
  exact Value.rereadable_sorted ((GivesShallow.all _).value _ _ _ _ value) limit

section
variable {read : Reading α} {levels : Nat} {holds : α → Prop}

theorem gives_readListFrom (item : Gives (read levels) holds) (fuel position : Nat) :
    Gives (readListFrom read fuel levels position) (∀ a ∈ ·, holds a) := by
  induction fuel generalizing position with
  | zero =>
    intro cs items rest found
    cases found
  | succ fuel ih =>
    intro cs items rest found
    obtain ⟨⟨more, text⟩, -, found⟩ := bind_eq_ok found
    cases more with
    | false =>
      cases found
      exact List.forall_mem_nil _
    | true =>
      obtain ⟨⟨a, after⟩, first, found⟩ := bind_eq_ok found
      obtain ⟨⟨others, left⟩, later, found⟩ := bind_eq_ok found
      cases found
      exact List.forall_mem_cons.2 ⟨item _ _ _ (within_eq_ok first), ih _ _ _ _ later⟩

theorem gives_readList (item : Gives (read (levels - 1)) holds) :
    Gives (readList read levels) (∀ a ∈ ·, holds a) := by
  intro cs items rest found
  unfold readList at found
  split at found
  · split at found
    · cases found
    · obtain ⟨⟨as, more⟩, list, found⟩ := bind_eq_ok found
      obtain ⟨_, -, found⟩ := bind_eq_ok found
      cases found
      exact gives_readListFrom item _ _ _ _ _ (leaving_eq_ok list)
  · exact gives_refuse _ (∀ a ∈ ·, holds a) _ _ _ (settled_eq_ok found)

end

namespace Shape
variable {s : Shape α} {levels : Nat} {holds : α → Prop}

/-- What is set by a field keeps this property of records. -/
def Keeps (s : Shape α) (levels : Nat) (holds : α → Prop) : Prop :=
  ∀ field ∈ s.fields, Gives (field.read levels) fun set => ∀ a, holds a → holds (set a)

theorem Keeps.readEntries (keeps : s.Keeps levels holds) (fuel : Nat) (first : Bool) {a : α}
    (before : holds a) : Gives (s.readEntries fuel levels first a) holds := by
  induction fuel generalizing first a with
  | zero =>
    intro cs b rest found
    cases found
  | succ fuel ih =>
    intro cs b rest found
    obtain ⟨⟨key, text⟩, -, found⟩ := bind_eq_ok found
    cases key with
    | none =>
      cases found
      exact before
    | some key =>
      dsimp only at found
      split at found
      · rename_i field named
        split at found
        · cases found
        · obtain ⟨_, -, found⟩ := bind_eq_ok found
          obtain ⟨⟨set, more⟩, value, found⟩ := bind_eq_ok found
          have member := List.mem_of_find?_eq_some named
          exact ih _ (keeps field member _ _ _ (within_eq_ok value) a before) _ _ _ found
      · obtain ⟨_, -, found⟩ := bind_eq_ok found
        obtain ⟨_, -, found⟩ := bind_eq_ok found
        exact ih _ before _ _ _ found

theorem Keeps.readPositions (keeps : s.Keeps levels holds) {fields : List (Field α)}
    (known : ∀ field ∈ fields, field ∈ s.fields) (position : Nat) {a : α} (before : holds a) :
    Gives (s.readPositions levels fields position a) holds := by
  induction fields generalizing position a with
  | nil =>
    intro cs b rest found
    cases found
    exact before
  | cons field fields ih =>
    obtain ⟨own, others⟩ := List.forall_mem_cons.1 known
    intro cs b rest found
    obtain ⟨⟨more, text⟩, -, found⟩ := bind_eq_ok found
    cases more with
    | true =>
      obtain ⟨⟨set, after⟩, value, found⟩ := bind_eq_ok found
      exact ih others _ (keeps field own _ _ _ (within_eq_ok value) a before) _ _ _ found
    | false =>
      dsimp only at found
      split at found
      · cases ‹false = true›
      · split at found
        · exact ih others _ before _ _ _ found
        · cases found

theorem Keeps.read (keeps : s.Keeps (levels - 1) holds) {start : α} (begins : holds start)
    {finish : α → Except Mismatch β} {meets : β → Prop}
    (ends : ∀ a b, holds a → finish a = .ok b → meets b) :
    Gives (s.read start finish levels) meets := by
  intro cs b rest found
  simp only [Shape.read] at found
  split at found
  · split at found
    · cases found
    · obtain ⟨⟨record, more⟩, entries, found⟩ := bind_eq_ok found
      obtain ⟨_, -, found⟩ := bind_eq_ok found
      cases found
      obtain ⟨⟨a, left⟩, filled, finished⟩ := bind_eq_ok (leaving_eq_ok entries)
      split at finished
      · rename_i done
        cases finished
        exact ends a _ (keeps.readEntries _ _ begins _ _ _ filled) done
      · cases finished
  · split at found
    · cases found
    · obtain ⟨⟨record, more⟩, items, found⟩ := bind_eq_ok found
      obtain ⟨_, -, found⟩ := bind_eq_ok found
      cases found
      obtain ⟨⟨a, left⟩, filled, finished⟩ := bind_eq_ok (leaving_eq_ok items)
      split at finished
      · rename_i done
        cases finished
        exact ends a _ (keeps.readPositions (fun _ known => known) _ begins _ _ _ filled) done
      · cases finished
  · exact gives_refuse _ meets _ _ _ (settled_eq_ok found)

end Shape

theorem Gives.readWhole {read : Reading α} {holds : α → Prop}
    (gives : Gives (read nestingLimit) holds) {text : String} {a : α}
    (found : readWhole read text = .ok a) : holds a := by
  obtain ⟨⟨b, rest⟩, found, ended⟩ := bind_eq_ok found
  obtain ⟨_, -, ended⟩ := bind_eq_ok ended
  cases ended
  exact gives _ _ _ found

end AppHost.Json
