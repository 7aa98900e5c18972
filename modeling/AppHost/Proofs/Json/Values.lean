import AppHost.Json.Value

/-!
Laws of JSON values. Each recursion over a value comes down to one rule for the items of an array
and the entries of an object, so that a proof about all values goes by `Value.induction`. Sorting
leaves alone what is in key order, and finds under each key what was there before.
-/

set_option autoImplicit false
namespace AppHost.Json.Value

@[elab_as_elim]
theorem induction {P : Value → Prop} (null : P .null) (bool : ∀ b, P (.bool b))
    (number : ∀ n, P (.number n)) (string : ∀ s, P (.string s))
    (array : ∀ items, (∀ v ∈ items, P v) → P (.array items))
    (object : ∀ fields, (∀ f ∈ fields, P f.2) → P (.object fields)) (v : Value) : P v :=
  @Value.rec P (fun items => ∀ v ∈ items, P v) (fun fields => ∀ f ∈ fields, P f.2) (fun f => P f.2)
    null bool number string array object
    (fun _ member => nomatch member) (fun _ _ first more => List.forall_mem_cons.2 ⟨first, more⟩)
    (fun _ member => nomatch member) (fun _ _ first more => List.forall_mem_cons.2 ⟨first, more⟩)
    (fun _ _ under => under) v

/-! ### Items and entries -/

theorem wholeItems_iff {items : List Value} : WholeItems items ↔ ∀ v ∈ items, v.Whole := by
  induction items with
  | nil => simp [WholeItems]
  | cons v items ih => rw [WholeItems, ih, List.forall_mem_cons]

theorem wholeFields_iff {fields : List (String × Value)} :
    WholeFields fields ↔ ∀ f ∈ fields, f.2.Whole := by
  induction fields with
  | nil => simp [WholeFields]
  | cons f fields ih => rw [WholeFields, ih, WholeField, List.forall_mem_cons]

theorem canonicalItems_iff {items : List Value} :
    CanonicalItems items ↔ ∀ v ∈ items, v.Canonical := by
  induction items with
  | nil => simp [CanonicalItems]
  | cons v items ih => rw [CanonicalItems, ih, List.forall_mem_cons]

theorem canonicalFields_iff {fields : List (String × Value)} :
    CanonicalFields fields ↔ ∀ f ∈ fields, f.2.Canonical := by
  induction fields with
  | nil => simp [CanonicalFields]
  | cons f fields ih => rw [CanonicalFields, ih, CanonicalField, List.forall_mem_cons]

theorem depthItems_le_iff {items : List Value} {n : Nat} :
    depthItems items ≤ n ↔ ∀ v ∈ items, v.depth ≤ n := by
  induction items with
  | nil => simp [depthItems]
  | cons v items ih => rw [depthItems, Nat.max_le, ih, List.forall_mem_cons]

theorem depthFields_le_iff {fields : List (String × Value)} {n : Nat} :
    depthFields fields ≤ n ↔ ∀ f ∈ fields, f.2.depth ≤ n := by
  induction fields with
  | nil => simp [depthFields]
  | cons f fields ih => rw [depthFields, Nat.max_le, ih, depthField, List.forall_mem_cons]

theorem whole_strings (items : List String) : (strings items).Whole := by
  refine wholeItems_iff.2 fun v member => ?_
  obtain ⟨s, -, rfl⟩ := List.mem_map.1 member
  trivial

theorem depth_strings_le (items : List String) : (strings items).depth ≤ 1 := by
  refine Nat.succ_le_succ (depthItems_le_iff.2 fun v member => ?_)
  obtain ⟨s, -, rfl⟩ := List.mem_map.1 member
  exact Nat.le_refl 0

theorem sortedItems_eq (items : List Value) : sortedItems items = items.map sorted := by
  induction items with
  | nil => rfl
  | cons v items ih => rw [sortedItems, ih, List.map_cons]

theorem sortedFields_eq (fields : List (String × Value)) :
    sortedFields fields = fields.map fun f => (f.1, f.2.sorted) := by
  induction fields with
  | nil => rfl
  | cons f fields ih => rw [sortedFields, ih, sortedField, List.map_cons]

/-! ### Key order -/

theorem arrange_eq (fields : List (String × Value)) :
    arrange fields = (Dictionary.ofList fields).entries :=
  (Dictionary.entries_ofList fields).symm

theorem arrange_of_ascending {fields : List (String × Value)}
    (ascending : Entries.Ascending fields) : arrange fields = fields := by
  rw [arrange_eq]
  exact congrArg Dictionary.entries (Dictionary.ofList_entries ⟨fields, ascending⟩)

theorem ascending_arrange (fields : List (String × Value)) :
    Entries.Ascending (arrange fields) := by
  rw [arrange_eq]
  exact (Dictionary.ofList fields).ascending

theorem mem_arrange {fields : List (String × Value)} {f : String × Value}
    (member : f ∈ arrange fields) : f ∈ fields := by
  have either (start : List (String × Value)) :
      f ∈ fields.foldl (fun entries f => Entries.insert f.1 f.2 entries) start →
        f ∈ fields ∨ f ∈ start := by
    clear member
    induction fields generalizing start with
    | nil => exact .inr
    | cons g fields ih =>
      intro member
      rcases ih _ member with later | before
      · exact .inl (List.mem_cons_of_mem g later)
      · rcases Entries.mem_insert before with rfl | old
        · exact .inl List.mem_cons_self
        · exact .inr old
  rcases either [] member with listed | none_
  · exact listed
  · cases none_

theorem canonical_sorted (v : Value) : v.sorted.Canonical := by
  induction v using Value.induction with
  | null | bool | number | string => trivial
  | array items ih =>
    rw [sorted, sortedItems_eq]
    refine canonicalItems_iff.2 fun v member => ?_
    obtain ⟨item, listed, rfl⟩ := List.mem_map.1 member
    exact ih item listed
  | object fields ih =>
    refine ⟨ascending_arrange _, canonicalFields_iff.2 fun f member => ?_⟩
    have listed := mem_arrange member
    rw [sortedFields_eq] at listed
    obtain ⟨g, before, rfl⟩ := List.mem_map.1 listed
    exact ih g before

theorem sorted_of_canonical {v : Value} : v.Canonical → v.sorted = v := by
  induction v using Value.induction with
  | null | bool | number | string => exact fun _ => rfl
  | array items ih =>
    intro canonical
    have kept : items.map sorted = items.map id :=
      List.map_congr_left fun v member => ih v member (canonicalItems_iff.1 canonical v member)
    rw [sorted, sortedItems_eq, kept, List.map_id]
  | object fields ih =>
    rintro ⟨ascending, canonical⟩
    have kept : (fields.map fun f => (f.1, f.2.sorted)) = fields.map id :=
      List.map_congr_left fun f member =>
        congrArg (f.1, ·) (ih f member (canonicalFields_iff.1 canonical f member))
    rw [sorted, sortedFields_eq, kept, List.map_id, arrange_of_ascending ascending]

/-- In an object of distinct keys sorting changes the places of the entries alone. -/
theorem lookup_arrange {fields : List (String × Value)} (distinct : (fields.map (·.1)).Nodup)
    (key : String) :
    (arrange (sortedFields fields)).lookup key = (fields.lookup key).map sorted := by
  have same : ((fields.map fun f => (f.1, f.2.sorted)).map (·.1)).Nodup := by
    rw [List.map_map]
    exact distinct
  rw [sortedFields_eq, arrange_eq, ← Entries.find?_eq_lookup, ← Entries.find?_eq_lookup]
  calc (Dictionary.ofList (fields.map fun f => (f.1, f.2.sorted))).find? key
    _ = Entries.find? key (fields.map fun f => (f.1, f.2.sorted)) :=
      Dictionary.find?_ofList same key
    _ = (Entries.find? key fields).map sorted := Entries.find?_map (fun _ => sorted) fields key

end AppHost.Json.Value
