/-!
Entries under distinct text keys, kept in ascending key order. Text is ordered by code point, which
is also the order of its UTF-8 bytes. The functions on plain entry lists serve nested data, where a
proof field cannot stand; `Dictionary` is the same with the order as part of the type.
-/

set_option autoImplicit false
namespace AppHost

variable {α β : Type}

namespace Entries

/-- The entry lists that have each key once, in ascending order. -/
def Ascending (entries : List (String × α)) : Prop :=
  entries.Pairwise (fun a b => a.1 < b.1)

instance (entries : List (String × α)) : Decidable (Ascending entries) :=
  inferInstanceAs (Decidable (entries.Pairwise _))

def find? (key : String) : List (String × α) → Option α
  | [] => none
  | (k, v) :: rest => if k = key then some v else find? key rest

def insert (key : String) (value : α) : List (String × α) → List (String × α)
  | [] => [(key, value)]
  | (k, v) :: rest =>
    if key < k then (key, value) :: (k, v) :: rest
    else if key = k then (key, value) :: rest
    else (k, v) :: insert key value rest

def erase (key : String) (entries : List (String × α)) : List (String × α) :=
  entries.filter (fun e => e.1 ≠ key)

theorem mem_insert {key : String} {value : α} {entries : List (String × α)} {e : String × α}
    (member : e ∈ insert key value entries) : e = (key, value) ∨ e ∈ entries := by
  induction entries with
  | nil => simpa [insert] using member
  | cons head rest ih =>
    obtain ⟨k, v⟩ := head
    simp only [insert] at member
    split at member
    · simpa using member
    · split at member
      · rcases List.mem_cons.1 member with same | later
        · exact .inl same
        · exact .inr (List.mem_cons_of_mem _ later)
      · rcases List.mem_cons.1 member with same | later
        · exact .inr (same ▸ List.mem_cons_self)
        · exact (ih later).imp id (List.mem_cons_of_mem _)

theorem ascending_insert (key : String) (value : α) {entries : List (String × α)}
    (sorted : Ascending entries) : Ascending (insert key value entries) := by
  induction entries with
  | nil => simp [insert, Ascending]
  | cons head rest ih =>
    obtain ⟨k, v⟩ := head
    obtain ⟨first, tail⟩ := List.pairwise_cons.1 sorted
    simp only [insert]
    split
    · rename_i below
      refine List.pairwise_cons.2 ⟨fun e member => ?_, sorted⟩
      rcases List.mem_cons.1 member with same | later
      · exact same ▸ below
      · exact String.lt_trans below (first e later)
    · rename_i notBelow
      split
      · rename_i same
        subst same
        exact List.pairwise_cons.2 ⟨first, tail⟩
      · rename_i different
        refine List.pairwise_cons.2 ⟨fun e member => ?_, ih tail⟩
        rcases mem_insert member with same | old
        · subst same
          exact Std.lt_of_le_of_ne (Std.not_lt.1 notBelow) (fun h => different h.symm)
        · exact first e old

theorem ascending_erase (key : String) {entries : List (String × α)}
    (sorted : Ascending entries) : Ascending (erase key entries) :=
  sorted.sublist List.filter_sublist

theorem find?_insert (key : String) (value : α) (entries : List (String × α)) (other : String) :
    find? other (insert key value entries) =
      if key = other then some value else find? other entries := by
  induction entries with
  | nil => simp [insert, find?]
  | cons head rest ih =>
    obtain ⟨k, v⟩ := head
    simp only [insert]
    split
    · simp [find?]
    · split
      · rename_i same
        subst same
        by_cases h : key = other <;> simp [find?, h]
      · rename_i different
        simp only [find?, ih]
        by_cases h : k = other
        · subst h
          simp [different]
        · simp [h]

theorem find?_erase (key : String) (entries : List (String × α)) (other : String) :
    find? other (erase key entries) = if key = other then none else find? other entries := by
  induction entries with
  | nil => simp [erase, find?]
  | cons head rest ih =>
    obtain ⟨k, v⟩ := head
    simp only [erase] at ih
    by_cases same : k = key
    · subst same
      simp only [erase, ne_eq, not_true_eq_false, decide_false, Bool.false_eq_true,
        not_false_eq_true, List.filter_cons_of_neg, ih, find?]
      by_cases h : k = other <;> simp [h]
    · simp only [erase, ne_eq, same, not_false_eq_true, decide_true, List.filter_cons_of_pos,
        find?, ih]
      by_cases h : k = other
      · subst h
        simp [Ne.symm same]
      · simp [h]

theorem find?_map (f : String → α → β) (entries : List (String × α)) (key : String) :
    find? key (entries.map fun e => (e.1, f e.1 e.2)) = (find? key entries).map (f key) := by
  induction entries with
  | nil => rfl
  | cons head rest ih =>
    obtain ⟨k, v⟩ := head
    simp only [List.map_cons, find?, ih]
    split
    · rename_i same
      rw [same, Option.map_some]
    · rfl

theorem isSome_find? (key : String) (entries : List (String × α)) :
    (find? key entries).isSome ↔ key ∈ entries.map (·.1) := by
  induction entries with
  | nil => simp [find?]
  | cons head rest ih =>
    obtain ⟨k, v⟩ := head
    simp only [find?, List.map_cons, List.mem_cons, ← ih]
    split
    · rename_i same
      simp [same]
    · rename_i different
      simp [Ne.symm different]

theorem find?_eq_lookup (key : String) (entries : List (String × α)) :
    find? key entries = entries.lookup key := by
  induction entries with
  | nil => rfl
  | cons head rest ih =>
    obtain ⟨k, v⟩ := head
    rw [find?, List.lookup_cons, ih]
    by_cases same : k = key
    · rw [if_pos same, beq_iff_eq.2 same.symm]
    · rw [if_neg same, beq_eq_false_iff_ne.2 (Ne.symm same)]

theorem find?_eq_some_iff {entries : List (String × α)} (sorted : Ascending entries) (key : String)
    (value : α) : find? key entries = some value ↔ (key, value) ∈ entries := by
  induction entries with
  | nil => simp [find?]
  | cons head rest ih =>
    obtain ⟨k, v⟩ := head
    obtain ⟨first, tail⟩ := List.pairwise_cons.1 sorted
    simp only [find?, List.mem_cons, Prod.mk.injEq]
    split
    · rename_i same
      subst same
      have once : (k, value) ∉ rest := fun later => String.lt_irrefl k (first _ later)
      simp [once, eq_comm]
    · rename_i different
      simp [Ne.symm different, ih tail]

end Entries

structure Dictionary (α : Type) where
  entries : List (String × α)
  ascending : Entries.Ascending entries

namespace Dictionary

def empty : Dictionary α := ⟨[], List.Pairwise.nil⟩

def find? (d : Dictionary α) (key : String) : Option α := Entries.find? key d.entries

def contains (d : Dictionary α) (key : String) : Bool := (d.find? key).isSome

def insert (d : Dictionary α) (key : String) (value : α) : Dictionary α :=
  ⟨Entries.insert key value d.entries, Entries.ascending_insert key value d.ascending⟩

def erase (d : Dictionary α) (key : String) : Dictionary α :=
  ⟨Entries.erase key d.entries, Entries.ascending_erase key d.ascending⟩

def filter (d : Dictionary α) (keep : String → α → Bool) : Dictionary α :=
  ⟨d.entries.filter (fun e => keep e.1 e.2), d.ascending.sublist List.filter_sublist⟩

def map (d : Dictionary α) (f : String → α → β) : Dictionary β :=
  ⟨d.entries.map (fun e => (e.1, f e.1 e.2)), by
    simpa only [Entries.Ascending, List.pairwise_map] using d.ascending⟩

def ofList (entries : List (String × α)) : Dictionary α :=
  entries.foldl (fun d e => d.insert e.1 e.2) empty

def keys (d : Dictionary α) : List String := d.entries.map (·.1)

def values (d : Dictionary α) : List α := d.entries.map (·.2)

def isEmpty (d : Dictionary α) : Bool := d.entries.isEmpty

def size (d : Dictionary α) : Nat := d.entries.length

@[simp] theorem find?_empty (key : String) : (empty : Dictionary α).find? key = none := rfl

theorem find?_insert (d : Dictionary α) (key : String) (value : α) (other : String) :
    (d.insert key value).find? other = if key = other then some value else d.find? other :=
  Entries.find?_insert key value d.entries other

theorem find?_erase (d : Dictionary α) (key other : String) :
    (d.erase key).find? other = if key = other then none else d.find? other :=
  Entries.find?_erase key d.entries other

theorem find?_map (d : Dictionary α) (f : String → α → β) (key : String) :
    (d.map f).find? key = (d.find? key).map (f key) :=
  Entries.find?_map f d.entries key

theorem contains_of_find? {d : Dictionary α} {key : String} {value : α}
    (found : d.find? key = some value) : d.contains key = true := by
  rw [contains, found, Option.isSome_some]

theorem not_contains_of_find? {d : Dictionary α} {key : String} (absent : d.find? key = none) :
    d.contains key = false := by
  rw [contains, absent, Option.isSome_none]

theorem mem_entries (d : Dictionary α) (key : String) (value : α) :
    (key, value) ∈ d.entries ↔ d.find? key = some value :=
  (Entries.find?_eq_some_iff d.ascending key value).symm

theorem mem_keys (d : Dictionary α) (key : String) : key ∈ d.keys ↔ (d.find? key).isSome :=
  (Entries.isSome_find? key d.entries).symm

theorem map_values {d : Dictionary α} {name : α → String}
    (own : ∀ key value, d.find? key = some value → name value = key) : d.values.map name = d.keys := by
  rw [values, List.map_map]
  refine List.map_congr_left fun e member => ?_
  exact own e.1 e.2 ((d.mem_entries e.1 e.2).1 member)

theorem keys_ascending (d : Dictionary α) : d.keys.Pairwise (· < ·) :=
  List.pairwise_map.2 d.ascending

theorem keys_nodup (d : Dictionary α) : d.keys.Nodup :=
  List.nodup_iff_pairwise_ne.2 (d.keys_ascending.imp String.ne_of_lt)

theorem eq_of_ascending {keys others : List String} (first : keys.Pairwise (· < ·))
    (second : others.Pairwise (· < ·)) (members : ∀ key, key ∈ keys ↔ key ∈ others) :
    keys = others := by
  have once {keys : List String} (ascending : keys.Pairwise (· < ·)) : keys.Nodup :=
    List.nodup_iff_pairwise_ne.2 (ascending.imp String.ne_of_lt)
  exact List.Perm.eq_of_pairwise (fun a b _ _ below above => absurd below (String.lt_asymm above))
    first second ((List.perm_ext_iff_of_nodup (once first) (once second)).2 members)

theorem keys_eq_iff (d : Dictionary α) (e : Dictionary β) :
    d.keys = e.keys ↔ ∀ key, (d.find? key).isSome = (e.find? key).isSome := by
  constructor
  · intro same key
    rw [Bool.eq_iff_iff, ← mem_keys, ← mem_keys, same]
  · intro same
    refine eq_of_ascending d.keys_ascending e.keys_ascending fun key => ?_
    rw [mem_keys, mem_keys, same]

theorem entries_eq {d e : Dictionary α} (same : ∀ key, d.find? key = e.find? key) :
    d.entries = e.entries := by
  have once (d : Dictionary α) : d.entries.Nodup :=
    List.nodup_iff_pairwise_ne.2 (d.ascending.imp fun below equal =>
      String.ne_of_lt below (congrArg Prod.fst equal))
  have members : ∀ entry, entry ∈ d.entries ↔ entry ∈ e.entries := by
    rintro ⟨key, value⟩
    rw [d.mem_entries, e.mem_entries, same]
  exact List.Perm.eq_of_pairwise (fun a b _ _ below above => absurd below (String.lt_asymm above))
    d.ascending e.ascending ((List.perm_ext_iff_of_nodup (once d) (once e)).2 members)

theorem eq_of_find? {d e : Dictionary α} (same : ∀ key, d.find? key = e.find? key) : d = e := by
  obtain ⟨entries, ascending⟩ := d
  cases entries_eq same
  rfl

theorem insert_of_find? {d : Dictionary α} {key : String} {value : α}
    (found : d.find? key = some value) : d.insert key value = d := by
  refine eq_of_find? fun other => ?_
  rw [find?_insert]
  split
  · rename_i same
    rw [← same, found]
  · rfl

theorem erase_of_find? {d : Dictionary α} {key : String} (absent : d.find? key = none) :
    d.erase key = d := by
  refine eq_of_find? fun other => ?_
  rw [find?_erase]
  split
  · rename_i same
    rw [← same, absent]
  · rfl

theorem find?_foldl_insert {entries : List (String × α)} (distinct : (entries.map (·.1)).Nodup)
    (start : Dictionary α) (key : String) :
    (entries.foldl (fun d e => d.insert e.1 e.2) start).find? key =
      (Entries.find? key entries).or (start.find? key) := by
  induction entries generalizing start with
  | nil => rfl
  | cons e entries ih =>
    obtain ⟨once, others⟩ := List.nodup_cons.1 distinct
    rw [List.foldl_cons, ih others, find?_insert, Entries.find?]
    split
    · rename_i same
      have absent : Entries.find? key entries = none := by
        rw [← Option.not_isSome_iff_eq_none, Entries.isSome_find?, ← same]
        exact once
      rw [absent]
      rfl
    · rfl

theorem find?_ofList {entries : List (String × α)} (distinct : (entries.map (·.1)).Nodup)
    (key : String) : (ofList entries).find? key = Entries.find? key entries := by
  rw [ofList, find?_foldl_insert distinct, find?_empty, Option.or_none]

theorem ofList_entries (d : Dictionary α) : ofList d.entries = d :=
  eq_of_find? fun key => find?_ofList d.keys_nodup key

theorem entries_ofList (entries : List (String × α)) :
    (ofList entries).entries =
      entries.foldl (fun es e => Entries.insert e.1 e.2 es) [] :=
  (List.foldl_hom Dictionary.entries fun _ _ => rfl).symm

theorem find?_filter (d : Dictionary α) (keep : String → α → Bool) (key : String) :
    (d.filter keep).find? key = (d.find? key).filter (keep key) := by
  refine Option.ext fun value => ?_
  rw [← mem_entries, Option.filter_eq_some_iff, ← mem_entries]
  exact List.mem_filter

end Dictionary
end AppHost
