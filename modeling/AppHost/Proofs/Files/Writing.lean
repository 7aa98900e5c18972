import AppHost.FileTree

/-!
Writing a file and reading it back. A file stands where a path ends, and never on the way there, so
the path leads to the same place after something was written to it. A disk that is full leaves a
beginning of what was to be written.
-/

set_option autoImplicit false
namespace AppHost

/-- Where a file can be put: nothing stands there, or a file. -/
def Place.location? : Place → Option String
  | .vacant location => some location
  | .occupied location (.file _) => some location
  | _ => none

namespace FileTree
variable {t u : FileTree} {p : Path} {here location : String} {bytes : List UInt8}

theorem write_eq (t : FileTree) (p : Path) (bytes : List UInt8) :
    t.write p bytes =
      match (t.place p).location? with
      | some location => t.fill location bytes
      | none => (false, t) := by
  unfold write
  cases t.place p with
  | occupied location node => cases node <;> rfl
  | vacant location => rfl
  | unreachable => rfl

theorem take_of_fits (fits : t.fits bytes = true) :
    bytes.take (t.room.getD bytes.length) = bytes := by
  unfold FileTree.fits at fits
  cases limit : t.room with
  | none => exact List.take_length
  | some room =>
    rw [limit] at fits
    exact List.take_of_length_le (of_decide_eq_true fits)

theorem find?_put (t : FileTree) (location : String) (node : FileNode) (other : String) :
    (t.put location node).nodes.find? other =
      if location = other then some node else t.nodes.find? other :=
  t.nodes.find?_insert location node other

/-- How a path is followed at one of its parts, and how directories are created there: the part stays
where it is, goes up, is too long to be a name, or is a name. -/
inductive PartRule (part : List Char) : Prop
  | idle (walk : ∀ (t : FileTree) here rest, t.walk here (part :: rest) = t.walk here rest)
    (create : ∀ (t : FileTree) here rest,
      t.createWalk here (part :: rest) = t.createWalk here rest)
  | up (walk : ∀ (t : FileTree) here rest, t.walk here (part :: rest) = t.walk (above here) rest)
    (create : ∀ (t : FileTree) here rest,
      t.createWalk here (part :: rest) = t.createWalk (above here) rest)
  | long (walk : ∀ (t : FileTree) here rest, t.walk here (part :: rest) = .unreachable)
    (create : ∀ (t : FileTree) here rest, t.createWalk here (part :: rest) = (false, t))
  | name
    (walk : ∀ (t : FileTree) here rest, t.walk here (part :: rest) =
      match t.nodes.find? (within here part) with
      | some .directory => t.walk (within here part) rest
      | some (.file bytes) =>
        if rest.isEmpty then .occupied (within here part) (.file bytes) else .unreachable
      | none => if rest.isEmpty then .vacant (within here part) else .unreachable)
    (create : ∀ (t : FileTree) here rest, t.createWalk here (part :: rest) =
      match t.nodes.find? (within here part) with
      | some .directory => t.createWalk (within here part) rest
      | some (.file _) => (false, t)
      | none => (t.put (within here part) .directory).createWalk (within here part) rest)

theorem partRule (part : List Char) : PartRule part := by
  by_cases idle : (part.isEmpty || part == ['.']) = true
  · exact .idle (fun _ _ _ => if_pos idle) fun _ _ _ => if_pos idle
  by_cases up : (part == ['.', '.']) = true
  · exact .up (fun _ _ _ => (if_neg idle).trans (if_pos up))
      fun _ _ _ => (if_neg idle).trans (if_pos up)
  by_cases long : maxNameLength < Text.utf8Length part
  · exact .long (fun _ _ _ => (if_neg idle).trans ((if_neg up).trans (if_pos long)))
      fun _ _ _ => (if_neg idle).trans ((if_neg up).trans (if_pos long))
  · exact .name (fun _ _ _ => (if_neg idle).trans ((if_neg up).trans (if_neg long)))
      fun _ _ _ => (if_neg idle).trans ((if_neg up).trans (if_neg long))

theorem not_directory_of_walk {parts : List (List Char)}
    (leads : (t.walk here parts).location? = some location) :
    t.nodes.find? location ≠ some .directory := by
  induction parts generalizing here with
  | nil => cases leads
  | cons part rest ih =>
    cases partRule part with
    | idle walk =>
      rw [walk] at leads
      exact ih leads
    | up walk =>
      rw [walk] at leads
      exact ih leads
    | long walk =>
      rw [walk] at leads
      cases leads
    | name walk =>
      rw [walk] at leads
      split at leads
      · exact ih leads
      · rename_i found
        split at leads
        · cases leads
          rw [found]
          nofun
        · cases leads
      · rename_i absent
        split at leads
        · cases leads
          rw [absent]
          nofun
        · cases leads

theorem walk_put {parts : List (List Char)}
    (leads : (t.walk here parts).location? = some location) (bytes : List UInt8) :
    (t.put location (.file bytes)).walk here parts = .occupied location (.file bytes) := by
  have free := not_directory_of_walk leads
  induction parts generalizing here with
  | nil => cases leads
  | cons part rest ih =>
    cases partRule part with
    | idle walk =>
      rw [walk] at leads ⊢
      exact ih leads
    | up walk =>
      rw [walk] at leads ⊢
      exact ih leads
    | long walk =>
      rw [walk] at leads
      cases leads
    | name walk =>
      rw [walk] at leads ⊢
      split at leads
      · rename_i found
        have elsewhere : location ≠ within here part := by
          rintro rfl
          exact free found
        rw [find?_put, if_neg elsewhere, found]
        exact ih leads
      all_goals
        split at leads
        · rename_i last
          cases leads
          rw [find?_put, if_pos rfl]
          exact if_pos last
        · cases leads

theorem place_put (leads : (t.place p).location? = some location) (bytes : List UInt8) :
    (t.put location (.file bytes)).place p = .occupied location (.file bytes) := by
  unfold place at leads ⊢
  split at leads
  · rename_i usable
    rw [if_pos usable]
    exact walk_put leads bytes
  · cases leads

theorem read?_fill (leads : (t.place p).location? = some location) (bytes : List UInt8) :
    (t.fill location bytes).2.read? p = some (bytes.take (t.room.getD bytes.length)) := by
  rw [fill, read?, node?, place_put leads]

theorem read?_write (written : (t.write p bytes).1 = true) :
    (t.write p bytes).2.read? p = some bytes := by
  rw [write_eq] at written ⊢
  cases leads : (t.place p).location? with
  | none =>
    rw [leads] at written
    cases written
  | some location =>
    rw [leads] at written
    refine (read?_fill leads bytes).trans ?_
    rw [take_of_fits written]

theorem read?_eq_none_of_unplaced (unplaced : (t.place p).location? = none) :
    t.read? p = none := by
  unfold read? node?
  cases leads : t.place p with
  | occupied location node =>
    cases node with
    | directory => rfl
    | file bytes =>
      rw [leads] at unplaced
      cases unplaced
  | vacant location => rfl
  | unreachable => rfl

/-- A write that fails leaves things as they were, or the disk is full and the file holds as much as
there was room for. -/
theorem read?_of_unwritten (failed : (t.write p bytes).1 = false) :
    t.read? p = none ∧ (t.write p bytes).2 = t ∨
      ∃ room, t.room = some room ∧ room < bytes.length ∧
        (t.write p bytes).2.read? p = some (bytes.take room) := by
  rw [write_eq] at failed ⊢
  cases leads : (t.place p).location? with
  | none => exact .inl ⟨read?_eq_none_of_unplaced leads, rfl⟩
  | some location =>
    rw [leads] at failed
    have full : t.fits bytes = false := failed
    refine .inr ?_
    unfold FileTree.fits at full
    cases limit : t.room with
    | none =>
      rw [limit] at full
      cases full
    | some room =>
      rw [limit] at full
      have short : ¬bytes.length ≤ room := of_decide_eq_false full
      refine ⟨room, rfl, Nat.lt_of_not_le short, ?_⟩
      have left := read?_fill leads bytes
      rwa [limit] at left

end FileTree
end AppHost
