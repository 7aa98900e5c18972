import AppHost.Proofs.Files.Writing

/-!
Creating directories. Nothing that stands in a tree is lost by it, and what comes to stand there are
directories, so a path that led to a file leads to it afterwards. Where a directory could not be
created, nothing can be reached through it.
-/

set_option autoImplicit false
namespace AppHost

namespace FileTree
variable {t u v : FileTree} {p : Path} {here location : String} {parts : List (List Char)}
  {bytes : List UInt8}

/-- All that stood in the first tree stands in the second, from where relative paths start at the same
directory. -/
structure Grows (t u : FileTree) : Prop where
  current : u.current = t.current
  room : u.room = t.room
  kept : ∀ location node, t.nodes.find? location = some node → u.nodes.find? location = some node

theorem Grows.refl (t : FileTree) : Grows t t := ⟨rfl, rfl, fun _ _ => id⟩

theorem Grows.trans (first : Grows t u) (second : Grows u v) : Grows t v where
  current := second.current.trans first.current
  room := second.room.trans first.room
  kept location node found := second.kept location node (first.kept location node found)

theorem grows_put (vacant : t.nodes.find? location = none) (node : FileNode) :
    Grows t (t.put location node) where
  current := rfl
  room := rfl
  kept other stood found := by
    have elsewhere : location ≠ other := by
      rintro rfl
      cases vacant.symm.trans found
    rw [find?_put, if_neg elsewhere, found]

theorem grows_createWalk (t : FileTree) (here : String) (parts : List (List Char)) :
    Grows t (t.createWalk here parts).2 := by
  induction parts generalizing t here with
  | nil => exact .refl t
  | cons part rest ih =>
    cases partRule part with
    | idle _ create =>
      rw [create]
      exact ih t here
    | up _ create =>
      rw [create]
      exact ih t (above here)
    | long _ create =>
      rw [create]
      exact .refl t
    | name _ create =>
      rw [create]
      split
      · exact ih t (within here part)
      · exact .refl t
      · rename_i vacant
        exact (grows_put vacant .directory).trans (ih _ (within here part))

theorem grows_createDirectories (t : FileTree) (p : Path) : Grows t (t.createDirectories p).2 := by
  unfold createDirectories
  split
  · exact .refl t
  split
  · exact grows_createWalk t _ _
  · exact .refl t

/-! ### Files in a tree that grows -/

theorem Grows.walk (grows : Grows t u)
    (leads : t.walk here parts = .occupied location (.file bytes)) :
    u.walk here parts = .occupied location (.file bytes) := by
  induction parts generalizing here with
  | nil => cases leads
  | cons part rest ih =>
    cases partRule part with
    | idle walk =>
      rw [walk] at leads ⊢
      exact ih leads
    | up walk =>
      rw [walk] at leads ⊢
      exact ih leads
    | long walk =>
      rw [walk] at leads
      cases leads
    | name walk =>
      rw [walk] at leads ⊢
      split at leads
      · rename_i found
        rw [grows.kept _ _ found]
        exact ih leads
      · rename_i found
        rw [grows.kept _ _ found]
        exact leads
      · split at leads <;> cases leads

theorem read?_eq_some_iff :
    t.read? p = some bytes ↔ ∃ location, t.place p = .occupied location (.file bytes) := by
  unfold read? node?
  cases t.place p with
  | occupied location node => cases node <;> simp
  | vacant location => simp
  | unreachable => simp

theorem Grows.read? (grows : Grows t u) (read : t.read? p = some bytes) :
    u.read? p = some bytes := by
  obtain ⟨location, leads⟩ := read?_eq_some_iff.1 read
  refine read?_eq_some_iff.2 ⟨location, ?_⟩
  unfold place start at leads ⊢
  split at leads
  · rename_i usable
    rw [if_pos usable, grows.current]
    exact grows.walk leads
  · cases leads

theorem Grows.read?_eq_none (grows : Grows t u) (unread : u.read? p = none) : t.read? p = none := by
  cases read : t.read? p with
  | none => rfl
  | some bytes => cases (grows.read? read).symm.trans unread

/-! ### Where no directory can be created -/

theorem walk_of_not_created (failed : (t.createWalk here parts).1 = false) {more : List (List Char)}
    (goesOn : more ≠ []) : (t.createWalk here parts).2.walk here (parts ++ more) = .unreachable := by
  induction parts generalizing t here with
  | nil => cases failed
  | cons part rest ih =>
    rw [List.cons_append]
    cases partRule part with
    | idle walk create =>
      rw [create] at failed ⊢
      rw [walk]
      exact ih failed
    | up walk create =>
      rw [create] at failed ⊢
      rw [walk]
      exact ih failed
    | long walk _ => exact walk _ here _
    | name walk create =>
      rw [create] at failed ⊢
      rw [walk]
      split at failed
      · rename_i found
        rw [(grows_createWalk t _ rest).kept _ _ found]
        exact ih failed
      · rename_i found
        rw [found]
        exact if_neg (by simp [goesOn])
      · have created : (t.put (within here part) .directory).nodes.find? (within here part) =
            some .directory := by
          rw [find?_put, if_pos rfl]
        rw [(grows_createWalk _ _ rest).kept _ _ created]
        exact ih failed

end FileTree

/-! ### The path of the directory that holds a file -/

namespace Path
variable {p parent : Path} {absolute : Bool} {parts : List (List Char)}

theorem withoutIdle_suffix (absolute : Bool) (parts : List (List Char)) :
    ∃ idle, parts = idle ++ withoutIdle absolute parts := by
  induction parts with
  | nil => exact ⟨[], rfl⟩
  | cons part rest ih =>
    rw [withoutIdle]
    split
    · obtain ⟨idle, whole⟩ := ih
      exact ⟨part :: idle, congrArg (part :: ·) whole⟩
    · exact ⟨[], rfl⟩

theorem not_mem_of_mem_parts {part : List Char} (member : part ∈ p.parts) : '/' ∉ part :=
  fun inside => (Text.mem_of_mem_splitOn member inside).2 rfl

theorem head?_parts (relative : p.isAbsolute = false) (named : p.text ≠ "") :
    p.parts.head? ≠ some [] := by
  have text : p.text.toList ≠ [] := by simpa using named
  rw [parts, relative]
  rw [isAbsolute, beq_eq_false_iff_ne] at relative
  cases chars : p.text.toList with
  | nil => exact absurd chars text
  | cons c rest =>
    rw [chars] at relative
    have named : c ≠ '/' := by simpa using relative
    simp only [Bool.false_eq_true, if_false]
    simp only [Text.splitOn]
    split
    · simp
    · simp [named]

theorem parts_ofParts (some : parts ≠ []) (whole : ∀ part ∈ parts, '/' ∉ part)
    (starts : absolute = true ∨ parts.head? ≠ .some []) :
    (ofParts absolute parts).isAbsolute = absolute ∧ (ofParts absolute parts).parts = parts := by
  have back := Text.splitOn_joinWith some whole
  cases absolute with
  | true => simp [Path.parts, isAbsolute, ofParts, back]
  | false =>
    have relative : (ofParts false parts).isAbsolute = false := by
      obtain ⟨first, rest, rfl⟩ := List.exists_cons_of_ne_nil some
      cases first with
      | nil => simp at starts
      | cons c cs =>
        have named : c ≠ '/' := fun same => whole _ List.mem_cons_self (by simp [same])
        cases rest <;> simp [isAbsolute, ofParts, Text.joinWith, named]
    refine ⟨relative, ?_⟩
    rw [Path.parts, relative]
    simpa [ofParts] using back

/-- A path goes on where that of its directory ends, unless this is the root or the empty path. -/
theorem parts_of_parent? (held : p.parent? = some parent) :
    parent = ofParts p.isAbsolute [] ∨
      parent.isAbsolute = p.isAbsolute ∧ ∃ more, more ≠ [] ∧ p.parts = parent.parts ++ more := by
  unfold parent? at held
  split at held
  · cases held
  rename_i last rest found
  cases held
  obtain ⟨after, whole⟩ := withoutIdle_suffix p.isAbsolute p.parts.reverse
  obtain ⟨before, front⟩ := withoutIdle_suffix p.isAbsolute rest
  generalize withoutIdle p.isAbsolute rest = kept at front
  have parts : p.parts = kept.reverse ++ (before.reverse ++ last :: after.reverse) := by
    rw [found, front] at whole
    simpa using congrArg List.reverse whole
  by_cases top : kept = []
  · exact .inl (by rw [top]; rfl)
  have named : p.text ≠ "" := by
    intro empty
    have alone : p.parts = [[]] := by simp [Path.parts, isAbsolute, empty, Text.splitOn]
    have short := congrArg List.length (alone.symm.trans parts)
    have some := List.length_pos_iff.2 top
    simp only [List.length_append, List.length_reverse, List.length_cons, List.length_nil] at short
    omega
  have starts : p.isAbsolute = true ∨ kept.reverse.head? ≠ some [] := by
    cases absolute : p.isAbsolute with
    | true => exact .inl rfl
    | false =>
      refine .inr fun first => head?_parts absolute named ?_
      rw [parts, List.head?_append, first]
      rfl
  obtain ⟨absolute, same⟩ := parts_ofParts (by simpa using top)
    (fun part member => not_mem_of_mem_parts (parts ▸ List.mem_append_left _ member)) starts
  refine .inr ⟨absolute, before.reverse ++ last :: after.reverse, by simp, ?_⟩
  rw [same]
  exact parts

end Path

namespace FileTree
variable {t : FileTree} {p parent : Path}

/-- Where the directory of a file could not be created, the file is as it was. -/
theorem read?_createDirectories (held : p.parent? = some parent)
    (failed : (t.createDirectories parent).1 = false) :
    (t.createDirectories parent).2.read? p = t.read? p := by
  have grows := grows_createDirectories t parent
  unfold createDirectories at failed grows ⊢
  split at failed
  · cases failed
  rename_i named
  rw [if_neg named] at grows ⊢
  split at failed
  · rename_i usable
    rw [if_pos usable] at grows ⊢
    have unread : (t.createWalk (t.start parent) parent.parts).2.read? p = none := by
      obtain rfl | ⟨absolute, more, goesOn, parts⟩ := Path.parts_of_parent? held
      · cases absolute : p.isAbsolute <;> rw [absolute] at failed <;> cases failed
      · have starts : (t.createWalk (t.start parent) parent.parts).2.start p = t.start parent := by
          rw [start, grows.current, ← absolute]
          rfl
        have place : (t.createWalk (t.start parent) parent.parts).2.place p = .unreachable := by
          unfold place
          split
          · rw [parts, starts]
            exact walk_of_not_created failed goesOn
          · rfl
        rw [read?, node?, place]
    rw [unread, grows.read?_eq_none unread]
  · rename_i unusable
    rw [if_neg unusable]

end FileTree

end AppHost
