import AppHost.Toml.Reader

/-!
Comments in a document. A line that is a comment is passed over if what it says has no control
characters; a character that may not stand there makes the whole document unreadable.
-/

set_option autoImplicit false
namespace AppHost.Toml
variable {fuel more : Nat} {cs front : List Char} {header : List String} {root nodes : Nodes}

/-- What a comment can say up to the end of its line, which a carriage return may be a part of. -/
def FitsComment (cs : List Char) : Prop :=
  ∃ front : List Char, (∀ c ∈ front, isPlain c) ∧ (cs = front ∨ cs = front ++ ['\r'])

theorem FitsComment.isPlain_or (fits : FitsComment cs) : ∀ c ∈ cs, isPlain c ∨ c = '\r' := by
  obtain ⟨front, plain, rfl | rfl⟩ := fits
  · exact fun c member => .inl (plain c member)
  · intro c member
    obtain member | member := List.mem_append.1 member
    · exact .inl (plain c member)
    · exact .inr (List.mem_singleton.1 member)

theorem statements?_of_le (read : statements? fuel cs header root = some nodes)
    (enough : fuel ≤ more) : statements? more cs header root = some nodes := by
  induction fuel generalizing more cs header root with
  | zero => cases read
  | succ fuel ih =>
    obtain ⟨more, rfl⟩ : ∃ k, more = k + 1 := ⟨more - 1, by omega⟩
    have enough : fuel ≤ more := by omega
    unfold statements? at read ⊢
    generalize skipSpace cs = line at read ⊢
    split at read
    · exact read
    · obtain ⟨rest, ends, read⟩ := Option.bind_eq_some_iff.1 read
      exact Option.bind_eq_some_iff.2 ⟨rest, ends, ih read enough⟩
    · cases blank : newline? line with
      | some rest =>
        rw [blank] at read
        exact ih read enough
      | none =>
        rw [blank] at read
        obtain ⟨result, taken, read⟩ := Option.bind_eq_some_iff.1 read
        exact Option.bind_eq_some_iff.2 ⟨result, taken, ih read enough⟩

theorem statements?_comment (fuel : Nat) (cs : List Char) (header : List String) (root : Nodes) :
    statements? (fuel + 1) ('#' :: cs) header root =
      (lineEnd? (cs.dropWhile isPlain)).bind fun rest => statements? fuel rest header root :=
  rfl

theorem statements?_blank (fuel : Nat) (cs : List Char) (header : List String) (root : Nodes) :
    statements? (fuel + 1) ('\n' :: cs) header root = statements? fuel cs header root :=
  rfl

theorem lineEnd?_of_fitsComment (fits : FitsComment cs) (rest : List Char) :
    lineEnd? ((cs ++ '\n' :: rest).dropWhile isPlain) = some rest := by
  obtain ⟨front, plain, rfl | rfl⟩ := fits
  · rw [List.dropWhile_append_of_pos plain]
    rfl
  · rw [List.append_assoc, List.dropWhile_append_of_pos plain]
    rfl

theorem lineEnd?_of_not_fitsComment (unbroken : '\n' ∉ cs) (unfit : ¬FitsComment cs)
    (rest : List Char) : lineEnd? ((cs ++ '\n' :: rest).dropWhile isPlain) = none := by
  have plain : ∀ c ∈ cs.takeWhile isPlain, isPlain c := List.all_eq_true.1 List.all_takeWhile
  obtain ⟨back, stops⟩ : ∃ back, cs.dropWhile isPlain = back := ⟨_, rfl⟩
  have parted : cs = cs.takeWhile isPlain ++ back := by
    rw [← stops, List.takeWhile_append_dropWhile]
  cases back with
  | nil => exact absurd ⟨_, plain, .inl (parted.trans (List.append_nil _))⟩ unfit
  | cons c back =>
    rw [List.dropWhile_append, stops]
    have noFeed : '\n' ∉ c :: back := fun member => unbroken (parted ▸ List.mem_append_right _ member)
    have noEnd : c :: back ≠ ['\r'] := by
      intro same
      exact unfit ⟨_, plain, .inr (same ▸ parted)⟩
    change newline? (c :: (back ++ '\n' :: rest)) = none
    unfold newline?
    split
    · rename_i same
      cases same
      exact absurd (List.mem_cons_self ..) noFeed
    · rename_i same
      cases back with
      | nil =>
        cases same
        exact absurd rfl noEnd
      | cons =>
        cases same
        exact absurd (by simp) noFeed
    · rfl

theorem statements?_of_fitsComment (plain : ∀ c ∈ front, isPlain c) (fits : FitsComment cs)
    (rest : List Char) :
    statements? (fuel + 1) ('#' :: (front ++ (cs ++ '\n' :: rest))) header root =
      statements? fuel rest header root := by
  rw [statements?_comment, List.dropWhile_append_of_pos plain, lineEnd?_of_fitsComment fits,
    Option.bind_some]

theorem statements?_of_not_fitsComment (plain : ∀ c ∈ front, isPlain c) (unbroken : '\n' ∉ cs)
    (unfit : ¬FitsComment cs) (rest : List Char) :
    statements? (fuel + 1) ('#' :: (front ++ (cs ++ '\n' :: rest))) header root = none := by
  rw [statements?_comment, List.dropWhile_append_of_pos plain,
    lineEnd?_of_not_fitsComment unbroken unfit, Option.bind_none]

end AppHost.Toml
