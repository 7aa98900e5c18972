/-! Text cut at a separator, and put together again. -/

set_option autoImplicit false
namespace AppHost.Text

/-- What stands between separators; one part more than there are separators. -/
def splitOn (separator : Char) : List Char → List (List Char)
  | [] => [[]]
  | c :: rest =>
    match splitOn separator rest with
    | [] => [[c]]
    | part :: parts => if c = separator then [] :: part :: parts else (c :: part) :: parts

def joinWith (separator : List Char) : List (List Char) → List Char
  | [] => []
  | [part] => part
  | part :: rest => part ++ separator ++ joinWith separator rest

theorem splitOn_ne_nil (separator : Char) (cs : List Char) : splitOn separator cs ≠ [] := by
  cases cs with
  | nil => simp [splitOn]
  | cons c rest =>
    simp only [splitOn]
    split
    · simp
    · split <;> simp

theorem joinWith_splitOn (separator : Char) (cs : List Char) :
    joinWith [separator] (splitOn separator cs) = cs := by
  induction cs with
  | nil => rfl
  | cons c rest ih =>
    simp only [splitOn]
    split
    · rename_i none
      exact absurd none (splitOn_ne_nil separator rest)
    · rename_i part parts found
      rw [found] at ih
      split
      · rename_i same
        simp [joinWith, ih, same]
      · cases parts with
        | nil => simpa [joinWith] using ih
        | cons next more => simpa [joinWith] using ih

theorem splitOn_of_not_mem {separator : Char} {cs : List Char} (none : separator ∉ cs) :
    splitOn separator cs = [cs] := by
  induction cs with
  | nil => rfl
  | cons c rest ih =>
    obtain ⟨different, later⟩ := List.ne_and_not_mem_of_not_mem_cons none
    rw [splitOn, ih later]
    exact if_neg (Ne.symm different)

theorem splitOn_append (separator : Char) (front rest : List Char) :
    splitOn separator (front ++ separator :: rest) =
      splitOn separator front ++ splitOn separator rest := by
  induction front with
  | nil =>
    cases found : splitOn separator rest with
    | nil => exact absurd found (splitOn_ne_nil separator rest)
    | cons part parts => simp [splitOn, found]
  | cons c front ih =>
    cases found : splitOn separator front with
    | nil => exact absurd found (splitOn_ne_nil separator front)
    | cons part parts =>
      simp only [List.cons_append, splitOn, ih, found]
      split <;> rfl

/-- What stands in a part stands in the text, and is no separator. -/
theorem mem_of_mem_splitOn {separator c : Char} {cs part : List Char}
    (member : part ∈ splitOn separator cs) (inside : c ∈ part) : c ∈ cs ∧ c ≠ separator := by
  induction cs generalizing part with
  | nil =>
    cases List.mem_singleton.1 member
    cases inside
  | cons d rest ih =>
    simp only [splitOn] at member
    split at member
    · rename_i none
      exact absurd none (splitOn_ne_nil separator rest)
    · rename_i first parts found
      rw [found] at ih
      have later {part : List Char} (member : part ∈ first :: parts) (inside : c ∈ part) :
          c ∈ d :: rest ∧ c ≠ separator :=
        (ih member inside).imp_left (List.mem_cons_of_mem d)
      split at member
      · obtain rfl | member := List.mem_cons.1 member
        · cases inside
        · exact later member inside
      · rename_i different
        obtain rfl | member := List.mem_cons.1 member
        · obtain rfl | inside := List.mem_cons.1 inside
          · exact ⟨List.mem_cons_self, different⟩
          · exact later List.mem_cons_self inside
        · exact later (List.mem_cons_of_mem _ member) inside

theorem splitOn_joinWith {separator : Char} {parts : List (List Char)} (some : parts ≠ [])
    (whole : ∀ part ∈ parts, separator ∉ part) :
    splitOn separator (joinWith [separator] parts) = parts := by
  induction parts with
  | nil => exact absurd rfl some
  | cons part rest ih =>
    obtain ⟨alone, others⟩ := List.forall_mem_cons.1 whole
    cases rest with
    | nil => exact splitOn_of_not_mem alone
    | cons next more =>
      have joined : joinWith [separator] (part :: next :: more) =
          part ++ separator :: joinWith [separator] (next :: more) := by
        simp [joinWith]
      rw [joined, splitOn_append, splitOn_of_not_mem alone, ih (List.cons_ne_nil _ _) others]
      rfl

end AppHost.Text
