import AppHost.ManifestDirectory
import Mathlib.Data.List.Nodup

/-!
The entries of a directory: the paths that they have, and which of them are listed. A path of an entry
ends with the name of the entry, so the name has the extension, and the paths of two entries of one
directory compare as their names do.
-/

set_option autoImplicit false
namespace AppHost

/-! ### Lists in the order of their items -/

theorem append_le_append_iff {front a b : List (List UInt8)} :
    front ++ a ≤ front ++ b ↔ a ≤ b := by
  induction front with
  | nil => rfl
  | cons part front ih =>
    rw [List.cons_append, List.cons_append, List.cons_le_cons_iff, ih]
    simp [List.lt_irrefl]

theorem singleton_le_singleton_iff {a b : List UInt8} : [a] ≤ [b] ↔ a ≤ b := by
  have atMost : a ≤ b ↔ a < b ∨ a = b := List.le_iff_lt_or_eq
  rw [List.cons_le_cons_iff, atMost]
  simp

/-! ### Paths -/

namespace Path
variable {p : Path} {name : List Char}

theorem isAbsolute_of_not_mem (plain : '/' ∉ p.text.toList) : p.isAbsolute = false := by
  rw [isAbsolute, beq_eq_false_iff_ne]
  intro first
  exact plain (List.mem_of_mem_head? first)

theorem toList_join {directory : Path} (named : directory.text ≠ "") :
    ∃ front, ∀ p : Path, '/' ∉ p.text.toList →
      (directory.join p).text.toList = front ++ '/' :: p.text.toList := by
  have given : directory.text.isEmpty = false := by simpa using named
  cases closed : directory.text.toList.getLast? == some '/' with
  | true =>
    obtain ⟨front, whole⟩ := List.getLast?_eq_some_iff.1 (eq_of_beq closed)
    refine ⟨front, fun p plain => ?_⟩
    simp [join, isAbsolute_of_not_mem plain, given, whole]
  | false =>
    refine ⟨directory.text.toList, fun p plain => ?_⟩
    simp [join, isAbsolute_of_not_mem plain, given, closed]

/-- The path of an entry has the parts of its directory, and then its name. -/
theorem parts_join (directory : Path) : ∃ front, ∀ p : Path, '/' ∉ p.text.toList →
    (directory.join p).parts = front ++ [p.text.toList] := by
  by_cases named : directory.text = ""
  · refine ⟨[], fun p plain => ?_⟩
    have alone : directory.join p = p := by simp [join, named]
    rw [alone, parts, isAbsolute_of_not_mem plain]
    exact Text.splitOn_of_not_mem plain
  · obtain ⟨front, text⟩ := toList_join named
    cases front with
    | nil =>
      refine ⟨[], fun p plain => ?_⟩
      simp [parts, isAbsolute, text p plain, Text.splitOn_of_not_mem plain]
    | cons c front =>
      refine ⟨Text.splitOn '/' (if c = '/' then front else c :: front), fun p plain => ?_⟩
      rw [← Text.splitOn_of_not_mem plain, ← Text.splitOn_append, parts, isAbsolute, text p plain]
      by_cases absolute : c = '/'
      · simp [absolute]
      · simp [absolute]

theorem fileName?_of_parts {front : List (List Char)} (parts : p.parts = front ++ [name])
    (nonempty : name ≠ []) (named : isName name) : p.fileName? = some name := by
  have kept : (name == ['.']) = false := by
    simp only [isName, Bool.and_eq_true, bne_iff_ne] at named
    simpa using named.1
  have nonempty : name.isEmpty = false := by simpa using nonempty
  simp [fileName?, parts, withoutIdle, kept, nonempty, named]

/-- A name has an extension if that stands after a dot, and something stands before the dot. -/
theorem extension?_eq_some_iff (found : p.fileName? = some name) {ending : List Char}
    (undotted : '.' ∉ ending) :
    p.extension? = some ending ↔ ∃ stem, stem ≠ [] ∧ name = stem ++ '.' :: ending := by
  have unfolded : p.extension? = some ending ↔
      ((name.reverse.dropWhile (· != '.')).drop 1 ≠ [] ∧
        (name.reverse.takeWhile (· != '.')).reverse = ending) := by
    simp only [extension?, found, bind, Option.bind_some]
    split <;> simp_all
  rw [unfolded]
  constructor
  · rintro ⟨nonempty, rfl⟩
    have split := List.takeWhile_append_dropWhile (p := (· != '.')) (l := name.reverse)
    cases last : name.reverse.dropWhile (· != '.') with
    | nil => simp [last] at nonempty
    | cons c rest =>
      have some : name.reverse.dropWhile (· != '.') ≠ [] := by simp [last]
      have dot : c = '.' := by simpa [last] using List.head_dropWhile_not (· != '.') some
      refine ⟨rest.reverse, by simpa [last] using nonempty, ?_⟩
      rw [last, dot] at split
      simpa using (congrArg List.reverse split).symm
  · rintro ⟨stem, nonempty, rfl⟩
    have before : ∀ c ∈ ending.reverse, (c != '.') = true := by
      intro c member
      rw [bne_iff_ne]
      rintro rfl
      exact undotted (List.mem_reverse.1 member)
    simp [List.takeWhile_append_of_pos before, List.dropWhile_append_of_pos before, nonempty]

theorem notAfter_join (directory : Path) {p q : Path} (first : '/' ∉ p.text.toList)
    (second : '/' ∉ q.text.toList) :
    (directory.join p).notAfter (directory.join q) =
      decide (Text.encodeUtf8 p.text ≤ Text.encodeUtf8 q.text) := by
  obtain ⟨front, parts⟩ := directory.parts_join
  rw [notAfter, partsUtf8, partsUtf8, parts p first, parts q second]
  simp only [List.map_append, append_le_append_iff, List.map_cons, List.map_nil,
    singleton_le_singleton_iff, String.ofList_toList]

end Path

/-! ### Listings -/

namespace FileTree
variable {t : FileTree} {directory : Path} {names : List String} {name : String}

theorem isEntryName_iff {name : List Char} :
    isEntryName name ↔ name ≠ [] ∧ Path.isName name ∧ '/' ∉ name := by
  simp [isEntryName, and_assoc]

theorem nameWithin?_eq_some_iff {above location : String} :
    nameWithin? above location = some name ↔
      location = above ++ "/" ++ name ∧ isEntryName name.toList := by
  have split : ∀ rest, (above ++ "/").toList.isPrefixOf? location.toList = some rest ↔
      location = above ++ "/" ++ String.ofList rest := by
    intro rest
    rw [List.isPrefixOf?_eq_some_iff_append_eq, ← String.toList_inj, eq_comm]
    simp
  unfold nameWithin?
  cases found : (above ++ "/").toList.isPrefixOf? location.toList with
  | none =>
    refine ⟨nofun, fun ⟨whole, _⟩ => ?_⟩
    rw [← String.ofList_toList (s := name), ← split, found] at whole
    cases whole
  | some rest =>
    obtain rfl := (split rest).1 found
    rw [String.append_right_inj]
    dsimp only
    split
    · rename_i named
      constructor
      · rintro ⟨⟩
        exact ⟨rfl, by rwa [String.toList_ofList]⟩
      · rintro ⟨rfl, -⟩
        rfl
    · rename_i unnamed
      refine ⟨nofun, ?_⟩
      rintro ⟨rfl, named⟩
      rw [String.toList_ofList] at named
      exact absurd named unnamed

theorem nodup_of_list? (listed : t.list? directory = some names) : names.Nodup := by
  unfold list? at listed
  split at listed
  · cases listed
    refine List.Nodup.filterMap (fun one other name first second => ?_) t.nodes.keys_nodup
    rw [(nameWithin?_eq_some_iff.1 first).1, (nameWithin?_eq_some_iff.1 second).1]
  · cases listed

theorem isEntryName_of_list? (listed : t.list? directory = some names) (member : name ∈ names) :
    isEntryName name.toList := by
  unfold list? at listed
  split at listed
  · cases listed
    obtain ⟨place, -, named⟩ := List.mem_filterMap.1 member
    exact (nameWithin?_eq_some_iff.1 named).2
  · cases listed

theorem contains_of_list? (listed : t.list? directory = some names) :
    t.contains directory = true := by
  unfold list? at listed
  split at listed
  · rename_i place
    rw [contains, node?, place]
    rfl
  · cases listed

end FileTree
end AppHost
