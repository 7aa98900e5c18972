import AppHost.Proofs.Files.Writing
import AppHost.Proofs.Settings.Layering
import AppHost.Proofs.Toml.Comments
import AppHost.Settings.Location

/-!
The first settings file, read again. Its path stands in a comment above the settings as it is, so the
file gives back the defaults unless the path has characters that no comment may have: then it cannot be
read, or what follows a line feed of the path is read as settings.
-/

set_option autoImplicit false
namespace AppHost.Settings
open Toml (FitsComment)
open Entries (find?)
open SettingLayer
variable {t : FileTree} {e : Environment} {file : Path}

def bodyText : List Char := defaultBody.flatMap fun line => line.toList ++ ['\n']

def title : List Char := " Configuration for ".toList ++ programName.toList

def label : List Char := " File: ".toList

theorem unlines_cons (line : String) (lines : List String) :
    unlines (line :: lines) = line ++ "\n" ++ unlines lines :=
  rfl

theorem toList_unlines (lines : List String) :
    (unlines lines).toList = lines.flatMap fun line => line.toList ++ ['\n'] := by
  induction lines with
  | nil => rfl
  | cons line lines ih =>
    have feed : "\n".toList = ['\n'] := by decide
    rw [unlines_cons, String.toList_append, String.toList_append, feed, ih, List.flatMap_cons]

theorem toList_defaultText (file : Path) :
    (defaultText file).toList =
      '#' :: (title ++ ([] ++ '\n' ::
        ('#' :: (label ++ (file.text.toList ++ '\n' :: ('\n' :: bodyText)))))) := by
  have first : "# Configuration for ".toList = '#' :: " Configuration for ".toList := by decide
  have second : "# File: ".toList = '#' :: label := by decide
  rw [defaultText, toList_unlines]
  simp only [List.cons_append, List.nil_append, List.flatMap_cons, String.toList_append, first,
    second, String.toList_empty, List.append_assoc]
  unfold title bodyText
  rw [List.append_assoc]

theorem title_isPlain : ∀ c ∈ title, Toml.isPlain c := List.all_eq_true.1 (by decide)

theorem label_isPlain : ∀ c ∈ label, Toml.isPlain c := List.all_eq_true.1 (by decide)

def bodyEntries (root : List (String × Toml.Node)) : List (String × Setting) :=
  (Setting.ofToml (.table (Toml.Node.entriesToValues root))).entries

/-- The body is few statements. They set the defaults, with one entry for each section. -/
theorem body_gives_default :
    ∃ root, Toml.statements? 15 bodyText [] [] = some root ∧
      (∀ group ∈ sectionNames, LeadsOnce group (bodyEntries root)) ∧
      ofSetting? (combined (.ofEntries (bodyEntries root)) []) = some .default := by
  have gives : (Toml.statements? 15 bodyText [] []).any fun root => decide
      ((∀ group ∈ sectionNames, LeadsOnce group (bodyEntries root)) ∧
        ofSetting? (combined (.ofEntries (bodyEntries root)) []) = some .default) := by
    decide +kernel
  obtain ⟨root, read, gives⟩ := (Option.any_eq_true _ _).1 gives
  exact ⟨root, read, of_decide_eq_true gives⟩

theorem ofSetting?_congr {entries others : List (String × Setting)}
    (same : ∀ group ∈ sectionNames, find? group entries = find? group others) :
    ofSetting? (.table entries) = ofSetting? (.table others) := by
  simp only [ofSetting?, Setting.section?, Setting.isSection, if_true, Option.bind_eq_bind,
    Option.bind_some, Setting.fieldOr?, Setting.field?,
    same _ (by decide : "logging" ∈ sectionNames), same _ (by decide : "grpc" ∈ sectionNames),
    same _ (by decide : "admin" ∈ sectionNames), same _ (by decide : "runtime" ∈ sectionNames)]

/-- Entries for one section each set the same in any order. -/
theorem ofSetting?_ofTable {entries : List (String × Setting)}
    (once : ∀ group ∈ sectionNames, LeadsOnce group entries) (slot : String → Nat) :
    ofSetting? (combined (.ofTable slot entries) []) =
      ofSetting? (combined (.ofEntries entries) []) := by
  obtain ⟨placed, arrangedDone⟩ := overlay_ofEntries (arranged slot entries) ground
  obtain ⟨written, done⟩ := overlay_ofEntries entries ground
  have same : ∀ group ∈ sectionNames, find? group placed = find? group written := by
    intro group member
    have same := (once group member).find?_overlay_of_perm (perm_arranged slot entries).symm ground
    rw [arrangedDone, done] at same
    exact same.symm
  have above (layer : SettingLayer) : combined layer [] = layer.overlay (.table ground) := by
    rw [combined, overlay_defaultLayer]
    rfl
  rw [above, above, ofTable, arrangedDone, done]
  exact ofSetting?_congr same

/-- The first comment is passed over; how the document is read depends on the path in the second. -/
theorem parse?_defaultText (file : Path) :
    ∃ fuel, 15 ≤ fuel ∧ Toml.parse? (defaultText file) =
      (Toml.statements? (fuel + 2)
        ('#' :: (label ++ (file.text.toList ++ '\n' :: ('\n' :: bodyText)))) [] []).map
          fun root => .table (Toml.Node.entriesToValues root) := by
  have long : 15 ≤ bodyText.length := by decide +kernel
  obtain ⟨fuel, enough, length⟩ : ∃ fuel, 15 ≤ fuel ∧
      (defaultText file).toList.length = fuel + 2 := by
    refine ⟨(defaultText file).toList.length - 2, ?_, ?_⟩ <;>
    · simp only [toList_defaultText, List.length_cons, List.length_append]
      omega
  refine ⟨fuel, enough, ?_⟩
  unfold Toml.parse?
  split
  · rename_i marked
    rw [toList_defaultText] at marked
    cases marked
  · dsimp only
    rw [length, toList_defaultText,
      Toml.statements?_of_fitsComment title_isPlain ⟨[], nofun, .inl rfl⟩]
    exact Option.map_eq_bind.symm

theorem documentEntries?_defaultText_of_fitsComment (fits : FitsComment file.text.toList) :
    ∃ entries, documentEntries? (defaultText file) = some entries ∧
      ∀ slot, ofSetting? (combined (.ofTable slot entries) []) = some .default := by
  obtain ⟨root, read, once, gives⟩ := body_gives_default
  obtain ⟨fuel, enough, parsed⟩ := parse?_defaultText file
  refine ⟨bodyEntries root, ?_, fun slot => (ofSetting?_ofTable once slot).trans gives⟩
  rw [documentEntries?, parsed, Toml.statements?_of_fitsComment label_isPlain fits,
    Toml.statements?_blank, Toml.statements?_of_le read enough, Option.map_some, Option.map_some,
    bodyEntries]

theorem parse?_defaultText_of_not_fitsComment (unbroken : '\n' ∉ file.text.toList)
    (unfit : ¬FitsComment file.text.toList) : Toml.parse? (defaultText file) = none := by
  obtain ⟨fuel, -, parsed⟩ := parse?_defaultText file
  rw [parsed, Toml.statements?_of_not_fitsComment label_isPlain unbroken unfit, Option.map_none]

/-! ### Where it is written -/

def prepared (t : FileTree) (file : Path) : Bool × FileTree :=
  match file.parent? with
  | some parent => t.createDirectories parent
  | none => (true, t)

/-- A file can be put there, once the directories that hold it were created, and there is room for the
first settings in it. -/
def Writable (t : FileTree) (file : Path) : Prop :=
  (prepared t file).1 ∧ ((prepared t file).2.place file).location?.isSome ∧
    (prepared t file).2.fits (Text.encodeUtf8 (defaultText file))

theorem writeDefault_eq (t : FileTree) (file : Path) :
    writeDefault t file =
      if (prepared t file).1 then
        match (prepared t file).2.write file (Text.encodeUtf8 (defaultText file)) with
        | (true, u) => (.ok (), u)
        | (false, u) => (.error (.file file), u)
      else (.error (.directory (file.parent?.getD file)), (prepared t file).2) :=
  rfl

theorem writeDefault_fst_iff : (writeDefault t file).1 = .ok () ↔ Writable t file := by
  have written : ((prepared t file).2.write file (Text.encodeUtf8 (defaultText file))).1 = true ↔
      ((prepared t file).2.place file).location?.isSome ∧
        (prepared t file).2.fits (Text.encodeUtf8 (defaultText file)) := by
    rw [FileTree.write_eq]
    cases ((prepared t file).2.place file).location? with
    | none => simp
    | some location => simp [FileTree.fill]
  rw [writeDefault_eq, Writable, ← written]
  rcases (prepared t file).2.write file (Text.encodeUtf8 (defaultText file)) with ⟨_ | _, u⟩ <;>
    by_cases created : (prepared t file).1 = true <;> simp [created]

theorem read?_writeDefault_of_ok (written : (writeDefault t file).1 = .ok ()) :
    (writeDefault t file).2.read? file = some (Text.encodeUtf8 (defaultText file)) := by
  rw [writeDefault_eq] at written ⊢
  split_ifs at written ⊢ with created
  rcases put : (prepared t file).2.write file (Text.encodeUtf8 (defaultText file)) with ⟨_ | _, u⟩
  · rw [put] at written
    cases written
  · have read := FileTree.read?_write (congrArg Prod.fst put)
    rwa [put] at read

theorem fileContent?_of_writeDefault (written : (writeDefault t file).1 = .ok ()) :
    fileContent? (writeDefault t file).2 file = some (Text.encodeUtf8 (defaultText file)) :=
  fileContent?_of_read? (read?_writeDefault_of_ok written)

theorem defaultText_unmarked (file : Path) :
    (defaultText file).toList.head? ≠ some '\uFEFF' := by
  rw [toList_defaultText]
  simp

theorem fileEntries_writeDefault (written : (writeDefault t file).1 = .ok ()) :
    fileEntries (writeDefault t file).2 file =
      match documentEntries? (defaultText file) with
      | some entries => .ok entries
      | none => .error (.unreadable file) :=
  fileEntries_of_text (fileContent?_of_writeDefault written) (defaultText_unmarked file)

theorem load_writeDefault (unset : e.settings = []) (written : (writeDefault t file).1 = .ok ())
    (fits : FitsComment file.text.toList) :
    load (writeDefault t file).2 e file = .ok .default := by
  have read := fileEntries_writeDefault written
  obtain ⟨entries, document, gives⟩ := documentEntries?_defaultText_of_fitsComment fits
  rw [document] at read
  refine load_of_entries read ?_
  rw [Environment.ofEnvironment_of_unset unset]
  exact gives e.slot

/-- After the first file was written, the defaults load from it if its path fits into a comment. If not,
and the path is in one line, the file cannot be read. -/
theorem first_file_loads (unset : e.settings = []) (written : (writeDefault t file).1 = .ok ()) :
    (FitsComment file.text.toList → load (writeDefault t file).2 e file = .ok .default) ∧
      ('\n' ∉ file.text.toList → ¬FitsComment file.text.toList →
        load (writeDefault t file).2 e file = .error (.unreadable file)) := by
  refine ⟨load_writeDefault unset written, fun unbroken unfit => ?_⟩
  have unread := fileEntries_writeDefault written
  rw [documentEntries?, parse?_defaultText_of_not_fitsComment unbroken unfit] at unread
  rw [load, unread]
  rfl

-- Both outcomes: a path as usual, and one with a control character.
theorem first_file_loads_by_path :
    let e : Environment := ⟨.empty, ⟨"/"⟩, fun _ => 0⟩
    (writeDefault .empty ⟨"/c.toml"⟩).1 = .ok () ∧
      load (writeDefault .empty ⟨"/c.toml"⟩).2 e ⟨"/c.toml"⟩ = .ok .default ∧
      (writeDefault .empty ⟨"/\x01"⟩).1 = .ok () ∧
      load (writeDefault .empty ⟨"/\x01"⟩).2 e ⟨"/\x01"⟩ = .error (.unreadable ⟨"/\x01"⟩) := by
  intro e
  have written : (writeDefault .empty ⟨"/c.toml"⟩).1 = .ok () :=
    writeDefault_fst_iff.2 ⟨by rfl, by rfl, by rfl⟩
  have other : (writeDefault .empty ⟨"/\x01"⟩).1 = .ok () :=
    writeDefault_fst_iff.2 ⟨by rfl, by rfl, by rfl⟩
  have fits : FitsComment "/c.toml".toList := ⟨_, List.all_eq_true.1 (by decide), .inl rfl⟩
  have unfit : ¬FitsComment "/\x01".toList :=
    fun fits => absurd (fits.isPlain_or '\x01' (by decide)) (by decide)
  exact ⟨written, (first_file_loads (by rfl) written).1 fits, other,
    (first_file_loads (by rfl) other).2 (by decide) unfit⟩

-- What follows the line feed is a key without a value.
theorem first_file_of_broken_path :
    let e : Environment := ⟨.empty, ⟨"/"⟩, fun _ => 0⟩
    (writeDefault .empty ⟨"/a\nb"⟩).1 = .ok () ∧ e.settings = [] ∧
      load (writeDefault .empty ⟨"/a\nb"⟩).2 e ⟨"/a\nb"⟩ = .error (.unreadable ⟨"/a\nb"⟩) := by
  intro e
  have written : (writeDefault .empty ⟨"/a\nb"⟩).1 = .ok () :=
    writeDefault_fst_iff.2 ⟨by rfl, by rfl, by rfl⟩
  have unread : Toml.parse? (defaultText ⟨"/a\nb"⟩) = none := by
    obtain ⟨fuel, -, parsed⟩ := parse?_defaultText ⟨"/a\nb"⟩
    have fits : FitsComment ['/', 'a'] := ⟨_, List.all_eq_true.1 (by decide), .inl rfl⟩
    have chars : "/a\nb".toList ++ '\n' :: ('\n' :: bodyText) =
        ['/', 'a'] ++ '\n' :: ('b' :: '\n' :: '\n' :: bodyText) := by
      have same : "/a\nb".toList = ['/', 'a', '\n', 'b'] := by decide
      rw [same]
      rfl
    rw [parsed, chars, Toml.statements?_of_fitsComment label_isPlain fits]
    generalize bodyText = rest
    rfl
  have entries := fileEntries_writeDefault written
  rw [documentEntries?, unread] at entries
  refine ⟨written, rfl, ?_⟩
  rw [load, entries]
  rfl

end AppHost.Settings
