import AppHost.Proofs.Settings.Layering

/-!
Texts given by variables. What looks like a truth value or a number is taken for one before it is known
that a text is wanted, and is then shown as such a value is: a path or an address that looks like this
may come out otherwise than it was written. A file says by quotes what is a text.
-/

set_option autoImplicit false
namespace AppHost

namespace Numeral

def isNumeralChar (c : Char) : Bool := c.isAlphanum || c == '+' || c == '-' || c == '.'

theorem isNumeralChar_of_isDigit {c : Char} (digit : c.isDigit = true) : isNumeralChar c = true := by
  simp [isNumeralChar, Char.isAlphanum, digit]

theorem isNumeralChar_of_sign {cs : List Char} (rest : ∀ c ∈ (sign cs).2, isNumeralChar c) :
    ∀ c ∈ cs, isNumeralChar c := by
  unfold sign at rest
  split at rest
  · exact List.forall_mem_cons.2 ⟨by decide, rest⟩
  · exact List.forall_mem_cons.2 ⟨by decide, rest⟩
  · exact rest

theorem isNumeralChar_of_digits? {cs : List Char} {n : Nat} (read : digits? cs = some n) :
    ∀ c ∈ cs, isNumeralChar c := by
  unfold digits? at read
  split at read
  · rename_i digits
    exact fun c member => isNumeralChar_of_isDigit (List.all_eq_true.1 digits.2 c member)
  · cases read

theorem isNumeralChar_of_whole? {cs : List Char} {n : Int} (read : whole? cs = some n) :
    ∀ c ∈ cs, isNumeralChar c := by
  obtain ⟨m, read, -⟩ := Option.map_eq_some_iff.1 read
  obtain ⟨k, digits, -⟩ := Option.bind_eq_some_iff.1 read
  exact isNumeralChar_of_sign (isNumeralChar_of_digits? digits)

theorem isNumeralChar_of_dropWhile {cs : List Char}
    (rest : ∀ c ∈ cs.dropWhile Char.isDigit, isNumeralChar c) : ∀ c ∈ cs, isNumeralChar c := by
  intro c member
  rw [← List.takeWhile_append_dropWhile (p := Char.isDigit) (l := cs), List.mem_append] at member
  obtain front | back := member
  · exact isNumeralChar_of_isDigit (List.all_eq_true.1 List.all_takeWhile c front)
  · exact rest c back

theorem isNumeralChar_of_exponent {cs : List Char} {mark : Char} {n : Int}
    (is : mark = 'e' ∨ mark = 'E') (read : whole? cs = some n) :
    ∀ c ∈ mark :: cs, isNumeralChar c := by
  refine List.forall_mem_cons.2 ⟨?_, isNumeralChar_of_whole? read⟩
  obtain rfl | rfl := is <;> decide

theorem isNumeralChar_of_decimal? {cs : List Char} {d : Decimal} (read : decimal? cs = some d) :
    ∀ c ∈ cs, isNumeralChar c := by
  refine isNumeralChar_of_dropWhile ?_
  unfold decimal? at read
  dsimp only at read
  split at read
  on_goal 1 =>
    rename_i point
    rw [point]
    refine List.forall_mem_cons.2 ⟨by decide, isNumeralChar_of_dropWhile ?_⟩
  -- With a point or without, the exponent comes last.
  all_goals
    dsimp only at read
    generalize List.dropWhile Char.isDigit _ = exponent at read ⊢
    split at read
    · cases read
    split at read
    · simp
    split at read
    · rename_i mark
      obtain ⟨n, whole, -⟩ := Option.bind_eq_some_iff.1 read
      exact isNumeralChar_of_exponent mark whole
    · cases read

theorem isAlpha_of_toLower {c : Char} (letter : c.toLower.isAlpha = true) : c.isAlpha = true := by
  unfold Char.toLower at letter
  split at letter
  · rename_i upper
    have isUpper : c.isUpper = true := decide_eq_true upper
    change (c.isUpper || c.isLower) = true
    rw [isUpper, Bool.true_or]
  · exact letter

theorem isNumeralChar_of_word {cs word : List Char} (same : cs.map Char.toLower = word)
    (letters : ∀ c ∈ word, c.isAlpha) : ∀ c ∈ cs, isNumeralChar c := by
  intro c member
  have letter := isAlpha_of_toLower (letters _ (same ▸ List.mem_map_of_mem member))
  simp [isNumeralChar, Char.isAlphanum, letter]

theorem isNumeralChar_of_integer? {cs : List Char} {n : Int} (read : integer? cs = some n) :
    ∀ c ∈ cs, isNumeralChar c :=
  isNumeralChar_of_whole? (Option.eq_some_of_filter_eq_some read)

theorem isNumeralChar_of_float? {cs : List Char} {x : Float} (read : float? cs = some x) :
    ∀ c ∈ cs, isNumeralChar c := by
  obtain ⟨y, read, -⟩ := Option.map_eq_some_iff.1 read
  refine isNumeralChar_of_sign ?_
  have chars {cs : List Char} {word : String} (same : String.ofList cs = word) : cs = word.toList := by
    rw [← same, String.toList_ofList]
  unfold magnitude? at read
  dsimp only at read
  split_ifs at read with infinite none
  · obtain same | same := infinite
    all_goals exact isNumeralChar_of_word (chars same) (List.all_eq_true.1 (by decide))
  · exact isNumeralChar_of_word (chars none) (List.all_eq_true.1 (by decide))
  · obtain ⟨d, decimal, -⟩ := Option.map_eq_some_iff.1 read
    exact isNumeralChar_of_decimal? decimal

end Numeral

namespace SettingLayer

/-- The text that settings have for a text that a variable holds. -/
inductive Shown (written : String) : String → Prop
  | word (b : Bool) (is : written.toList.map Char.toLower = Json.boolChars b) :
      Shown written (String.ofList (Json.boolChars b))
  | integer (n : Int) (is : Numeral.integer? written.toList = some n) :
      Shown written (String.ofList (Json.intChars n))
  | number (x : Float) (whole : Numeral.integer? written.toList = none)
      (is : Numeral.float? written.toList = some x) :
      Shown written (String.ofList (Setting.floatChars x))
  | text (word : ∀ b, written.toList.map Char.toLower ≠ Json.boolChars b)
      (whole : Numeral.integer? written.toList = none)
      (number : Numeral.float? written.toList = none) : Shown written written

theorem exists_shown (written : String) :
    ∃ text, (valueOf written).text? = some text ∧ Shown written text := by
  unfold valueOf
  dsimp only
  split_ifs with yes no
  · exact ⟨_, rfl, .word true yes⟩
  · exact ⟨_, rfl, .word false no⟩
  · cases whole : Numeral.integer? written.toList with
    | some n => exact ⟨_, rfl, .integer n whole⟩
    | none =>
      cases number : Numeral.float? written.toList with
      | some x => exact ⟨_, rfl, .number x whole number⟩
      | none =>
        refine ⟨_, rfl, .text ?_ whole number⟩
        rintro (_ | _)
        · exact no
        · exact yes

theorem Shown.eq_self {written text : String} (shown : Shown written text)
    (other : ∃ c ∈ written.toList, ¬Numeral.isNumeralChar c) : text = written := by
  obtain ⟨c, member, other⟩ := other
  cases shown with
  | word b is =>
    have letters : ∀ c ∈ Json.boolChars b, c.isAlpha := by
      cases b <;> exact List.all_eq_true.1 (by decide)
    exact absurd (Numeral.isNumeralChar_of_word is letters c member) other
  | integer n is => exact absurd (Numeral.isNumeralChar_of_integer? is c member) other
  | number x whole is => exact absurd (Numeral.isNumeralChar_of_float? is c member) other
  | text => rfl

end SettingLayer

namespace Settings
open SettingLayer
open Entries (find?)

inductive TextKey
  | level | address | socket | adminAddress | directory

namespace TextKey

def group : TextKey → String
  | .level => "logging"
  | .address => "grpc"
  | .socket => "grpc"
  | .adminAddress => "admin"
  | .directory => "runtime"

def name : TextKey → String
  | .level => "level"
  | .address => "listen"
  | .socket => "socket"
  | .adminAddress => "listen"
  | .directory => "applications_dir"

def put (k : TextKey) (text : String) (s : Settings) : Settings :=
  match k with
  | .level => { s with logging := { level := text } }
  | .address => { s with contract := { s.contract with listen := text } }
  | .socket => { s with contract := { s.contract with socket := some text } }
  | .adminAddress => { s with admin := { s.admin with listen := text } }
  | .directory => { s with host := { s.host with applicationsDirectory := some text } }

theorem isGroup (k : TextKey) : IsGroup k.group.toList := by
  cases k <;> exact isGroup_of_mem (by decide)

theorem isKey (k : TextKey) : IsKey k.name.toList := by
  cases k <;> exact ⟨by decide, List.all_eq_true.1 (by decide), by decide⟩

def withValue (k : TextKey) (v : Setting) : List (String × Setting) :=
  Entries.insert k.group
    (.table (Entries.insert k.name v ((find? k.group ground).getD .nothing).entries)) ground

theorem ofSetting?_withValue (k : TextKey) {v : Setting} {text : String}
    (shown : v.text? = some text) :
    ofSetting? (.table (k.withValue v)) = some (k.put text .default) := by
  cases v with
  | bool => cases shown; cases k <;> rfl
  | integer => cases shown; cases k <;> rfl
  | float => cases shown; cases k <;> rfl
  | text => cases shown; cases k <;> rfl
  | nothing => cases shown
  | list => cases shown
  | table => cases shown

theorem overlay_pair (k : TextKey) (written : String) :
    (ofEntries [(pairName k.group.toList k.name.toList, valueOf written)]).overlay (.table ground) =
      .table (k.withValue (valueOf written)) := by
  simp only [ofEntries, overlay, List.map_cons, List.map_nil, List.foldl_cons, List.foldl_nil,
    put_pair k.isGroup k.isKey, String.ofList_toList, withValue]

theorem overlay_section (k : TextKey) (written : String) :
    (ofEntries [(k.group, .table [(k.name, .text written)])]).overlay (.table ground) =
      .table (k.withValue (.text written)) := by
  have path : SettingStep.ofName k.group = [.key k.group] := by cases k <;> decide +kernel
  simp only [ofEntries, overlay, List.map_cons, List.map_nil, List.foldl_cons, List.foldl_nil,
    SettingLayer.put, path, Setting.change, Setting.overlay, Setting.overlayEntries,
    Setting.overlayEntry, Setting.entry, Setting.entries, withValue]

end TextKey

variable {t : FileTree} {e : Environment} {file : Path} {k : TextKey}

theorem ofEnvironment_of_single {v : String × String} {group key : List Char}
    (alone : e.settings = [v]) (isNamed : Environment.IsNamed v group key) :
    ofEnvironment e = ofEntries [(pairName group key, valueOf v.2)] := by
  rw [Environment.ofEnvironment_eq, alone, List.filterMap_cons,
    Environment.given?_of_isNamed isNamed]
  rfl

theorem load_of_single {v : String × String} (missing : fileContent? t file = none)
    (alone : e.settings = [v]) (named : lowered v.1 = variableName k.group.toList k.name.toList) :
    ∃ text, Shown v.2 text ∧ load t e file = .ok (k.put text .default) := by
  obtain ⟨text, read, shown⟩ := exists_shown v.2
  refine ⟨text, shown, load_of_entries (fileEntries_of_missing missing) ?_⟩
  rw [← TextKey.ofSetting?_withValue k read, combined, overlay_defaultLayer,
    ofEnvironment_of_single alone ⟨k.isGroup, k.isKey, named⟩]
  exact congrArg ofSetting? (k.overlay_pair v.2)

/-- The section, the key and the text of a document that sets nothing but a text. -/
def onlyText? : Toml.Value → Option (String × String × String)
  | .table [(group, .table [(name, .string written)])] => some (group, name, written)
  | _ => none

theorem onlyText?_eq_some {v : Toml.Value} {group name written : String}
    (only : onlyText? v = some (group, name, written)) :
    v = .table [(group, .table [(name, .string written)])] := by
  unfold onlyText? at only
  split at only
  · cases only
    rfl
  · cases only

theorem load_of_written {bytes : List UInt8} {written : String}
    (held : fileContent? t file = some bytes) (unset : e.settings = [])
    (reads : (Toml.parse? (documentText bytes)).bind onlyText? = some (k.group, k.name, written)) :
    load t e file = .ok (k.put written .default) := by
  have entries : fileEntries t file = .ok [(k.group, .table [(k.name, .text written)])] := by
    obtain ⟨v, parsed, only⟩ := Option.bind_eq_some_iff.1 reads
    cases onlyText?_eq_some only
    rw [fileEntries, held]
    simp only [documentEntries?, parsed]
    rfl
  refine load_of_entries entries ?_
  rw [Environment.ofEnvironment_of_unset unset, combined, overlay_defaultLayer, ofTable, arranged,
    List.foldr_cons, List.foldr_nil, insertBySlot, overlay, List.foldl_nil, k.overlay_section]
  exact k.ofSetting?_withValue rfl

/-- A text that one variable gives is the one that it holds, or the value that this looks like, shown
as such a value is; a text that a file gives in quotes is the one that was written. -/
theorem loaded_text (k : TextKey) :
    (∀ (t : FileTree) (e : Environment) (file : Path) (name written : String),
      fileContent? t file = none → e.settings = [(name, written)] →
      lowered name = variableName k.group.toList k.name.toList →
      ∃ text, Shown written text ∧ load t e file = .ok (k.put text .default) ∧
        ((∃ c ∈ written.toList, ¬Numeral.isNumeralChar c) → text = written)) ∧
    ∀ (t : FileTree) (e : Environment) (file : Path) (bytes : List UInt8) (written : String),
      fileContent? t file = some bytes → e.settings = [] →
      (Toml.parse? (documentText bytes)).bind onlyText? = some (k.group, k.name, written) →
      load t e file = .ok (k.put written .default) := by
  constructor
  · intro t e file name written missing alone named
    obtain ⟨text, shown, loaded⟩ := load_of_single missing alone named
    exact ⟨text, shown, loaded, shown.eq_self⟩
  · intro t e file bytes written held unset reads
    exact load_of_written held unset reads

-- A slash is in no number, and the quotes of a file keep digits as they are.
theorem loaded_text_of_path_and_digits :
    let e : Environment := ⟨⟨[("APPRUNNER__GRPC__SOCKET", "/007")], by decide⟩, ⟨"/"⟩, fun _ => 0⟩
    let bare : Environment := ⟨.empty, ⟨"/"⟩, fun _ => 0⟩
    let text := "[grpc]\nsocket = \"007\"\n"
    let t : FileTree := ⟨⟨[("/c.toml", .file (Text.encodeUtf8 text))], by decide⟩, "", none⟩
    (∃ shown, load .empty e ⟨"/c.toml"⟩ = .ok (TextKey.socket.put shown .default) ∧
      shown = "/007") ∧
      load t bare ⟨"/c.toml"⟩ = .ok (TextKey.socket.put "007" .default) := by
  intro e bare text t
  have missing : fileContent? .empty ⟨"/c.toml"⟩ = none := by rfl
  have alone : e.settings = [("APPRUNNER__GRPC__SOCKET", "/007")] := by decide +kernel
  have named : lowered "APPRUNNER__GRPC__SOCKET" =
      variableName TextKey.socket.group.toList TextKey.socket.name.toList := by
    decide +kernel
  have read : fileContent? t ⟨"/c.toml"⟩ = some (Text.encodeUtf8 text) :=
    fileContent?_of_read? (by rfl)
  have document : documentText (Text.encodeUtf8 text) = text :=
    documentText_encodeUtf8 (by decide)
  constructor
  · obtain ⟨shown, -, loaded, same⟩ := (loaded_text .socket).1 .empty e _ _ _ missing alone named
    exact ⟨shown, loaded, same ⟨'/', by decide, by decide⟩⟩
  · refine (loaded_text .socket).2 t bare _ _ "007" read (by decide +kernel) ?_
    rw [document]
    decide +kernel

-- Digits alone are a whole number, which is shown without the zeros in front.
theorem digits_lose_zeros :
    let e : Environment := ⟨⟨[("APPRUNNER__RUNTIME__APPLICATIONS_DIR", "007")], by decide⟩, ⟨"/"⟩, fun _ => 0⟩
    ∃ s, load .empty e ⟨"/c.toml"⟩ = .ok s ∧ fileContent? .empty ⟨"/c.toml"⟩ = none ∧
      e.settings = [("APPRUNNER__RUNTIME__APPLICATIONS_DIR", "007")] ∧
      lowered "APPRUNNER__RUNTIME__APPLICATIONS_DIR" =
        variableName TextKey.directory.group.toList TextKey.directory.name.toList ∧
      s = TextKey.directory.put "7" .default ∧ s.host.applicationsDirectory ≠ some "007" := by
  intro e
  have missing : fileEntries .empty ⟨"/c.toml"⟩ = .ok [] := by rfl
  have loaded : load .empty e ⟨"/c.toml"⟩ = .ok (TextKey.directory.put "7" .default) :=
    load_of_entries missing (by decide +kernel)
  exact ⟨_, loaded, by rfl, by decide +kernel, by decide +kernel, rfl, by decide⟩

end Settings
end AppHost
