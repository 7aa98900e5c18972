import AppHost.Proofs.Settings.Documents
import AppHost.Proofs.Settings.Order
import AppHost.Proofs.Settings.Sections

/-!
The three layers of the settings. For each key the variable counts before the file, and the file before
the default, whatever the other keys have; but a section that the file gives as a list is a whole, and
gives way to the first variable of that section; and where several entries of the document lead into one
section, it is for the hash table that holds them which of them comes last.
-/

set_option autoImplicit false
namespace AppHost
open Entries (find?)

namespace SettingLayer

theorem overlay_ofEntries (entries old : List (String × Setting)) :
    ∃ new, (ofEntries entries).overlay (.table old) = .table new := by
  induction entries generalizing old with
  | nil => exact ⟨old, rfl⟩
  | cons x entries ih =>
    obtain ⟨key, path, steps⟩ := SettingStep.exists_ofName x.1
    obtain ⟨new, done⟩ := ih (Entries.insert key
      (Setting.change x.2.overlay path ((Setting.table old).entry key)) old)
    refine ⟨new, ?_⟩
    rw [← done]
    simp only [ofEntries, overlay, List.map_cons, List.foldl_cons, put, steps, Setting.change,
      Setting.entries]

def section? (layer : SettingLayer) (group : String) : Option Setting :=
  find? group (layer.overlay (.table [])).entries

end SettingLayer

namespace Setting

theorem ground_of_forall {entries : List (String × Setting)}
    (each : ∀ x ∈ entries, Ground (some x.2)) (name : String) : Ground (find? name entries) := by
  induction entries with
  | nil => exact .none
  | cons x entries ih =>
    obtain ⟨first, later⟩ := List.forall_mem_cons.1 each
    rw [find?]
    split
    · exact first
    · exact ih later

end Setting

namespace Settings
open SettingLayer

/-- What the layer of defaults puts, section by section. -/
def ground : List (String × Setting) :=
  [("admin", .table [("enabled", .bool true), ("listen", .text "127.0.0.1:9191")]),
    ("grpc", .table [("listen", .text "127.0.0.1:9190")]),
    ("logging", .table [("level", .text "info")]),
    ("runtime", .table [("event_buffer", .integer Hub.defaultBuffer),
      ("heartbeat_interval_ms", .integer 5000),
      ("log_retention_secs", .integer (HostOptions.defaultRetention / 1000000000 : Nat))])]

theorem overlay_defaultLayer : defaultLayer.overlay (.table []) = .table ground := by
  have level : SettingStep.ofName "logging.level" = [.key "logging", .key "level"] := by
    decide +kernel
  have address : SettingStep.ofName "grpc.listen" = [.key "grpc", .key "listen"] := by
    decide +kernel
  have enabled : SettingStep.ofName "admin.enabled" = [.key "admin", .key "enabled"] := by
    decide +kernel
  have adminAddress : SettingStep.ofName "admin.listen" = [.key "admin", .key "listen"] := by
    decide +kernel
  have heartbeat : SettingStep.ofName "runtime.heartbeat_interval_ms" =
      [.key "runtime", .key "heartbeat_interval_ms"] := by
    decide +kernel
  have buffer : SettingStep.ofName "runtime.event_buffer" =
      [.key "runtime", .key "event_buffer"] := by
    decide +kernel
  have retention : SettingStep.ofName "runtime.log_retention_secs" =
      [.key "runtime", .key "log_retention_secs"] := by
    decide +kernel
  simp only [defaultLayer, ofEntries, List.map_cons, List.map_nil, level, address, enabled,
    adminAddress, heartbeat, buffer, retention]
  rfl

theorem ground_isGround : Setting.Ground (some (.table ground)) := by
  refine .table (Setting.ground_of_forall ?_)
  simp only [ground, List.forall_mem_cons]
  refine ⟨?_, ?_, ?_, ?_, nofun⟩
  all_goals
    refine .table (Setting.ground_of_forall ?_)
    simp only [List.forall_mem_cons]
  · exact ⟨.bool _, .text _, nofun⟩
  · exact ⟨.text _, nofun⟩
  · exact ⟨.text _, nofun⟩
  · exact ⟨.integer _, .integer _, .integer _, nofun⟩

/-- The defaults that are put below the file are those that a missing key has. -/
theorem ofSetting?_ground : ofSetting? (.table ground) = some .default := by rfl

theorem ofSetting?_defaultLayer : ofSetting? (defaultLayer.overlay (.table [])) = some .default := by
  rw [overlay_defaultLayer]
  exact ofSetting?_ground

theorem load_of_missing {t : FileTree} {e : Environment} {file : Path}
    (missing : fileContent? t file = none) (unset : e.settings = []) :
    load t e file = .ok .default := by
  refine load_of_entries (fileEntries_of_missing missing) ?_
  have bare : combined (.ofTable e.slot []) [] = defaultLayer.overlay (.table []) := by
    simp only [combined, ofTable, arranged, ofEntries, List.foldr_nil, List.map_nil, overlay,
      List.foldl_nil]
  rw [Environment.ofEnvironment_of_unset unset, bare]
  exact ofSetting?_defaultLayer

/-- What the variables and the file give for a key, by its names and its position in the section. The
file's section counts as a list only as long as no variable sets a key of it. -/
def given (e : Environment) (layer : SettingLayer) (group key : String) (position : Nat) :
    Option Setting :=
  match e.setting? group key with
  | some written => some (valueOf written)
  | none =>
    if e.setsIn group then find? key ((layer.section? group).getD .nothing).entries
    else (layer.section? group).bind (·.field? key position)

theorem isGroup_of_mem {group : String} (member : group ∈ sectionNames) :
    IsGroup group.toList := by
  simp only [sectionNames, List.mem_cons, List.not_mem_nil, or_false] at member
  obtain rfl | rfl | rfl | rfl := member
  all_goals exact ⟨by decide, List.all_eq_true.1 (by decide), by decide⟩

/-- What the file gives over the defaults, section by section. -/
theorem laid_section (entries : List (String × Setting)) :
    ∃ result, (ofEntries entries).overlay (.table ground) = .table result ∧
      ∀ group, Setting.Laid (find? group ground) ((ofEntries entries).section? group)
        (find? group result) := by
  obtain ⟨above, alone⟩ := overlay_ofEntries entries []
  obtain ⟨result, merged⟩ := overlay_ofEntries entries ground
  refine ⟨result, merged, fun group => ?_⟩
  have start : Setting.Laid (some (.table ground)) (some (.table [])) (some (.table ground)) :=
    .table fun _ => .ground _
  have whole := start.layer ground_isGround (ofEntries entries)
  rw [alone, merged] at whole
  rw [section?, alone]
  exact whole.entries group

theorem laid_given {e : Environment} {layer : SettingLayer} {result new : List (String × Setting)}
    {sets : String → String → Option Setting} {group : String} (puts : Puts sets result new)
    (sets_eq : ∀ key, sets group key = (e.setting? group key).map valueOf)
    (laid : Setting.Laid (find? group ground) (layer.section? group) (find? group result))
    (key : String) (position : Nat) :
    Setting.Laid ((find? group ground).bind (·.field? key position))
      (given e layer group key position) ((find? group new).bind (·.field? key position)) := by
  have bottom : Setting.Ground (find? group ground) := ground_isGround.entries group
  unfold given
  cases held : e.setting? group key with
  | some written =>
    obtain ⟨table, found, each⟩ := puts.touched group ⟨key, by simp [sets_eq, held]⟩
    have put : find? key table = some (valueOf written) := by
      rw [each key, sets_eq, held]
      rfl
    simp only [found, Option.bind_some, Setting.field?, put]
    exact .same _ _
  | none =>
    by_cases touched : e.setsIn group
    · -- The section is a table now, with the entries that it had as a table before.
      obtain ⟨other, set⟩ := (e.setsIn_iff group).1 touched
      obtain ⟨table, found, each⟩ := puts.touched group ⟨other, by simpa [sets_eq] using set⟩
      have kept : find? key table = find? key ((find? group result).getD .nothing).entries := by
        rw [each key, sets_eq, held]
        rfl
      rw [bottom.field]
      simp only [touched, if_true, found, Option.bind_some, Setting.field?, kept]
      exact laid.entries key
    · have untouched : find? group new = find? group result := by
        refine puts.untouched group fun key => ?_
        have unset : e.setting? group key = none := by
          rw [← Option.not_isSome_iff_eq_none]
          exact fun set => touched ((e.setsIn_iff group).2 ⟨key, set⟩)
        rw [sets_eq, unset]
        rfl
      simp only [touched, Bool.false_eq_true, if_false, untouched]
      exact laid.field bottom key position

theorem follows_given {t : FileTree} {e : Environment} {file : Path} {s : Settings}
    (named : e.NamesSettings) (loaded : load t e file = .ok s) :
    ∃ entries, fileEntries t file = .ok entries ∧ s.Follows (given e (.ofTable e.slot entries)) := by
  obtain ⟨fileEntries, ofFile, taken⟩ := load_eq_ok loaded
  refine ⟨fileEntries, ofFile, ?_⟩
  obtain ⟨result, merged, laid⟩ := laid_section (arranged e.slot fileEntries)
  obtain ⟨entries, same, once, pairs, found⟩ := named.exists_entries
  obtain ⟨new, done, puts⟩ := puts_overlay once pairs result
  have taken : ofSetting? (.table new) = some s := by
    rw [← taken, combined, overlay_defaultLayer, ofTable, merged, same, done]
  refine Follows.of_laid (fun group member key position => ?_)
    (follows_of_ofSetting? ofSetting?_ground) (follows_of_ofSetting? taken)
  exact laid_given puts (fun key => found group key (isGroup_of_mem member)) (laid group) key position

theorem section?_ofTable {group : String} {entries : List (String × Setting)}
    (once : LeadsOnce group entries) (slot : String → Nat) :
    (ofTable slot entries).section? group = (ofEntries entries).section? group :=
  (once.find?_overlay_of_perm (perm_arranged slot entries).symm []).symm

/-- Settings that load have for each key what the variable of that key holds, or else what the file
gives for it, or else the default, which is one and the same in the layer of defaults and for a key that
is missing. What the file gives in a section depends on the order of its hash table only where several
entries of the document lead into that section. -/
theorem layering {t : FileTree} {e : Environment} {file : Path} {s : Settings}
    (named : e.NamesSettings) (loaded : load t e file = .ok s) :
    ofSetting? (defaultLayer.overlay (.table [])) = some .default ∧
      ∃ entries, fileEntries t file = .ok entries ∧
        s.Follows (given e (.ofTable e.slot entries)) ∧
        ∀ group, LeadsOnce group entries → ∀ key position,
          given e (.ofTable e.slot entries) group key position =
            given e (.ofEntries entries) group key position := by
  obtain ⟨entries, ofFile, follows⟩ := follows_given named loaded
  refine ⟨ofSetting?_defaultLayer, entries, ofFile, follows, fun group once key position => ?_⟩
  rw [given, given, section?_ofTable once]

-- A section and beside it a key of the document that is a path into it: the one put last counts.
example :
    let entries := [("grpc", .table [("listen", .text "a")]), ("grpc.listen", .text "b")]
    let address := fun slot => ((ofTable slot entries).section? "grpc").bind fun v =>
      (v.field? "listen" 0).bind Setting.text?
    address String.length = some "b" ∧ address (fun key => 20 - key.length) = some "a" := by
  decide +kernel

-- Each key of a section comes from another layer.
theorem layering_of_mixed_section :
    let text := "[grpc]\nlisten = \"0.0.0.0:7000\"\n"
    let t : FileTree := ⟨⟨[("/c.toml", .file (Text.encodeUtf8 text))], by decide⟩, "", none⟩
    let e : Environment := ⟨⟨[("APPRUNNER__GRPC__SOCKET", "/run/s"),
      ("apprunner__runtime__event_buffer", "16")], by decide⟩, ⟨"/"⟩, fun _ => 0⟩
    let s : Settings := {
      contract := { listen := "0.0.0.0:7000", socket := some "/run/s" }
      host := { eventBuffer := 16 } }
    e.NamesSettings ∧ load t e ⟨"/c.toml"⟩ = .ok s ∧
      ofSetting? (defaultLayer.overlay (.table [])) = some .default ∧
      ∃ entries, fileEntries t ⟨"/c.toml"⟩ = .ok entries ∧
        s.Follows (given e (.ofTable e.slot entries)) ∧
        ∀ group, LeadsOnce group entries → ∀ key position,
          given e (.ofTable e.slot entries) group key position =
            given e (.ofEntries entries) group key position := by
  intro text t e s
  have named : e.NamesSettings := by
    refine ⟨?_, by decide +kernel⟩
    have settings : e.settings = [("APPRUNNER__GRPC__SOCKET", "/run/s"),
      ("apprunner__runtime__event_buffer", "16")] := by decide +kernel
    rw [settings, List.forall_mem_cons, List.forall_mem_cons]
    refine ⟨⟨"grpc".toList, "socket".toList, isGroup_of_mem (by decide), ?_, by decide +kernel⟩,
      ⟨"runtime".toList, "event_buffer".toList, isGroup_of_mem (by decide), ?_, by decide +kernel⟩,
      nofun⟩
    all_goals exact ⟨by decide, List.all_eq_true.1 (by decide), by decide⟩
  have read : fileContent? t ⟨"/c.toml"⟩ = some (Text.encodeUtf8 text) :=
    fileContent?_of_read? (by rfl)
  have loaded : load t e ⟨"/c.toml"⟩ = .ok s :=
    load_of_text read (by decide) (by decide +kernel)
  exact ⟨named, loaded, layering named loaded⟩

-- The address counts as long as no variable sets the socket, so it is not the file's value for it.
theorem list_gives_way_to_variable :
    let text := "grpc = [\"0.0.0.0:7000\"]\n"
    let t : FileTree := ⟨⟨[("/c.toml", .file (Text.encodeUtf8 text))], by decide⟩, "", none⟩
    let bare : Environment := ⟨.empty, ⟨"/"⟩, fun _ => 0⟩
    let e : Environment := ⟨⟨[("APPRUNNER__GRPC__SOCKET", "/run/s")], by decide⟩, ⟨"/"⟩, fun _ => 0⟩
    ∃ first second, load t bare ⟨"/c.toml"⟩ = .ok first ∧ load t e ⟨"/c.toml"⟩ = .ok second ∧
      e.setting? "grpc" "listen" = none ∧
      ¬∃ ofFile : Option Setting,
        Setting.Gives ofFile Setting.text? Settings.default.contract.listen
          first.contract.listen ∧
        Setting.Gives ofFile Setting.text? Settings.default.contract.listen
          second.contract.listen := by
  intro text t bare e
  have read : fileContent? t ⟨"/c.toml"⟩ = some (Text.encodeUtf8 text) :=
    fileContent?_of_read? (by rfl)
  have first : load t bare ⟨"/c.toml"⟩ = .ok { contract := { listen := "0.0.0.0:7000" } } :=
    load_of_text read (by decide) (by decide +kernel)
  have second : load t e ⟨"/c.toml"⟩ = .ok { contract := { socket := some "/run/s" } } :=
    load_of_text read (by decide) (by decide +kernel)
  refine ⟨_, _, first, second, by decide +kernel, ?_⟩
  rintro ⟨ofFile, alone, beside⟩
  cases ofFile with
  | none =>
    have same : "0.0.0.0:7000" = "127.0.0.1:9190" := alone
    exact absurd same (by decide)
  | some v =>
    have same : some "0.0.0.0:7000" = some "127.0.0.1:9190" := alone.symm.trans beside
    exact absurd same (by decide)

end Settings
end AppHost
