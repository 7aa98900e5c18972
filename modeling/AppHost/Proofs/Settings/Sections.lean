import AppHost.Proofs.Settings.Layers
import AppHost.Proofs.Settings.Variables

/-!
Settings out of sections, key by key. Each of the nine keys is read by itself, so what is known of the
value at each key is known of the settings; and values that are put at keys, as variables are, leave
every other key of their section as it was, unless the section was a list.
-/

set_option autoImplicit false
namespace AppHost
open Entries (find?)

/-- A key takes the value that is given for it, read as what it is, or its default. -/
def Setting.Gives {α : Type} (given : Option Setting) (read : Setting → Option α)
    (default value : α) : Prop :=
  match given with
  | some v => read v = some value
  | none => value = default

namespace Settings

/-- The settings are those given, by the names of the section and the key and the position of the key
in the section, and where nothing is given the defaults. -/
structure Follows (given : String → String → Nat → Option Setting) (s : Settings) : Prop where
  level : Setting.Gives (given "logging" "level" 0) Setting.text?
    Settings.default.logging.level s.logging.level
  address : Setting.Gives (given "grpc" "listen" 0) Setting.text?
    Settings.default.contract.listen s.contract.listen
  socket : Setting.Gives (given "grpc" "socket" 1) Setting.optionalText?
    Settings.default.contract.socket s.contract.socket
  enabled : Setting.Gives (given "admin" "enabled" 0) Setting.bool?
    Settings.default.admin.enabled s.admin.enabled
  adminAddress : Setting.Gives (given "admin" "listen" 1) Setting.text?
    Settings.default.admin.listen s.admin.listen
  heartbeat : Setting.Gives (given "runtime" "heartbeat_interval_ms" 0) Setting.natural?
    Settings.default.host.heartbeatInterval s.host.heartbeatInterval
  buffer : Setting.Gives (given "runtime" "event_buffer" 1) Setting.natural?
    Settings.default.host.eventBuffer s.host.eventBuffer
  retention : Setting.Gives (given "runtime" "log_retention_secs" 2) Setting.natural?
    Settings.default.host.logRetention s.host.logRetention
  directory : Setting.Gives (given "runtime" "applications_dir" 3) Setting.optionalText?
    Settings.default.host.applicationsDirectory s.host.applicationsDirectory

end Settings

namespace Setting
variable {α : Type} {read : Setting → Option α} {default value : α}

theorem gives_of_fieldOr? {v : Setting} {name : String} {position : Nat}
    (taken : v.fieldOr? name position read default = some value) :
    Gives (v.field? name position) read default value := by
  unfold fieldOr? at taken
  unfold Gives
  cases found : v.field? name position with
  | some field => simpa only [found] using taken
  | none => simpa only [found, Option.some.injEq, eq_comm] using taken

theorem Laid.gives {below above result : Option Setting} (laid : Laid below above result)
    (scalar : ∀ entries, read (.table entries) = none) (ground : Gives below read default default)
    (taken : Gives result read default value) : Gives above read default value := by
  cases laid with
  | same => exact taken
  | ground =>
    cases below with
    | none => exact taken
    | some v => exact Option.some.inj (taken.symm.trans ground)
  | table each =>
    rename_i entries
    cases (scalar entries).symm.trans taken

end Setting

namespace Settings

def sectionNames : List String := ["logging", "grpc", "admin", "runtime"]

theorem Follows.of_laid {below above result : String → String → Nat → Option Setting}
    (laid : ∀ group ∈ sectionNames, ∀ key position,
      Setting.Laid (below group key position) (above group key position)
        (result group key position))
    (ground : Settings.default.Follows below) {s : Settings} (taken : s.Follows result) :
    s.Follows above where
  level := (laid _ (by decide) _ _).gives (fun _ => rfl) ground.level taken.level
  address := (laid _ (by decide) _ _).gives (fun _ => rfl) ground.address taken.address
  socket := (laid _ (by decide) _ _).gives (fun _ => rfl) ground.socket taken.socket
  enabled := (laid _ (by decide) _ _).gives (fun _ => rfl) ground.enabled taken.enabled
  adminAddress := (laid _ (by decide) _ _).gives (fun _ => rfl) ground.adminAddress taken.adminAddress
  heartbeat := (laid _ (by decide) _ _).gives (fun _ => rfl) ground.heartbeat taken.heartbeat
  buffer := (laid _ (by decide) _ _).gives (fun _ => rfl) ground.buffer taken.buffer
  retention := (laid _ (by decide) _ _).gives (fun _ => rfl) ground.retention taken.retention
  directory := (laid _ (by decide) _ _).gives (fun _ => rfl) ground.directory taken.directory

/-! ### What was read -/

theorem section?_eq_some {v w : Setting} (isSection : v.section? = some w) : w = v := by
  unfold Setting.section? at isSection
  split at isSection
  · exact (Option.some.inj isSection).symm
  · cases isSection

theorem logging?_eq_some {v : Setting} {l : LoggingSettings} (taken : logging? v = some l) :
    v.fieldOr? "level" 0 Setting.text? Settings.default.logging.level = some l.level := by
  obtain ⟨w, isSection, taken⟩ := Option.bind_eq_some_iff.1 taken
  cases section?_eq_some isSection
  obtain ⟨level, first, done⟩ := Option.bind_eq_some_iff.1 taken
  cases done
  exact first

theorem contract?_eq_some {v : Setting} {c : ContractSettings} (taken : contract? v = some c) :
    v.fieldOr? "listen" 0 Setting.text? Settings.default.contract.listen = some c.listen ∧
      v.fieldOr? "socket" 1 Setting.optionalText? Settings.default.contract.socket =
        some c.socket := by
  obtain ⟨w, isSection, taken⟩ := Option.bind_eq_some_iff.1 taken
  cases section?_eq_some isSection
  obtain ⟨listen, first, taken⟩ := Option.bind_eq_some_iff.1 taken
  obtain ⟨socket, second, done⟩ := Option.bind_eq_some_iff.1 taken
  cases done
  exact ⟨first, second⟩

theorem admin?_eq_some {v : Setting} {a : AdminSettings} (taken : admin? v = some a) :
    v.fieldOr? "enabled" 0 Setting.bool? Settings.default.admin.enabled = some a.enabled ∧
      v.fieldOr? "listen" 1 Setting.text? Settings.default.admin.listen = some a.listen := by
  obtain ⟨w, isSection, taken⟩ := Option.bind_eq_some_iff.1 taken
  cases section?_eq_some isSection
  obtain ⟨enabled, first, taken⟩ := Option.bind_eq_some_iff.1 taken
  obtain ⟨listen, second, done⟩ := Option.bind_eq_some_iff.1 taken
  cases done
  exact ⟨first, second⟩

theorem host?_eq_some {v : Setting} {h : HostSettings} (taken : host? v = some h) :
    v.fieldOr? "heartbeat_interval_ms" 0 Setting.natural? Settings.default.host.heartbeatInterval =
        some h.heartbeatInterval ∧
      v.fieldOr? "event_buffer" 1 Setting.natural? Settings.default.host.eventBuffer =
        some h.eventBuffer ∧
      v.fieldOr? "log_retention_secs" 2 Setting.natural? Settings.default.host.logRetention =
        some h.logRetention ∧
      v.fieldOr? "applications_dir" 3 Setting.optionalText?
          Settings.default.host.applicationsDirectory = some h.applicationsDirectory := by
  obtain ⟨w, isSection, taken⟩ := Option.bind_eq_some_iff.1 taken
  cases section?_eq_some isSection
  obtain ⟨heartbeat, first, taken⟩ := Option.bind_eq_some_iff.1 taken
  obtain ⟨buffer, second, taken⟩ := Option.bind_eq_some_iff.1 taken
  obtain ⟨retention, third, taken⟩ := Option.bind_eq_some_iff.1 taken
  obtain ⟨directory, fourth, done⟩ := Option.bind_eq_some_iff.1 taken
  cases done
  exact ⟨first, second, third, fourth⟩

theorem gives_of_section {σ α : Type} {entries : List (String × Setting)} {group name : String}
    {place position : Nat} {section? : Setting → Option σ} {bare taken : σ}
    (found : (Setting.table entries).fieldOr? group place section? bare = some taken)
    {read : Setting → Option α} {default : α} (get : σ → α)
    (field : ∀ v, section? v = some taken → v.fieldOr? name position read default = some (get taken))
    (missing : get bare = default) :
    Setting.Gives ((find? group entries).bind (·.field? name position)) read default
      (get taken) := by
  unfold Setting.fieldOr? Setting.field? at found
  cases given : find? group entries with
  | none =>
    simp only [given, Option.some.injEq] at found
    exact found ▸ missing
  | some v =>
    simp only [given] at found
    exact Setting.gives_of_fieldOr? (field v found)

theorem follows_of_ofSetting? {entries : List (String × Setting)} {s : Settings}
    (taken : ofSetting? (.table entries) = some s) :
    s.Follows fun group key position =>
      (find? group entries).bind (·.field? key position) := by
  obtain ⟨logging, first, taken⟩ := Option.bind_eq_some_iff.1 taken
  obtain ⟨contract, second, taken⟩ := Option.bind_eq_some_iff.1 taken
  obtain ⟨admin, third, taken⟩ := Option.bind_eq_some_iff.1 taken
  obtain ⟨host, fourth, done⟩ := Option.bind_eq_some_iff.1 taken
  cases done
  exact {
    level := gives_of_section first _ (fun v taken => logging?_eq_some taken) rfl
    address := gives_of_section second _ (fun v taken => (contract?_eq_some taken).1) rfl
    socket := gives_of_section second _ (fun v taken => (contract?_eq_some taken).2) rfl
    enabled := gives_of_section third _ (fun v taken => (admin?_eq_some taken).1) rfl
    adminAddress := gives_of_section third _ (fun v taken => (admin?_eq_some taken).2) rfl
    heartbeat := gives_of_section fourth _ (fun v taken => (host?_eq_some taken).1) rfl
    buffer := gives_of_section fourth _ (fun v taken => (host?_eq_some taken).2.1) rfl
    retention := gives_of_section fourth _ (fun v taken => (host?_eq_some taken).2.2.1) rfl
    directory := gives_of_section fourth _ (fun v taken => (host?_eq_some taken).2.2.2) rfl }

end Settings
/-! ### Values at keys of sections -/

namespace SettingLayer

/-- Entries in which values were put at keys of sections. Such a section is a table then, with the
entries that it had as a table before. -/
structure Puts (given : String → String → Option Setting) (old new : List (String × Setting)) :
    Prop where
  touched : ∀ group, (∃ key, (given group key).isSome) →
    ∃ entries, find? group new = some (.table entries) ∧
      ∀ key, find? key entries =
        (given group key).or (find? key ((find? group old).getD .nothing).entries)
  untouched : ∀ group, (∀ key, given group key = none) → find? group new = find? group old

theorem Puts.after {given : String → String → Option Setting} {old new : List (String × Setting)}
    {group key : String} {v : Setting} (other : given group key = none)
    (puts : Puts given (Entries.insert group (.table (Entries.insert key v
      ((find? group old).getD .nothing).entries)) old) new) :
    Puts (fun g k => if g = group ∧ k = key then some v else given g k) old new := by
  have here : ∃ entries, find? group new = some (.table entries) ∧ ∀ k, find? k entries =
      (given group k).or (if key = k then some v
        else find? k ((find? group old).getD .nothing).entries) := by
    by_cases more : ∃ k, (given group k).isSome
    · obtain ⟨entries, found, each⟩ := puts.touched group more
      refine ⟨entries, found, fun k => ?_⟩
      rw [each k, Entries.find?_insert, if_pos rfl, Option.getD_some, Setting.entries,
        Entries.find?_insert]
    · have none : ∀ k, given group k = none := by simpa using more
      have found := puts.untouched group none
      rw [Entries.find?_insert, if_pos rfl] at found
      refine ⟨_, found, fun k => ?_⟩
      rw [none k, Option.none_or, Entries.find?_insert]
  constructor
  · intro g given'
    by_cases same : g = group
    · subst same
      obtain ⟨entries, found, each⟩ := here
      refine ⟨entries, found, fun k => ?_⟩
      rw [each k]
      by_cases first : k = key
      · subst first
        simp [other]
      · simp [first, Ne.symm first]
    · simp only [same, false_and, if_false] at given' ⊢
      obtain ⟨entries, found, each⟩ := puts.touched g given'
      refine ⟨entries, found, fun k => ?_⟩
      rw [each k, Entries.find?_insert, if_neg (Ne.symm same)]
  · intro g none
    have apart : g ≠ group := by
      rintro rfl
      simpa using none key
    simp only [apart, false_and, if_false] at none
    rw [puts.untouched g none, Entries.find?_insert, if_neg apart.symm]

theorem overlay_valueOf (written : String) (old : Setting) :
    (valueOf written).overlay old = valueOf written := by
  unfold valueOf
  dsimp only
  split_ifs
  · rfl
  · rfl
  · cases Numeral.integer? written.toList with
    | some n => rfl
    | none => cases Numeral.float? written.toList <;> rfl

theorem put_pair {group key : List Char} (isGroup : IsGroup group) (isKey : IsKey key)
    (written : String) (old : List (String × Setting)) :
    put (.table old) (SettingStep.ofName (pairName group key), valueOf written) =
      .table (Entries.insert (String.ofList group)
        (.table (Entries.insert (String.ofList key) (valueOf written)
          ((find? (String.ofList group) old).getD .nothing).entries)) old) := by
  simp only [put, ofName_pairName isGroup isKey, Setting.change, overlay_valueOf, Setting.entry,
    Setting.entries]

theorem puts_overlay {entries : List (String × Setting)} (once : (entries.map (·.1)).Nodup)
    (pairs : ∀ x ∈ entries, ∃ group key written, IsGroup group ∧ IsKey key ∧
      x = (pairName group key, valueOf written)) (old : List (String × Setting)) :
    ∃ new, (ofEntries entries).overlay (.table old) = .table new ∧
      Puts (fun group key => find? (pairName group.toList key.toList) entries) old new := by
  induction entries generalizing old with
  | nil =>
    refine ⟨old, rfl, ?_, fun _ _ => rfl⟩
    rintro group ⟨key, ⟨⟩⟩
  | cons x entries ih =>
    obtain ⟨⟨group, key, written, isGroup, isKey, rfl⟩, later⟩ := List.forall_mem_cons.1 pairs
    obtain ⟨first, once⟩ := List.nodup_cons.1 once
    obtain ⟨new, done, puts⟩ := ih once later
      (Entries.insert (String.ofList group) (.table (Entries.insert (String.ofList key)
        (valueOf written) ((find? (String.ofList group) old).getD .nothing).entries)) old)
    refine ⟨new, ?_, ?_⟩
    · rw [← done, ← put_pair isGroup isKey]
      rfl
    · have other : find? (pairName group key) entries = none := by
        rw [← Option.not_isSome_iff_eq_none, Entries.isSome_find?]
        exact first
      have puts := puts.after (by simpa only [String.toList_ofList] using other)
      convert puts using 3 with g k
      have same : pairName group key = pairName g.toList k.toList ↔
          g = String.ofList group ∧ k = String.ofList key := by
        constructor
        · intro same
          obtain ⟨rfl, rfl⟩ := pairName_inj isGroup isKey same
          exact ⟨String.ofList_toList.symm, String.ofList_toList.symm⟩
        · rintro ⟨rfl, rfl⟩
          rw [String.toList_ofList, String.toList_ofList]
      rw [find?]
      exact if_congr same rfl rfl

end SettingLayer
end AppHost
