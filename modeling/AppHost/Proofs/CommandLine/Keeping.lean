import AppHost.Proofs.CommandLine.Resetting
import AppHost.Proofs.Files.Creating

/-!
What the commands that write the settings file leave of it when they fail. Every check comes before the
file is written, and the directories that hold it are created before it is written as well, so most
failures leave its content as it was. There are two others. The directory of the manifests is created
last: if that fails, the settings that were there are gone, and the first settings file is in their
place. And the file is emptied before it is written, so a disk that is full keeps a beginning of the
first settings file at most.
-/

set_option autoImplicit false
namespace AppHost

namespace Settings
variable {t : FileTree} {file : Path} {reason : SettingsWriteError}

theorem grows_prepared (t : FileTree) (file : Path) : t.Grows (prepared t file).2 := by
  unfold prepared
  split
  · exact FileTree.grows_createDirectories t _
  · exact .refl t

theorem read?_prepared_of_not_created (failed : (prepared t file).1 = false) :
    (prepared t file).2.read? file = t.read? file := by
  unfold prepared at failed ⊢
  split at failed
  · rename_i held
    exact FileTree.read?_createDirectories held failed
  · cases failed

theorem room_prepared (t : FileTree) (file : Path) : (prepared t file).2.room = t.room :=
  (grows_prepared t file).room

/-- A file is left with as much of the first settings as there was room for, which is not all. -/
def CutShort (t : FileTree) (file : Path) (after : FileTree) : Prop :=
  ∃ room, t.room = some room ∧ room < (Text.encodeUtf8 (defaultText file)).length ∧
    after.read? file = some ((Text.encodeUtf8 (defaultText file)).take room)

/-- Where the first file could not be written, what was there is there still, unless the disk is
full. -/
theorem read?_writeDefault_of_error (failed : (writeDefault t file).1 = .error reason) :
    (writeDefault t file).2.read? file = t.read? file ∨
      reason = .file file ∧ CutShort t file (writeDefault t file).2 := by
  rw [writeDefault_eq] at failed ⊢
  split_ifs at failed ⊢ with created
  · rcases unwritten : (prepared t file).2.write file (Text.encodeUtf8 (defaultText file)) with
      ⟨_ | _, after⟩
    · rw [unwritten] at failed
      cases failed
      have outcome := FileTree.read?_of_unwritten (congrArg Prod.fst unwritten)
      rw [unwritten] at outcome
      obtain ⟨unread, same⟩ | ⟨room, limit, short, left⟩ := outcome
      · refine .inl ?_
        dsimp only at same ⊢
        rw [same, unread, (grows_prepared t file).read?_eq_none unread]
      · exact .inr ⟨rfl, room, (room_prepared t file).symm.trans limit, short, left⟩
    · rw [unwritten] at failed
      cases failed
  · exact .inl (read?_prepared_of_not_created (by simpa using created))

end Settings

namespace CommandLine
variable {s : Surroundings} {options : CommonOptions} {arguments : List String} {files : FileTree}
  {file : Path} {settings : Settings} {command : Command}

def Command.WritesSettings : Command → Prop
  | .init _ => True
  | .reset => True
  | _ => False

/-- What a failure leaves in the settings file. -/
inductive Leaves (before : FileTree) (file : Path) (after : FileTree) : CommandError → Prop
  | unchanged {reason : CommandError} (other : ∀ directory, reason ≠ .applicationsDirectory directory)
      (same : after.read? file = before.read? file) : Leaves before file after reason
  | replaced (directory : Path)
      (new : after.read? file = some (Text.encodeUtf8 (Settings.defaultText file))) :
      Leaves before file after (.applicationsDirectory directory)
  | cutShort (cut : Settings.CutShort before file after) :
      Leaves before file after (.write (.file file))

def Report.Keeps (before : FileTree) (file : Path) (r : Report) : Prop :=
  ∀ reason, r.outcome = .failed reason → Leaves before file r.files reason

theorem keeps_done (before files : FileTree) (file : Path) (output : List OutputLine) :
    (Report.done files output).Keeps before file := nofun

theorem keeps_failed {before files : FileTree} {reason : CommandError}
    (left : Leaves before file files reason) : (Report.failed files reason).Keeps before file := by
  intro other same
  cases same
  exact left

theorem keeps_refused (before : FileTree) (file : Path) {reason : CommandError}
    (other : ∀ directory, reason ≠ .applicationsDirectory directory) :
    (Report.failed before reason).Keeps before file :=
  keeps_failed (.unchanged other rfl)

theorem keeps_of_not_written {before after : FileTree} {reason : SettingsWriteError}
    (failed : Settings.writeDefault before file = (.error reason, after)) :
    (Report.failed after (.write reason)).Keeps before file := by
  have left := Settings.read?_writeDefault_of_error (congrArg Prod.fst failed)
  rw [failed] at left
  obtain same | ⟨rfl, cut⟩ := left
  · exact keeps_failed (.unchanged nofun same)
  · exact keeps_failed (.cutShort cut)

theorem setUp_keeps (c : Context) (force : Bool) (files : FileTree) :
    (setUp c force files).Keeps files c.file := by
  unfold setUp
  split
  · exact keeps_refused files c.file nofun
  split
  · exact keeps_refused files c.file nofun
  rename_i directory expanded
  split
  · exact keeps_done files files c.file _
  split
  · rename_i failed
    exact keeps_of_not_written failed
  · rename_i written after done
    have left := Settings.read?_writeDefault_of_ok (congrArg Prod.fst done)
    rw [done] at left
    have grows := after.grows_createDirectories directory
    split
    · rename_i last failed
      rw [failed] at grows
      exact keeps_failed (.replaced directory (grows.read? left))
    · exact keeps_done files _ c.file _

theorem reset_keeps (c : Context) (files : FileTree) : (reset c files).Keeps files c.file := by
  unfold reset
  split
  · exact keeps_done files files c.file _
  split
  · rename_i failed
    exact keeps_of_not_written failed
  · exact keeps_done files _ c.file _

theorem setUp_of_dryRun {c : Context} (dry : c.options.dryRun = true) (force : Bool)
    (files : FileTree) : (setUp c force files).files = files := by
  simp only [setUp, dry, if_true]
  split
  · rfl
  split <;> rfl

theorem reset_of_dryRun {c : Context} (dry : c.options.dryRun = true) (files : FileTree) :
    (reset c files).files = files := by
  unfold reset
  rw [if_pos dry]
  rfl

theorem setUp_of_contains {c : Context} {force : Bool} (stands : files.contains c.file = true)
    (unforced : (force || c.options.yes) = false) :
    (setUp c force files).outcome = .failed (.settingsExist c.file) := by
  rw [setUp, stands, unforced]
  rfl

theorem setUp_of_not_created {c : Context} {force : Bool} {directory : Path}
    (forced : (force || c.options.yes) = true) (wet : c.options.dryRun = false)
    (expanded : c.settings.applicationsDirectory c.environment = .ok directory)
    (written : (Settings.writeDefault files c.file).1 = .ok ())
    (failed : ((Settings.writeDefault files c.file).2.createDirectories directory).1 = false) :
    (setUp c force files).outcome = .failed (.applicationsDirectory directory) := by
  simp only [setUp, forced, Bool.not_true, Bool.and_false, Bool.false_eq_true, if_false, expanded,
    wet]
  split
  · rename_i same
    rw [same] at written
    cases written
  rename_i same
  rw [same] at failed
  split
  · rfl
  · rename_i created
    rw [created] at failed
    cases failed

theorem setUp_of_not_written {c : Context} {force : Bool} {directory : Path}
    {reason : SettingsWriteError} (forced : (force || c.options.yes) = true)
    (wet : c.options.dryRun = false)
    (expanded : c.settings.applicationsDirectory c.environment = .ok directory)
    (failed : (Settings.writeDefault files c.file).1 = .error reason) :
    (setUp c force files).outcome = .failed (.write reason) := by
  simp only [setUp, forced, Bool.not_true, Bool.and_false, Bool.false_eq_true, if_false, expanded,
    wet]
  split
  · rename_i same
    rw [same] at failed
    cases failed
    rfl
  · rename_i same
    rw [same] at failed
    cases failed

/-! ### Whole runs -/

/-- The arguments ask for one of the commands that write the settings file, which is the one at a
path. -/
structure AsksWriting (s : Surroundings) (arguments : List String) (files : FileTree)
    (options : CommonOptions) (command : Command) (file : Path) : Prop where
  parsed : Invocation.parse arguments = .ok ⟨options, command⟩
  writes : command.WritesSettings
  located : Settings.file files s.environment options.config = .ok file

namespace AsksWriting

theorem keeps (asks : AsksWriting s arguments files options command file) :
    (run s arguments files).Keeps files file := by
  cases loaded : Settings.load files s.environment file with
  | error reason =>
    rw [run_of_not_loaded asks.parsed asks.located loaded]
    exact keeps_refused files file nofun
  | ok settings =>
    obtain ⟨outcome, after⟩ := run_of_loaded asks.parsed asks.located loaded
    unfold Report.Keeps
    rw [outcome, after]
    cases command with
    | init force => exact setUp_keeps ⟨s, options, file, settings⟩ force files
    | reset => exact reset_keeps ⟨s, options, file, settings⟩ files
    | _ => cases asks.writes

theorem of_dryRun (asks : AsksWriting s arguments files options command file)
    (dry : options.dryRun = true) : (run s arguments files).files = files := by
  cases loaded : Settings.load files s.environment file with
  | error reason =>
    rw [run_of_not_loaded asks.parsed asks.located loaded]
    rfl
  | ok settings =>
    rw [(run_of_loaded asks.parsed asks.located loaded).2]
    cases command with
    | init force => exact setUp_of_dryRun dry force files
    | reset => exact reset_of_dryRun dry files
    | _ => cases asks.writes

end AsksWriting

/-- In a dry run all files stay as they are. If a command that writes the settings file fails, the file
has the content that it had, with two exceptions. If the directory of the manifests could not be
created, its content is the first settings file; and if the disk is too full for the first settings
file, its content is the beginning of it that there was room for. -/
theorem failure_keeps_settings (asks : AsksWriting s arguments files options command file) :
    (options.dryRun = true → (run s arguments files).files = files) ∧
      (∀ reason, (run s arguments files).outcome = .failed reason →
        (∀ directory, reason ≠ .applicationsDirectory directory) →
        (run s arguments files).files.read? file = files.read? file ∨
          reason = .write (.file file) ∧
            Settings.CutShort files file (run s arguments files).files) ∧
      ∀ directory, (run s arguments files).outcome = .failed (.applicationsDirectory directory) →
        (run s arguments files).files.read? file =
          some (Text.encodeUtf8 (Settings.defaultText file)) := by
  refine ⟨asks.of_dryRun, fun reason failed other => ?_, fun directory failed => ?_⟩
  · cases asks.keeps reason failed with
    | unchanged _ same => exact .inl same
    | replaced directory _ => exact absurd rfl (other directory)
    | cutShort cut => exact .inr ⟨rfl, cut⟩
  · cases asks.keeps _ failed with
    | unchanged other _ => exact absurd rfl (other directory)
    | replaced _ new => exact new

/-- A settings file that sets nothing, and a file where the directory of the manifests would have to
be. -/
def obstructed : FileTree := (holding "").put "/.local" (.file [])

theorem asksWriting_usual {now : Moment} {force : Bool}
    (parsed : Invocation.parse arguments = .ok ⟨options, .init force⟩)
    (usual : options.config = none) (files : FileTree) :
    AsksWriting (plainSurroundings now) arguments files options (.init force) usualFile where
  parsed := parsed
  writes := trivial
  located := by
    have place : Settings.file files plainEnvironment none = .ok usualFile := by rfl
    rw [usual]
    exact place

theorem load_obstructed : Settings.load obstructed plainEnvironment usualFile = .ok .default := by
  decide +kernel

def usualDirectory : Path := ⟨"/.local/share/apprunner/applications"⟩

theorem init_of_obstructed (now : Moment) :
    (run (plainSurroundings now) ["init", "--force"] obstructed).outcome =
      .failed (.applicationsDirectory usualDirectory) := by
  have asks : AsksWriting (plainSurroundings now) ["init", "--force"] obstructed {} (.init true)
      usualFile := asksWriting_usual (by decide +kernel) rfl _
  have expanded : Settings.default.applicationsDirectory plainEnvironment =
      .ok usualDirectory := by
    rfl
  have written : (Settings.writeDefault obstructed usualFile).1 = .ok () := by rfl
  have failed : ((Settings.writeDefault obstructed usualFile).2.createDirectories
      usualDirectory).1 = false := by
    rfl
  rw [(run_of_loaded asks.parsed asks.located load_obstructed).1]
  exact setUp_of_not_created rfl rfl expanded written failed

theorem init_of_full (now : Moment) :
    (run (plainSurroundings now) ["init", "--force"] { obstructed with room := some 0 }).outcome =
      .failed (.write (.file usualFile)) := by
  let full : FileTree := { obstructed with room := some 0 }
  have asks : AsksWriting (plainSurroundings now) ["init", "--force"] full {} (.init true)
      usualFile := asksWriting_usual (by decide +kernel) rfl _
  have loaded : Settings.load full plainEnvironment usualFile = .ok .default := load_obstructed
  have expanded : Settings.default.applicationsDirectory plainEnvironment =
      .ok usualDirectory := by
    rfl
  have failed : (Settings.writeDefault full usualFile).1 = .error (.file usualFile) := by
    decide +kernel
  rw [(run_of_loaded asks.parsed asks.located loaded).1]
  exact setUp_of_not_written rfl rfl expanded failed

-- A dry run, a settings file that is not to be replaced, one that is replaced in vain, and a full
-- disk.
theorem failure_keeps_settings_by_cause :
    let s := plainSurroundings ⟨⟨0, 0, by decide⟩, 0⟩
    let full : FileTree := { obstructed with room := some 0 }
    (run s ["init", "--force", "--dry-run"] obstructed).files = obstructed ∧
      ((run s ["init"] obstructed).outcome = .failed (.settingsExist usualFile) ∧
        (run s ["init"] obstructed).files.read? usualFile = some []) ∧
      ((run s ["init", "--force"] obstructed).outcome =
          .failed (.applicationsDirectory usualDirectory) ∧
        (run s ["init", "--force"] obstructed).files.read? usualFile =
          some (Text.encodeUtf8 (Settings.defaultText usualFile))) ∧
      (run s ["init", "--force"] full).outcome = .failed (.write (.file usualFile)) ∧
        (run s ["init", "--force"] full).files.read? usualFile = some [] := by
  intro s full
  have dry : AsksWriting s ["init", "--force", "--dry-run"] obstructed { dryRun := true }
      (.init true) usualFile := asksWriting_usual (by decide +kernel) rfl _
  have unforced : AsksWriting s ["init"] obstructed {} (.init false) usualFile :=
    asksWriting_usual (by decide +kernel) rfl _
  have forced (files : FileTree) : AsksWriting s ["init", "--force"] files {} (.init true)
      usualFile := asksWriting_usual (by decide +kernel) rfl _
  have exist : (run s ["init"] obstructed).outcome = .failed (.settingsExist usualFile) := by
    have stands : obstructed.contains usualFile = true := by rfl
    rw [(run_of_loaded unforced.parsed unforced.located load_obstructed).1]
    exact setUp_of_contains stands rfl
  have before : obstructed.read? usualFile = some [] := by rfl
  refine ⟨(failure_keeps_settings dry).1 rfl, ⟨exist, ?_⟩, ⟨init_of_obstructed _, ?_⟩,
    init_of_full _, ?_⟩
  · obtain same | ⟨other, -⟩ := (failure_keeps_settings unforced).2.1 _ exist nofun
    · exact same.trans before
    · cases other
  · exact (failure_keeps_settings (forced obstructed)).2.2 _ (init_of_obstructed _)
  · obtain same | ⟨-, room, limit, -, left⟩ :=
      (failure_keeps_settings (forced full)).2.1 _ (init_of_full _) nofun
    · exact same.trans before
    · cases limit
      exact left

theorem failed_init_replaces_settings :
    let s := plainSurroundings ⟨⟨0, 0, by decide⟩, 0⟩
    AsksWriting s ["init", "--force"] obstructed {} (.init true) usualFile ∧
      Settings.load obstructed s.environment usualFile = .ok .default ∧
      (run s ["init", "--force"] obstructed).outcome =
        .failed (.applicationsDirectory usualDirectory) ∧
      (run s ["init", "--force"] obstructed).files.read? usualFile ≠
        obstructed.read? usualFile := by
  intro s
  have asks : AsksWriting s ["init", "--force"] obstructed {} (.init true) usualFile :=
    asksWriting_usual (by decide +kernel) rfl _
  have before : obstructed.read? usualFile = some [] := by rfl
  have written : Text.encodeUtf8 (Settings.defaultText usualFile) ≠ [] := by decide +kernel
  refine ⟨asks, load_obstructed, init_of_obstructed _, ?_⟩
  cases asks.keeps _ (init_of_obstructed _) with
  | unchanged other _ => exact absurd rfl (other usualDirectory)
  | replaced _ new =>
    rw [new, before, Ne, Option.some_inj]
    exact written

end CommandLine
end AppHost
