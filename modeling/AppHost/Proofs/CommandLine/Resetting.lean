import AppHost.CommandLine.Command
import AppHost.Proofs.Settings.FirstFile
import AppHost.Proofs.Settings.Layering

/-!
The command that writes the first settings file again. Like every command it loads the settings before
it does anything, so a settings file that does not load stops it, and stays as it is.
-/

set_option autoImplicit false
namespace AppHost.CommandLine
open Toml (FitsComment)
variable {s : Surroundings} {options : CommonOptions} {arguments : List String} {files : FileTree}
  {file : Path} {settings : Settings}

structure AsksReset (s : Surroundings) (arguments : List String) (files : FileTree)
    (options : CommonOptions) (file : Path) : Prop where
  parsed : Invocation.parse arguments = .ok ⟨options, .reset⟩
  wet : options.dryRun = false
  located : Settings.file files s.environment options.config = .ok file

theorem load_of_located (located : Settings.file files s.environment options.config = .ok file) :
    Context.load s options files =
      match Settings.load files s.environment file with
      | .ok settings => .ok { surroundings := s, options, file, settings }
      | .error reason => .error (.settings reason) := by
  simp only [Context.load, located, Except.mapError, bind, Except.bind]
  cases Settings.load files s.environment file <;> rfl

section
variable {command : Command}

theorem run_of_not_loaded {reason : SettingsError}
    (parsed : Invocation.parse arguments = .ok ⟨options, command⟩)
    (located : Settings.file files s.environment options.config = .ok file)
    (failed : Settings.load files s.environment file = .error reason) :
    run s arguments files = .failed files (.settings reason) := by
  have context := load_of_located located
  rw [failed] at context
  simp only [run, parsed, context]

/-- Once the settings are loaded, what comes of a run is what comes of its command. -/
theorem run_of_loaded (parsed : Invocation.parse arguments = .ok ⟨options, command⟩)
    (located : Settings.file files s.environment options.config = .ok file)
    (loaded : Settings.load files s.environment file = .ok settings) :
    (run s arguments files).outcome = (command.run ⟨s, options, file, settings⟩ files).outcome ∧
      (run s arguments files).files = (command.run ⟨s, options, file, settings⟩ files).files := by
  have context := load_of_located located
  rw [loaded] at context
  simp only [run, parsed, context]
  exact ⟨rfl, rfl⟩

end

theorem reset_of_writable {c : Context} (wet : c.options.dryRun = false)
    (writable : Settings.Writable files c.file) :
    reset c files = .done (Settings.writeDefault files c.file).2 [] := by
  have written := Settings.writeDefault_fst_iff.2 writable
  unfold reset
  rw [if_neg (by simp [wet])]
  split
  · rename_i same
    rw [same] at written
    cases written
  · rename_i same
    rw [same]

namespace AsksReset

theorem done (asks : AsksReset s arguments files options file)
    (writable : Settings.Writable files file)
    (loaded : Settings.load files s.environment file = .ok settings) :
    (run s arguments files).outcome = .done ∧
      (run s arguments files).files = (Settings.writeDefault files file).2 := by
  obtain ⟨outcome, left⟩ := run_of_loaded asks.parsed asks.located loaded
  have done := reset_of_writable (c := ⟨s, options, file, settings⟩) asks.wet writable
  rw [outcome, left, Command.run, done]
  exact ⟨rfl, rfl⟩

theorem failed {reason : SettingsError} (asks : AsksReset s arguments files options file)
    (failed : Settings.load files s.environment file = .error reason) :
    run s arguments files = .failed files (.settings reason) :=
  run_of_not_loaded asks.parsed asks.located failed

end AsksReset

/-- A reset to a place where a file can be put gives back the defaults if the settings load as they are,
as they do without a file; if they do not load, the reset fails as the loading does, and the files stay
as they are. -/
theorem reset_needs_loading (asks : AsksReset s arguments files options file)
    (unset : s.environment.settings = []) (writable : Settings.Writable files file)
    (fits : FitsComment file.text.toList) :
    (Settings.fileContent? files file = none →
      ∃ settings, Settings.load files s.environment file = .ok settings) ∧
      (∀ settings, Settings.load files s.environment file = .ok settings →
        (run s arguments files).outcome = .done ∧
          Settings.load (run s arguments files).files s.environment file = .ok .default) ∧
      ∀ reason, Settings.load files s.environment file = .error reason →
        (run s arguments files).outcome = .failed (.settings reason) ∧
          (run s arguments files).files = files := by
  refine ⟨fun missing => ⟨_, Settings.load_of_missing missing unset⟩, ?_, ?_⟩
  · intro settings loaded
    obtain ⟨outcome, left⟩ := asks.done writable loaded
    refine ⟨outcome, ?_⟩
    rw [left]
    exact Settings.load_writeDefault unset (Settings.writeDefault_fst_iff.2 writable) fits
  · intro reason failed
    rw [asks.failed failed]
    exact ⟨rfl, rfl⟩

/-! ### The usual place -/

/-- Nothing is set but the directory in which programs keep their settings. -/
def plainEnvironment : Environment := ⟨⟨[("XDG_CONFIG_HOME", "/")], by decide⟩, ⟨"/"⟩, fun _ => 0⟩

def plainSurroundings (now : Moment) : Surroundings := ⟨plainEnvironment, false, now⟩

def usualFile : Path := ⟨"/apprunner/config.toml"⟩

def holding (text : String) : FileTree :=
  (FileTree.empty.put "/apprunner" .directory).put usualFile.text (.file (Text.encodeUtf8 text))

theorem asksReset_usual (now : Moment) (files : FileTree) :
    AsksReset (plainSurroundings now) ["config", "reset"] files {} usualFile where
  parsed := by decide +kernel
  wet := rfl
  located := by
    have place : Settings.file files plainEnvironment none = .ok usualFile := by rfl
    exact place

theorem unset_usual (now : Moment) : (plainSurroundings now).environment.settings = [] := by
  have unset : plainEnvironment.settings = [] := by decide +kernel
  exact unset

theorem writable_usual (text : String) : Settings.Writable (holding text) usualFile := by
  refine ⟨?_, ?_, ?_⟩ <;> rfl

theorem fitsComment_usual : FitsComment usualFile.text.toList :=
  ⟨_, List.all_eq_true.1 (by decide +kernel), .inl rfl⟩

-- No file, one that sets nothing, and one that has a truth value for a section.
theorem reset_needs_loading_by_content :
    let s := plainSurroundings ⟨⟨0, 0, by decide⟩, 0⟩
    s.environment.settings = [] ∧
      (∃ settings, Settings.load .empty s.environment usualFile = .ok settings) ∧
      ((run s ["config", "reset"] (holding "")).outcome = .done ∧
        Settings.load (run s ["config", "reset"] (holding "")).files s.environment usualFile =
          .ok .default) ∧
      (run s ["config", "reset"] (holding "grpc = true")).outcome =
          .failed (.settings .unsuitable) ∧
        (run s ["config", "reset"] (holding "grpc = true")).files = holding "grpc = true" := by
  intro s
  have asks (files : FileTree) : AsksReset s ["config", "reset"] files {} usualFile :=
    asksReset_usual _ files
  have unset : s.environment.settings = [] := unset_usual _
  have sound : Settings.load (holding "") plainEnvironment usualFile = .ok .default := by
    decide +kernel
  have unsuitable : Settings.load (holding "grpc = true") plainEnvironment usualFile =
      .error .unsuitable := by
    decide +kernel
  refine ⟨unset, ?_, ?_, ?_⟩
  · exact (reset_needs_loading (asks _) unset ⟨by rfl, by rfl, by rfl⟩ fitsComment_usual).1 (by rfl)
  · exact (reset_needs_loading (asks _) unset (writable_usual _) fitsComment_usual).2.1 _ sound
  · exact (reset_needs_loading (asks _) unset (writable_usual _) fitsComment_usual).2.2 _
      unsuitable

-- The bracket is not closed.
theorem reset_of_damaged_file :
    let s := plainSurroundings ⟨⟨0, 0, by decide⟩, 0⟩
    AsksReset s ["config", "reset"] (holding "[broken") {} usualFile ∧
      s.environment.settings = [] ∧ Settings.Writable (holding "[broken") usualFile ∧
      FitsComment usualFile.text.toList ∧
      (run s ["config", "reset"] (holding "[broken")).outcome =
        .failed (.settings (.unreadable usualFile)) ∧
      Settings.load (run s ["config", "reset"] (holding "[broken")).files s.environment
        usualFile = .error (.unreadable usualFile) := by
  intro s
  have asks : AsksReset s ["config", "reset"] (holding "[broken") {} usualFile :=
    asksReset_usual _ _
  have failed : Settings.load (holding "[broken") plainEnvironment usualFile =
      .error (.unreadable usualFile) := by
    decide +kernel
  rw [asks.failed failed]
  exact ⟨asks, unset_usual _, writable_usual _, fitsComment_usual, rfl, failed⟩

end AppHost.CommandLine
