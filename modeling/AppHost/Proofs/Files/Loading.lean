import AppHost.Proofs.Files.Entries
import AppHost.Proofs.Host.Catalog
import Mathlib.Data.List.Forall2

/-!
Loading the manifests of a directory. Which files are loaded, and in which order, follows from the
names in the directory alone, and not from the order of its listing. The first file that cannot be
loaded decides the outcome, and of two manifests with one id the later is launched from the catalog.
-/

set_option autoImplicit false
namespace AppHost

/-! ### Attempts in a row -/

theorem mapM_cases {α β ε : Type} (f : α → Except ε β) (items : List α) :
    (∃ results, items.mapM f = .ok results ∧
      List.Forall₂ (fun item result => f item = .ok result) items results) ∨
    ∃ before item after e, items = before ++ item :: after ∧
      (∀ earlier ∈ before, ∃ result, f earlier = .ok result) ∧
      f item = .error e ∧ items.mapM f = .error e := by
  induction items with
  | nil => exact .inl ⟨[], rfl, .nil⟩
  | cons item items ih =>
    rw [List.mapM_cons]
    cases first : f item with
    | error e => exact .inr ⟨[], item, items, e, rfl, nofun, first, rfl⟩
    | ok result =>
      obtain ⟨results, done, each⟩ | ⟨before, failed, after, e, rfl, earlier, fails, done⟩ := ih
      · rw [done]
        exact .inl ⟨result :: results, rfl, .cons first each⟩
      · rw [done]
        refine .inr ⟨item :: before, failed, after, e, rfl, ?_, fails, rfl⟩
        exact List.forall_mem_cons.2 ⟨⟨result, first⟩, earlier⟩

/-! ### The files -/

theorem Text.encodeUtf8_inj {a b : String} (same : Text.encodeUtf8 a = Text.encodeUtf8 b) : a = b := by
  have back := Text.decodeUtf8?_encodeUtf8 a
  rw [same, Text.decodeUtf8?_encodeUtf8] at back
  exact (Option.some.inj back).symm

/-- The names of a listing that have the extension of TOML, in the order of their bytes. -/
structure ManifestNames (names files : List String) : Prop where
  mem_iff : ∀ name, name ∈ files ↔ name ∈ names ∧ ∃ stem, stem ≠ "" ∧ name = stem ++ ".toml"
  ascending : files.Pairwise fun a b => Text.encodeUtf8 a < Text.encodeUtf8 b

theorem ManifestNames.unique {names listed files others : List String}
    (first : ManifestNames names files) (second : ManifestNames listed others)
    (order : listed.Perm names) : others = files := by
  have once {files : List String}
      (ascending : files.Pairwise fun a b => Text.encodeUtf8 a < Text.encodeUtf8 b) :
      files.Nodup := by
    refine List.nodup_iff_pairwise_ne.2 (ascending.imp fun below => ?_)
    rintro rfl
    exact List.lt_irrefl _ below
  have members : others.Perm files := by
    rw [List.perm_ext_iff_of_nodup (once second.ascending) (once first.ascending)]
    intro name
    rw [second.mem_iff, first.mem_iff, order.mem_iff]
  refine List.Perm.eq_of_pairwise (fun a b _ _ below above => ?_) second.ascending first.ascending
    members
  exact absurd below (List.lt_asymm above)

namespace FileTree
variable {t : FileTree} {directory file : Path} {names : List String} {name : String} {m : Manifest}

theorem isManifestFile_join (entry : isEntryName name.toList) :
    isManifestFile (directory.join ⟨name⟩) ↔ ∃ stem, stem ≠ "" ∧ name = stem ++ ".toml" := by
  obtain ⟨front, parts⟩ := directory.parts_join
  obtain ⟨nonempty, named, plain⟩ := isEntryName_iff.1 entry
  have found := Path.fileName?_of_parts (parts ⟨name⟩ plain) nonempty named
  rw [isManifestFile, beq_iff_eq, Path.extension?_eq_some_iff found (by decide)]
  constructor
  · rintro ⟨stem, some, whole⟩
    refine ⟨String.ofList stem, by simpa using some, ?_⟩
    rw [← String.toList_inj]
    simpa using whole
  · rintro ⟨stem, some, rfl⟩
    exact ⟨stem.toList, by simpa using some, by simp⟩

theorem exists_manifestNames (entries : ∀ name ∈ names, isEntryName name.toList)
    (once : names.Nodup) (directory : Path) :
    ∃ files, ManifestNames names files ∧
      manifestsAmong directory names = files.map fun name => directory.join ⟨name⟩ := by
  let atMost (a b : String) : Bool := Text.encodeUtf8 a ≤ Text.encodeUtf8 b
  let manifests := names.filter fun name => isManifestFile (directory.join ⟨name⟩)
  have plain : ∀ name ∈ manifests, '/' ∉ name.toList := by
    intro name member
    exact (isEntryName_iff.1 (entries name (List.mem_filter.1 member).1)).2.2
  refine ⟨manifests.mergeSort atMost, ⟨fun name => ?_, ?_⟩, ?_⟩
  · rw [List.mem_mergeSort, List.mem_filter]
    exact and_congr_right fun member => isManifestFile_join (entries name member)
  · have sorted : (manifests.mergeSort atMost).Pairwise fun a b => atMost a b = true := by
      apply List.pairwise_mergeSort
      · intro a b c first second
        exact decide_eq_true (List.le_trans (of_decide_eq_true first) (of_decide_eq_true second))
      · intro a b
        simpa [atMost] using List.le_total (Text.encodeUtf8 a) (Text.encodeUtf8 b)
    have distinct : (manifests.mergeSort atMost).Nodup :=
      List.nodup_mergeSort.2 (once.filter _)
    refine (sorted.and (List.nodup_iff_pairwise_ne.1 distinct)).imp fun ⟨notAfter, differ⟩ => ?_
    exact (List.le_iff_lt_or_eq.1 (of_decide_eq_true notAfter)).resolve_right
      fun same => differ (Text.encodeUtf8_inj same)
  · rw [manifestsAmong, List.filter_map]
    refine (List.map_mergeSort fun a first b second => ?_).symm
    exact (directory.notAfter_join (plain a first) (plain b second)).symm

theorem manifestsAmong_eq (entries : ∀ name ∈ names, isEntryName name.toList) (once : names.Nodup)
    {files listing : List String} (named : ManifestNames names files) (order : listing.Perm names) :
    manifestsAmong directory listing = files.map fun name => directory.join ⟨name⟩ := by
  have entries : ∀ name ∈ listing, isEntryName name.toList :=
    fun name member => entries name (order.mem_iff.1 member)
  obtain ⟨others, named', among⟩ := exists_manifestNames entries (order.nodup_iff.2 once) directory
  rw [among, named.unique named' order]

def Loads (t : FileTree) (file : Path) (m : Manifest) : Prop :=
  ∃ text, t.readText? file = some text ∧ Manifest.parse? text = some m ∧ m.validate = .ok ()

inductive Fails (t : FileTree) (file : Path) : ManifestDirectoryError → Prop
  | unreadable (unread : t.readText? file = none) : Fails t file (.unreadable file)
  | unparsed {text : String} (read : t.readText? file = some text)
      (unparsed : Manifest.parse? text = none) : Fails t file (.refused file .unreadable)
  | invalid {text : String} {m : Manifest} {reason : RuntimeError}
      (read : t.readText? file = some text) (parsed : Manifest.parse? text = some m)
      (invalid : m.validate = .error reason) : Fails t file (.refused file (.invalid reason))

theorem loadManifest_cases (t : FileTree) (file : Path) :
    (∃ m, t.Loads file m ∧ t.loadManifest file = .ok m) ∨
      ∃ e, t.Fails file e ∧ t.loadManifest file = .error e := by
  unfold loadManifest
  cases read : t.readText? file with
  | none => exact .inr ⟨_, .unreadable read, rfl⟩
  | some text =>
    simp only [Manifest.ofToml]
    cases parsed : Manifest.parse? text with
    | none => exact .inr ⟨_, .unparsed read parsed, rfl⟩
    | some m =>
      simp only [Manifest.validated]
      cases checked : m.validate with
      | ok => exact .inl ⟨m, ⟨text, read, parsed, checked⟩, rfl⟩
      | error reason => exact .inr ⟨_, .invalid read parsed checked, rfl⟩

theorem loads_of_loadManifest (loaded : t.loadManifest file = .ok m) : t.Loads file m := by
  obtain ⟨other, loads, same⟩ | ⟨e, -, failed⟩ := t.loadManifest_cases file
  · cases loaded.symm.trans same
    exact loads
  · cases loaded.symm.trans failed

theorem fails_of_loadManifest {e : ManifestDirectoryError}
    (failed : t.loadManifest file = .error e) : t.Fails file e := by
  obtain ⟨m, -, loaded⟩ | ⟨other, fails, same⟩ := t.loadManifest_cases file
  · cases failed.symm.trans loaded
  · cases failed.symm.trans same
    exact fails

theorem valid_of_loads {files : List String} {manifests : List Manifest}
    (each : List.Forall₂ (fun name m => t.Loads (directory.join ⟨name⟩) m) files manifests) :
    ∀ m ∈ manifests, m.validate = .ok () := by
  induction each with
  | nil =>
    intro m member
    cases member
  | cons loads _ ih =>
    obtain ⟨text, -, -, valid⟩ := loads
    exact List.forall_mem_cons.2 ⟨valid, ih⟩

/-- What a directory holds is loaded as a whole or not at all, in whatever order the directory lists
it: each file with the extension of TOML, in the order of the names, up to the first that fails, with
whose error the whole does. What was loaded can be registered, and then the catalog has of each
application the manifest of the last file that declares it. -/
theorem loading (t : FileTree) (directory : Path) (names : List String)
    (listed : t.list? directory = some names) :
    ∃ files, ManifestNames names files ∧
      (∀ listing, listing.Perm names →
        manifestsAmong directory listing = files.map (fun name => directory.join ⟨name⟩) ∧
          (manifestsAmong directory listing).mapM t.loadManifest = t.loadManifests directory) ∧
      ((∃ manifests, t.loadManifests directory = .ok manifests ∧
          List.Forall₂ (fun name m => t.Loads (directory.join ⟨name⟩) m) files manifests) ∨
        ∃ before name after e, files = before ++ name :: after ∧
          (∀ earlier ∈ before, ∃ m, t.Loads (directory.join ⟨earlier⟩) m) ∧
          t.Fails (directory.join ⟨name⟩) e ∧ t.loadManifests directory = .error e) ∧
      ∀ manifests, t.loadManifests directory = .ok manifests → ∀ options,
        ∃ host, (Host.new options).registerAll manifests = (.ok (), host) ∧
          ∀ id, host.catalog.find? id = (manifests.filter (·.id = id)).getLast? := by
  have entries : ∀ name ∈ names, isEntryName name.toList := fun _ => isEntryName_of_list? listed
  have once := nodup_of_list? listed
  obtain ⟨files, named, among⟩ := exists_manifestNames entries once directory
  have loaded : t.loadManifests directory = (manifestsAmong directory names).mapM t.loadManifest := by
    simp only [loadManifests, manifestFiles, contains_of_list? listed, if_true, listed]
    rfl
  have unordered : ∀ listing, listing.Perm names →
      manifestsAmong directory listing = files.map (fun name => directory.join ⟨name⟩) ∧
        (manifestsAmong directory listing).mapM t.loadManifest = t.loadManifests directory := by
    intro listing order
    have same : manifestsAmong directory listing = _ :=
      manifestsAmong_eq entries once named order
    exact ⟨same, by rw [loaded, among, same]⟩
  have each : t.loadManifests directory =
      files.mapM fun name => t.loadManifest (directory.join ⟨name⟩) := by
    rw [loaded, among]
    exact List.mapM_map
  obtain ⟨manifests, done, loads⟩ | ⟨before, name, after, e, split, earlier, fails, done⟩ :=
    mapM_cases (fun name => t.loadManifest (directory.join ⟨name⟩)) files
  · have loads := loads.imp fun _ _ => loads_of_loadManifest
    refine ⟨files, named, unordered, .inl ⟨manifests, each.trans done, loads⟩, ?_⟩
    intro others same options
    cases (each.trans done).symm.trans same
    obtain ⟨host, registered, found⟩ := Host.registerAll_of_valid (valid_of_loads loads) (.new options)
    exact ⟨host, registered, fun id => (found id).trans (Option.or_none)⟩
  · have earlier : ∀ first ∈ before, ∃ m, t.Loads (directory.join ⟨first⟩) m := by
      intro first member
      obtain ⟨m, loaded⟩ := earlier first member
      exact ⟨m, loads_of_loadManifest loaded⟩
    refine ⟨files, named, unordered, .inr ⟨before, name, after, e, split, earlier,
      fails_of_loadManifest fails, each.trans done⟩, ?_⟩
    intro manifests same
    cases (each.trans done).symm.trans same

-- Two files declare one application, and the notes are listed first.
theorem loading_last_of_two :
    let file (text : String) : FileNode := .file (Text.encodeUtf8 text)
    let t : FileTree := ⟨⟨[("/apps", .directory), ("/apps/a.toml", file "id = \"quiz\""),
      ("/apps/b.toml", file "id = \"quiz\"\nautostart = true"),
      ("/apps/c.toml", file "id = \"maze\""), ("/apps/notes.txt", .file [])], by decide⟩, "", none⟩
    t.list? ⟨"/apps"⟩ = some ["a.toml", "b.toml", "c.toml", "notes.txt"] ∧
      ∃ manifests, manifests.map (fun m => (m.id, m.autostart)) =
          [("quiz", false), ("quiz", true), ("maze", false)] ∧
        (manifestsAmong ⟨"/apps"⟩ ["notes.txt", "c.toml", "b.toml", "a.toml"]).mapM t.loadManifest =
          .ok manifests ∧
        ∃ host, (Host.new .default).registerAll manifests = (.ok (), host) ∧
          (host.catalog.find? "quiz").map (·.autostart) = some true := by
  intro file t
  let brief (m : Manifest) : String × Bool := (m.id, m.autostart)
  have listed : t.list? ⟨"/apps"⟩ = some ["a.toml", "b.toml", "c.toml", "notes.txt"] := by
    decide +kernel
  have opened : t.manifestFiles ⟨"/apps"⟩ =
      .ok [⟨"/apps/a.toml"⟩, ⟨"/apps/b.toml"⟩, ⟨"/apps/c.toml"⟩] := by
    rw [manifestFiles, contains_of_list? listed, if_pos rfl, listed]
    -- The files are listed in their order, so there is nothing to sort.
    refine congrArg Except.ok (Eq.trans (List.mergeSort_of_pairwise ?_) ?_) <;> decide +kernel
  have found : (t.loadManifests ⟨"/apps"⟩).map (List.map brief) =
      .ok [("quiz", false), ("quiz", true), ("maze", false)] := by
    rw [loadManifests, opened]
    decide +kernel
  cases loaded : t.loadManifests ⟨"/apps"⟩ with
  | error e =>
    rw [loaded] at found
    cases found
  | ok manifests =>
    rw [loaded] at found
    have briefs : manifests.map brief = _ := Except.ok.inj found
    obtain ⟨files, -, unordered, -, registers⟩ := loading t ⟨"/apps"⟩ _ listed
    obtain ⟨host, registered, entry⟩ := registers manifests loaded .default
    refine ⟨listed, manifests, briefs, (unordered _ (by decide)).2.trans loaded, host, registered, ?_⟩
    have quizzes : (manifests.filter (·.id = "quiz")).map (·.autostart) =
        ((manifests.map brief).filter (·.1 = "quiz")).map (·.2) := by
      rw [List.filter_map, List.map_map]
      rfl
    rw [entry, ← List.getLast?_map, quizzes, briefs]
    rfl

end FileTree
end AppHost
