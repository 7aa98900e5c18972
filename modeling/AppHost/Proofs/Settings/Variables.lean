import AppHost.Proofs.Settings.Order
import AppHost.Settings.Variable
import Mathlib.Data.List.Chain
import Mathlib.Data.List.Nodup

/-!
Variables that are settings. The name of one has a section and a key in it, with two underscores
before each, and from it comes the path of these two keys; no other name leads to that path.
-/

set_option autoImplicit false
namespace AppHost

namespace SettingStep
variable {name rest : List Char}

theorem key?_append (nonempty : name ≠ []) (chars : ∀ c ∈ name, isKeyChar c)
    (ends : ∀ c ∈ rest.head?, isKeyChar c = false) :
    key? (name ++ rest) = some (.key (String.ofList name), rest) := by
  have none : rest.takeWhile isKeyChar = [] ∧ rest.dropWhile isKeyChar = rest := by
    cases rest with
    | nil => exact ⟨rfl, rfl⟩
    | cons c rest =>
      have stop : isKeyChar c = false := ends c rfl
      simp [stop]
  unfold key?
  rw [List.takeWhile_append_of_pos chars, List.dropWhile_append_of_pos chars, none.1, none.2,
    List.append_nil]
  cases name with
  | nil => exact absurd rfl nonempty
  | cons => rfl

theorem ofName_pair {group key : List Char} (named : group ≠ []) (chars : ∀ c ∈ group, isKeyChar c)
    (named' : key ≠ []) (chars' : ∀ c ∈ key, isKeyChar c) :
    ofName (String.ofList (group ++ '.' :: key)) =
      [.key (String.ofList group), .key (String.ofList key)] := by
  have first : key? (group ++ '.' :: key) = some (.key (String.ofList group), '.' :: key) :=
    key?_append named chars (by rintro c ⟨⟩; rfl)
  have second : key? (key ++ []) = some (.key (String.ofList key), []) :=
    key?_append named' chars' nofun
  rw [List.append_nil] at second
  simp [ofName, first, more?, second]

end SettingStep

namespace SettingLayer

/-! ### Names in two parts -/

/-- No two underscores in a row, which would end a word. -/
def Unbroken (cs : List Char) : Prop := cs.IsChain fun a b => ¬(a = '_' ∧ b = '_')

instance (cs : List Char) : Decidable (Unbroken cs) :=
  inferInstanceAs (Decidable (cs.IsChain _))

theorem dotted_cons {c : Char} {rest : List Char} (single : ¬(c = '_' ∧ rest.head? = some '_')) :
    dotted (c :: rest) = c :: dotted rest := by
  rw [dotted.eq_def]
  split
  · rename_i same
    cases same
    exact absurd ⟨rfl, rfl⟩ single
  · rename_i same
    cases same
    rfl
  · rename_i same
    cases same

theorem dotted_of_unbroken {word : List Char} (unbroken : Unbroken word) : dotted word = word := by
  induction word with
  | nil => rfl
  | cons c word ih =>
    have single : ¬(c = '_' ∧ word.head? = some '_') := by
      rintro ⟨rfl, next⟩
      exact (List.isChain_cons.1 unbroken).1 '_' next ⟨rfl, rfl⟩
    rw [dotted_cons single, ih (List.isChain_cons.1 unbroken).2]

theorem dotted_append {word : List Char} (unbroken : Unbroken (word ++ ['_'])) (rest : List Char) :
    dotted (word ++ '_' :: '_' :: rest) = word ++ '.' :: dotted rest := by
  induction word with
  | nil => rfl
  | cons c word ih =>
    have single : ¬(c = '_' ∧ (word ++ '_' :: '_' :: rest).head? = some '_') := by
      rintro ⟨rfl, next⟩
      refine (List.isChain_cons.1 unbroken).1 '_' ?_ ⟨rfl, rfl⟩
      cases word with
      | nil => rfl
      | cons => exact next
    rw [List.cons_append, dotted_cons single, ih (List.isChain_cons.1 unbroken).2,
      List.cons_append]

/-- The name of a section: a word that two underscores can end. -/
structure IsGroup (group : List Char) : Prop where
  nonempty : group ≠ []
  chars : ∀ c ∈ group, SettingStep.isKeyChar c
  unbroken : Unbroken (group ++ ['_'])

structure IsKey (key : List Char) : Prop where
  nonempty : key ≠ []
  chars : ∀ c ∈ key, SettingStep.isKeyChar c
  unbroken : Unbroken key

theorem dot_not_mem {word : List Char} (chars : ∀ c ∈ word, SettingStep.isKeyChar c) : '.' ∉ word :=
  fun member => absurd (chars '.' member) (by decide)

/-- The path of a key in a section, as it is written in a file. -/
def pairName (group key : List Char) : String := String.ofList (group ++ '.' :: key)

def variableName (group key : List Char) : List Char := variablePrefix ++ (group ++ '_' :: '_' :: key)

def lowered (name : String) : List Char := name.toList.map lowerChar

def IsSetting (name : String) : Prop := variablePrefix <+: lowered name

instance (name : String) : Decidable (IsSetting name) :=
  inferInstanceAs (Decidable (_ <+: _))

variable {group key group' key' : List Char} {name : String}

theorem ofName_pairName (isGroup : IsGroup group) (isKey : IsKey key) :
    SettingStep.ofName (pairName group key) =
      [.key (String.ofList group), .key (String.ofList key)] :=
  SettingStep.ofName_pair isGroup.nonempty isGroup.chars isKey.nonempty isKey.chars

theorem pathName?_of_variableName (isGroup : IsGroup group) (isKey : IsKey key)
    (named : lowered name = variableName group key) :
    pathName? name = some (pairName group key) := by
  have rest : variablePrefix.isPrefixOf? (lowered name) = some (group ++ '_' :: '_' :: key) :=
    List.isPrefixOf?_eq_some_iff_append_eq.2 named.symm
  rw [pathName?, ← lowered, rest, Option.map_some, dotted_append isGroup.unbroken,
    dotted_of_unbroken isKey.unbroken]
  rfl

theorem pathName?_of_not_isSetting (other : ¬IsSetting name) : pathName? name = none := by
  rw [pathName?, Option.map_eq_none_iff, ← lowered]
  cases found : variablePrefix.isPrefixOf? (lowered name) with
  | none => rfl
  | some rest => exact absurd ⟨rest, List.isPrefixOf?_eq_some_iff_append_eq.1 found⟩ other

theorem pairName_inj (isGroup : IsGroup group) (isKey : IsKey key)
    (same : pairName group key = pairName group' key') : group = group' ∧ key = key' := by
  have same : group ++ '.' :: key = group' ++ '.' :: key' := String.ofList_injective same
  obtain ⟨front, rfl, rest⟩ | ⟨front, rfl, rest⟩ := List.append_eq_append_iff.1 same
  · cases front with
    | nil =>
      cases rest
      exact ⟨(List.append_nil _).symm, rfl⟩
    | cons c front =>
      cases rest
      exact absurd (by simp) (dot_not_mem isKey.chars)
  · cases front with
    | nil =>
      cases rest
      exact ⟨List.append_nil _, rfl⟩
    | cons c front =>
      cases rest
      exact absurd (by simp) (dot_not_mem isGroup.chars)

theorem variableName_inj (isGroup : IsGroup group) (isGroup' : IsGroup group')
    (isKey : IsKey key) (same : variableName group key = variableName group' key') :
    group = group' ∧ key = key' := by
  have same := List.append_cancel_left same
  have dots := congrArg dotted same
  rw [dotted_append isGroup.unbroken, dotted_append isGroup'.unbroken,
    dotted_of_unbroken isKey.unbroken] at dots
  obtain ⟨rfl, -⟩ := pairName_inj isGroup isKey (congrArg String.ofList dots)
  exact ⟨rfl, by simpa using same⟩

end SettingLayer

/-! ### The variables of an environment -/

namespace Environment
open SettingLayer

def settings (e : Environment) : List (String × String) :=
  e.«variables».entries.filter fun v => IsSetting v.1

/-- What the variable of a setting holds, whatever the case of its name. -/
def setting? (e : Environment) (group key : String) : Option String :=
  (e.settings.find? fun v => lowered v.1 = variableName group.toList key.toList).map (·.2)

def setsIn (e : Environment) (group : String) : Bool :=
  e.settings.any fun v => variableName group.toList [] <+: lowered v.1

theorem setsIn_iff (e : Environment) (group : String) :
    e.setsIn group = true ↔ ∃ key, (e.setting? group key).isSome := by
  simp only [setsIn, setting?, Option.isSome_map, List.find?_isSome, List.any_eq_true,
    decide_eq_true_eq]
  constructor
  · rintro ⟨v, held, rest, name⟩
    refine ⟨String.ofList rest, v, held, ?_⟩
    simp [← name, variableName]
  · rintro ⟨key, v, held, name⟩
    refine ⟨v, held, key.toList, ?_⟩
    simp [name, variableName]

structure IsNamed (v : String × String) (group key : List Char) : Prop where
  isGroup : IsGroup group
  isKey : IsKey key
  name : lowered v.1 = variableName group key

/-- Each variable that is a setting names a section and a key in it, and no two names are the same but
for the case of their letters. -/
structure NamesSettings (e : Environment) : Prop where
  named : ∀ v ∈ e.settings, ∃ group key, IsNamed v group key
  distinct : (e.settings.map fun v => lowered v.1).Nodup

variable {e : Environment} {v : String × String} {group key : List Char}

def given? (v : String × String) : Option (String × Setting) :=
  (pathName? v.1).map fun name => (name, valueOf v.2)

theorem given?_of_isNamed (isNamed : IsNamed v group key) :
    given? v = some (pairName group key, valueOf v.2) := by
  rw [given?, pathName?_of_variableName isNamed.isGroup isNamed.isKey isNamed.name, Option.map_some]

theorem filterMap_given? (e : Environment) :
    e.«variables».entries.filterMap given? = e.settings.filterMap given? := by
  rw [settings, List.filterMap_filter]
  congr 1
  funext v
  by_cases isSetting : IsSetting v.1
  · simp [isSetting]
  · simp [isSetting, given?, pathName?_of_not_isSetting isSetting]

theorem ofEnvironment_eq (e : Environment) :
    ofEnvironment e =
      ofTable e.slot (Dictionary.ofList (e.settings.filterMap given?)).entries := by
  rw [← filterMap_given?]
  rfl

theorem ofEnvironment_of_unset (unset : e.settings = []) : ofEnvironment e = [] := by
  rw [ofEnvironment_eq, unset]
  rfl

namespace NamesSettings

theorem nodup (named : e.NamesSettings) : ((e.settings.filterMap given?).map (·.1)).Nodup := by
  rw [List.nodup_iff_pairwise_ne, List.pairwise_map, List.pairwise_filterMap]
  have distinct := List.pairwise_map.1 (List.nodup_iff_pairwise_ne.1 named.distinct)
  refine distinct.imp_of_mem fun {a b} memberA memberB differ x givenA y givenB same => ?_
  obtain ⟨group, key, isNamed⟩ := named.named a memberA
  obtain ⟨group', key', isNamed'⟩ := named.named b memberB
  rw [given?_of_isNamed isNamed] at givenA
  rw [given?_of_isNamed isNamed'] at givenB
  cases givenA
  cases givenB
  obtain ⟨rfl, rfl⟩ := pairName_inj isNamed.isGroup isNamed.isKey same
  exact differ (isNamed.name.trans isNamed'.name.symm)

theorem find?_given {held : List (String × String)}
    (named : ∀ v ∈ held, ∃ group key, IsNamed v group key) (isGroup : IsGroup group) :
    Entries.find? (pairName group key) (held.filterMap given?) =
      (held.find? fun v => lowered v.1 = variableName group key).map fun v => valueOf v.2 := by
  induction held with
  | nil => rfl
  | cons v held ih =>
    obtain ⟨⟨group', key', isNamed⟩, later⟩ := List.forall_mem_cons.1 named
    have same : pairName group' key' = pairName group key ↔ lowered v.1 = variableName group key := by
      rw [isNamed.name]
      constructor
      · intro same
        obtain ⟨rfl, rfl⟩ := pairName_inj isNamed.isGroup isNamed.isKey same
        rfl
      · intro same
        obtain ⟨rfl, rfl⟩ := variableName_inj isNamed.isGroup isGroup isNamed.isKey same
        rfl
    rw [List.filterMap_cons, given?_of_isNamed isNamed, Entries.find?, ih later, List.find?_cons]
    by_cases found : lowered v.1 = variableName group key
    · simp [found, same.2 found]
    · simp [found, mt same.1 found]

/-- The layer of the variables: paths of two keys, each of them once, with what the variables hold. -/
theorem exists_entries (named : e.NamesSettings) :
    ∃ entries : List (String × Setting),
      ofEnvironment e = ofEntries entries ∧ (entries.map (·.1)).Nodup ∧
      (∀ x ∈ entries, ∃ group key written, IsGroup group ∧ IsKey key ∧
        x = (pairName group key, valueOf written)) ∧
      ∀ group key : String, IsGroup group.toList →
        Entries.find? (pairName group.toList key.toList) entries =
          (e.setting? group key).map valueOf := by
  let d := Dictionary.ofList (e.settings.filterMap given?)
  have found (name : String) : d.find? name = Entries.find? name (e.settings.filterMap given?) :=
    Dictionary.find?_ofList named.nodup name
  have perm := perm_arranged e.slot d.entries
  have once : ((arranged e.slot d.entries).map (·.1)).Nodup := (perm.map _).nodup_iff.2 d.keys_nodup
  refine ⟨arranged e.slot d.entries, ofEnvironment_eq e, once, ?_, fun group key isGroup => ?_⟩
  · rintro ⟨name, value⟩ member
    have given := (found name).symm.trans ((d.mem_entries name value).1 (perm.mem_iff.1 member))
    rw [Entries.find?_eq_lookup] at given
    obtain ⟨before, after, split, -⟩ := List.lookup_eq_some_iff.1 given
    have member : (name, value) ∈ e.settings.filterMap given? := by simp [split]
    obtain ⟨v, held, gives⟩ := List.mem_filterMap.1 member
    obtain ⟨group, key, isNamed⟩ := named.named v held
    rw [given?_of_isNamed isNamed] at gives
    exact ⟨group, key, v.2, isNamed.isGroup, isNamed.isKey, (Option.some.inj gives).symm⟩
  · rw [setting?, Option.map_map, Entries.find?_of_perm once perm]
    exact (found _).trans (find?_given named.named isGroup)

end NamesSettings
end Environment
end AppHost
