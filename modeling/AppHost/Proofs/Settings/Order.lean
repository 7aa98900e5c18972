import AppHost.Settings.Value
import Mathlib.Data.List.Nodup

/-!
The order in which a source's entries are put. An entry changes only the section that its path leads
into, so the order matters only for entries that lead into the same one.
-/

set_option autoImplicit false
namespace AppHost
open Entries (find?)

namespace Entries
variable {α : Type}

theorem find?_of_perm {entries others : List (String × α)} (once : (entries.map (·.1)).Nodup)
    (same : entries.Perm others) (key : String) : find? key entries = find? key others := by
  induction same with
  | nil => rfl
  | cons e _ ih =>
    rw [find?, find?, ih (List.nodup_cons.1 once).2]
  | swap e f _ =>
    have apart : f.1 ≠ e.1 := by
      rw [List.map_cons, List.map_cons, List.nodup_cons] at once
      exact fun same => once.1 (same ▸ List.mem_cons_self)
    simp only [find?]
    split_ifs with first second
    · exact absurd (first.trans second.symm) apart
    · rfl
    · rfl
    · rfl
  | trans front _ ihFront ihBack =>
    exact (ihFront once).trans (ihBack ((front.map _).nodup_iff.1 once))

end Entries

namespace SettingStep

theorem exists_ofName (name : String) : ∃ key path, ofName name = .key key :: path := by
  unfold ofName
  cases first : key? name.toList with
  | none => exact ⟨name, [], by simp⟩
  | some found =>
    obtain ⟨step, rest⟩ := found
    obtain ⟨key, rfl⟩ : ∃ key, step = .key key := by
      unfold key? at first
      split at first
      · cases first
      · cases first
        exact ⟨_, rfl⟩
    cases more : more? rest.length rest with
    | none => exact ⟨name, [], by simp [more]⟩
    | some path => exact ⟨key, path, by simp [more]⟩

end SettingStep

namespace SettingLayer

theorem perm_insertBySlot (slot : String → Nat) (e : String × Setting)
    (entries : List (String × Setting)) : (insertBySlot slot e entries).Perm (e :: entries) := by
  induction entries with
  | nil => exact .refl _
  | cons f rest ih =>
    rw [insertBySlot]
    split
    · exact .refl _
    · exact (ih.cons f).trans (.swap e f rest)

theorem perm_arranged (slot : String → Nat) (entries : List (String × Setting)) :
    (arranged slot entries).Perm entries := by
  induction entries with
  | nil => exact .refl _
  | cons e rest ih => exact (perm_insertBySlot slot e _).trans (ih.cons e)

def LeadsInto (group : String) (e : String × Setting) : Prop :=
  (SettingStep.ofName e.1).head? = some (.key group)

instance (group : String) : DecidablePred (LeadsInto group) :=
  fun _ => inferInstanceAs (Decidable (_ = _))

def LeadsOnce (group : String) (entries : List (String × Setting)) : Prop :=
  (entries.filter (LeadsInto group)).length ≤ 1

theorem overlay_cons {e : String × Setting} {key : String} {path : List SettingStep}
    (steps : SettingStep.ofName e.1 = .key key :: path) (entries old : List (String × Setting)) :
    (ofEntries (e :: entries)).overlay (.table old) = (ofEntries entries).overlay
      (.table (Entries.insert key
        (Setting.change e.2.overlay path ((find? key old).getD .nothing)) old)) := by
  simp only [ofEntries, overlay, List.map_cons, List.foldl_cons, put, steps, Setting.change,
    Setting.entry, Setting.entries]

instance (group : String) (entries : List (String × Setting)) :
    Decidable (LeadsOnce group entries) :=
  inferInstanceAs (Decidable (_ ≤ _))

/-- A section is what the entries that lead into it make of it. -/
theorem find?_overlay_filter {group : String} (entries : List (String × Setting))
    {old other : List (String × Setting)} (same : find? group old = find? group other) :
    find? group ((ofEntries entries).overlay (.table old)).entries =
      find? group
        ((ofEntries (entries.filter (LeadsInto group))).overlay (.table other)).entries := by
  induction entries generalizing old other with
  | nil => exact same
  | cons e entries ih =>
    obtain ⟨key, path, steps⟩ := SettingStep.exists_ofName e.1
    rw [overlay_cons steps]
    by_cases here : key = group
    · subst here
      have leads : LeadsInto key e := congrArg List.head? steps
      rw [List.filter_cons_of_pos (by simpa using leads), overlay_cons steps, same]
      refine ih ?_
      rw [Entries.find?_insert, Entries.find?_insert, if_pos rfl, if_pos rfl]
    · have elsewhere : ¬LeadsInto group e := by
        rw [LeadsInto, steps]
        simpa using here
      rw [List.filter_cons_of_neg (by simpa using elsewhere)]
      refine ih ?_
      rw [Entries.find?_insert, if_neg here, same]

theorem LeadsOnce.find?_overlay_of_perm {group : String} {entries others : List (String × Setting)}
    (once : LeadsOnce group entries) (perm : entries.Perm others)
    (old : List (String × Setting)) :
    find? group ((ofEntries entries).overlay (.table old)).entries =
      find? group ((ofEntries others).overlay (.table old)).entries := by
  have leading := perm.filter (LeadsInto group)
  have same : entries.filter (LeadsInto group) = others.filter (LeadsInto group) := by
    unfold LeadsOnce at once
    cases found : entries.filter (LeadsInto group) with
    | nil => exact (List.nil_perm.1 (found ▸ leading)).symm
    | cons e rest =>
      rw [found, List.length_cons, Nat.succ_le_succ_iff, Nat.le_zero,
        List.length_eq_zero_iff] at once
      subst once
      exact List.singleton_perm.1 (found ▸ leading)
  rw [find?_overlay_filter entries rfl, find?_overlay_filter others rfl, same]

end SettingLayer
end AppHost
