import AppHost.Settings.Load

/-!
A layer laid over another one. Where the upper layer alone gives nothing the lower one shows, entry by
entry as deep as both have tables, and everywhere else the result is what the upper layer alone gives.
-/

set_option autoImplicit false
namespace AppHost
open Entries (find?)

namespace Setting

/-- What lies at the bottom: nothing, a scalar, or a table of such. Lists do not. -/
inductive Ground : Option Setting → Prop
  | none : Ground none
  | bool (b : Bool) : Ground (some (.bool b))
  | integer (n : Int) : Ground (some (.integer n))
  | text (s : String) : Ground (some (.text s))
  | table {entries : List (String × Setting)} (each : ∀ name, Ground (find? name entries)) :
      Ground (some (.table entries))

/-- What a layer gives over the ground, with the ground and what the layer gives alone. Once a value
has replaced a table of the ground, nothing of that table shows again. -/
inductive Laid : Option Setting → Option Setting → Option Setting → Prop
  | same (below v : Option Setting) : Laid below v v
  | ground (below : Option Setting) : Laid below none below
  | table {below : Option Setting} {above result : List (String × Setting)}
      (each : ∀ name, Laid (find? name (below.getD .nothing).entries) (find? name above)
        (find? name result)) :
      Laid below (some (.table above)) (some (.table result))

variable {below above result : Option Setting}

theorem Ground.items (bottom : Ground below) : (below.getD .nothing).items = [] := by
  cases bottom <;> rfl

theorem Ground.entries (bottom : Ground below) (name : String) :
    Ground (find? name (below.getD .nothing).entries) := by
  cases bottom with
  | table each => exact each name
  | _ => exact .none

theorem Laid.entries (laid : Laid below above result) (name : String) :
    Laid (find? name (below.getD .nothing).entries) (find? name (above.getD .nothing).entries)
      (find? name (result.getD .nothing).entries) := by
  cases laid with
  | same => exact .same _ _
  | ground => exact .ground _
  | table each => exact each name

theorem Laid.items (bottom : Ground below) (laid : Laid below above result) :
    (above.getD .nothing).items = (result.getD .nothing).items := by
  cases laid with
  | same => rfl
  | ground => exact bottom.items.symm
  | table => rfl

theorem Laid.insert {below above result : List (String × Setting)}
    (each : ∀ name, Laid (find? name below) (find? name above) (find? name result)) {key : String}
    {v w : Setting} (laid : Laid (find? key below) (some v) (some w)) (name : String) :
    Laid (find? name below) (find? name (Entries.insert key v above))
      (find? name (Entries.insert key w result)) := by
  rw [Entries.find?_insert, Entries.find?_insert]
  split
  · rename_i same
    exact same ▸ laid
  · exact each name

/-! ### A value laid over both -/

mutual
theorem Laid.overlay {below above result : Option Setting} (laid : Laid below above result) :
    (v : Setting) →
      Laid below (some (v.overlay (above.getD .nothing))) (some (v.overlay (result.getD .nothing)))
  | .table entries => .table (Laid.overlayEntries laid.entries entries)
  | .nothing => .same _ _
  | .bool _ => .same _ _
  | .integer _ => .same _ _
  | .float _ => .same _ _
  | .text _ => .same _ _
  | .list _ => .same _ _
termination_by structural v => v
theorem Laid.overlayEntries {below above result : List (String × Setting)}
    (each : ∀ name, Laid (find? name below) (find? name above) (find? name result)) :
    (entries : List (String × Setting)) → (name : String) →
      Laid (find? name below) (find? name (Setting.overlayEntries entries above))
        (find? name (Setting.overlayEntries entries result))
  | [] => each
  | e :: rest => Laid.overlayEntries (Laid.overlayEntry each e) rest
termination_by structural entries => entries
theorem Laid.overlayEntry {below above result : List (String × Setting)}
    (each : ∀ name, Laid (find? name below) (find? name above) (find? name result)) :
    (e : String × Setting) → (name : String) →
      Laid (find? name below) (find? name (Setting.overlayEntry e above))
        (find? name (Setting.overlayEntry e result))
  | (key, v) => Laid.insert each (Laid.overlay (each key) v)
termination_by structural e => e
end

theorem Laid.change {f : Setting → Setting}
    (step : ∀ {below above result : Option Setting}, Laid below above result →
      Laid below (some (f (above.getD .nothing))) (some (f (result.getD .nothing))))
    (path : List SettingStep) (bottom : Ground below) (laid : Laid below above result) :
    Laid below (some (change f path (above.getD .nothing)))
      (some (change f path (result.getD .nothing))) := by
  induction path generalizing below above result with
  | nil => exact step laid
  | cons first rest ih =>
    cases first with
    | key name => exact .table (Laid.insert laid.entries (ih (bottom.entries name) (laid.entries name)))
    | index position =>
      simp only [Setting.change, laid.items bottom]
      exact .same _ _

theorem Laid.put {above result : Setting} (bottom : Ground below)
    (laid : Laid below (some above) (some result)) (e : List SettingStep × Setting) :
    Laid below (some (SettingLayer.put above e)) (some (SettingLayer.put result e)) :=
  Laid.change (fun laid => laid.overlay e.2) e.1 bottom laid

theorem Laid.layer (bottom : Ground below) (layer : SettingLayer) {above result : Setting}
    (laid : Laid below (some above) (some result)) :
    Laid below (some (layer.overlay above)) (some (layer.overlay result)) := by
  induction layer generalizing above result with
  | nil => exact laid
  | cons e layer ih => exact ih (laid.put bottom e)

theorem Ground.field (bottom : Ground below) (name : String) (position : Nat) :
    below.bind (·.field? name position) = find? name (below.getD .nothing).entries := by
  cases bottom <;> rfl

/-- What stands at the name and position of a field, where that is a section. -/
theorem Laid.field (bottom : Ground below) (laid : Laid below above result) (name : String)
    (position : Nat) :
    Laid (below.bind (·.field? name position)) (above.bind (·.field? name position))
      (result.bind (·.field? name position)) := by
  cases laid with
  | same => exact .same _ _
  | ground => exact .ground _
  | table each =>
    rw [bottom.field]
    exact each name

end Setting
end AppHost
