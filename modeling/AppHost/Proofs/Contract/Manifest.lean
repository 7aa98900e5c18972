import AppHost.Manifest
import AppHost.Proofs.Calendar.Reading
import AppHost.Proofs.Json.Values

/-!
Manifests are read back from the value that they are written as, once its objects have been brought
into key order: each field is looked up by its name, and a dictionary keeps its order.
-/

set_option autoImplicit false
namespace AppHost
open Json (Value)
open Calendar (Instant)

/-! ### Fields of a sorted object -/

section
variable {α : Type} {fields : List (String × Value)} (distinct : (fields.map (·.1)).Nodup)
include distinct

theorem field?_sorted (name : String) (read : Value → Option α) :
    field? (Value.arrange (Value.sortedFields fields)) name read =
      field? fields name fun v => read v.sorted := by
  rw [field?, field?, Value.lookup_arrange distinct, Option.bind_map]
  rfl

theorem fieldOr?_sorted (name : String) (read : Value → Option α) (default : α) :
    fieldOr? (Value.arrange (Value.sortedFields fields)) name read default =
      fieldOr? fields name (fun v => read v.sorted) default := by
  rw [fieldOr?, fieldOr?, Value.lookup_arrange distinct]
  cases fields.lookup name <;> rfl

end

/-! ### Pages, methods and listeners -/

theorem PageSpec.ofValue?_sorted (p : PageSpec) : ofValue? p.toJson.sorted = some p := by
  have distinct : ([("file", Value.string p.file), ("title", .string p.title)].map (·.1)).Nodup :=
    (by decide : ["file", "title"].Nodup)
  rw [toJson, Value.sorted, ofValue?, field?_sorted distinct, fieldOr?_sorted distinct]
  rfl

theorem ListenerSpec.ofValue?_sorted (l : ListenerSpec) : ofValue? l.toJson.sorted = some l := by
  obtain ⟨target, emit⟩ := l
  have distinct (emit : Value) :
      ([("target", Value.string target.name), ("emit", emit)].map (·.1)).Nodup :=
    (by decide : ["target", "emit"].Nodup)
  rw [toJson, Value.sorted, ofValue?, fieldOr?_sorted (distinct _), fieldOr?_sorted (distinct _)]
  cases target <;> cases emit <;> rfl

namespace MethodSpec

theorem finiteItems_eq (items : List Value) : finiteItems items = items.map finite := by
  induction items with
  | nil => rfl
  | cons v items ih => rw [finiteItems, ih, List.map_cons]

theorem finiteFields_eq (fields : List (String × Value)) :
    finiteFields fields = fields.map fun f => (f.1, finite f.2) := by
  induction fields with
  | nil => rfl
  | cons f fields ih => rw [finiteFields, ih, finiteField, List.map_cons]

theorem finite_of_whole {v : Value} : v.Whole → finite v = v := by
  induction v using Value.induction with
  | null | bool | string => exact fun _ => rfl
  | number n =>
    intro whole
    cases n with
    | int n => rfl
    | float x => cases whole
  | array items ih =>
    intro whole
    have kept : items.map finite = items.map id :=
      List.map_congr_left fun v member => ih v member (Value.wholeItems_iff.1 whole v member)
    rw [finite, finiteItems_eq, kept, List.map_id]
  | object fields ih =>
    intro whole
    have kept : (fields.map fun f => (f.1, finite f.2)) = fields.map id :=
      List.map_congr_left fun f member =>
        congrArg (f.1, ·) (ih f member (Value.wholeFields_iff.1 whole f member))
    rw [finite, finiteFields_eq, kept, List.map_id]

/-- A fixed answer without fractions, its objects in key order, and nested less than 100 deep. -/
def IsPlain : MethodSpec → Prop
  | .reply v => v.Whole ∧ v.Canonical ∧ v.depth < 100
  | _ => True

theorem ofValue?_sorted {m : MethodSpec} (plain : m.IsPlain) :
    ofValue? m.toJson.sorted = some m := by
  cases m with
  | reply v =>
    have distinct : ([("kind", Value.string "reply"), ("value", v)].map (·.1)).Nodup :=
      (by decide : ["kind", "value"].Nodup)
    obtain ⟨whole, canonical, -⟩ := plain
    rw [toJson, Value.sorted, ofValue?, field?_sorted distinct, Value.lookup_arrange distinct]
    show some (MethodSpec.reply (finite v.sorted)) = _
    rw [Value.sorted_of_canonical canonical, finite_of_whole whole]
  | echo => rfl
  | emit event =>
    have distinct : ([("kind", Value.string "emit"), ("event", .string event)].map (·.1)).Nodup :=
      (by decide : ["kind", "event"].Nodup)
    rw [toJson, Value.sorted, ofValue?, field?_sorted distinct, field?_sorted distinct]
    rfl

theorem IsPlain.whole_toJson {m : MethodSpec} (plain : m.IsPlain) : m.toJson.Whole := by
  cases m with
  | reply v => exact ⟨trivial, plain.1, trivial⟩
  | echo => exact ⟨trivial, trivial⟩
  | emit event => exact ⟨trivial, trivial, trivial⟩

theorem IsPlain.depth_toJson_le {m : MethodSpec} (plain : m.IsPlain) : m.toJson.depth ≤ 100 := by
  cases m with
  | reply v =>
    have shallow := plain.2.2
    simp only [toJson, Value.depth, Value.depthFields, Value.depthField]
    omega
  | echo => decide
  | emit event =>
    have flat : (emit event).toJson.depth = 1 := rfl
    omega

end MethodSpec

theorem PageSpec.whole_toJson (p : PageSpec) : p.toJson.Whole := ⟨trivial, trivial, trivial⟩

theorem PageSpec.depth_toJson (p : PageSpec) : p.toJson.depth = 1 := rfl

theorem ListenerSpec.whole_toJson (l : ListenerSpec) : l.toJson.Whole := by
  obtain ⟨target, emit⟩ := l
  cases emit <;> exact ⟨trivial, trivial, trivial⟩

theorem ListenerSpec.depth_toJson (l : ListenerSpec) : l.toJson.depth = 1 := by
  obtain ⟨target, emit⟩ := l
  cases emit <;> rfl

/-! ### Dictionaries -/

section
variable {α : Type} {read : Value → Option α} {write : α → Value}

theorem mapM_entries {entries : List (String × α)}
    (back : ∀ e ∈ entries, read (write e.2).sorted = some e.2) :
    ((entries.map fun e => (e.1, (write e.2).sorted)).mapM fun f => (read f.2).map (f.1, ·)) =
      some entries := by
  induction entries with
  | nil => rfl
  | cons e entries ih =>
    obtain ⟨first, later⟩ := List.forall_mem_cons.1 back
    rw [List.map_cons, List.mapM_cons, ih later, first]
    rfl

theorem dictionary?_sorted {d : Dictionary α}
    (back : ∀ e ∈ d.entries, read (write e.2).sorted = some e.2) :
    dictionary? read (Value.object (d.map fun _ a => write a).entries).sorted = some d := by
  have kept : Value.arrange (Value.sortedFields (d.map fun _ a => write a).entries) =
      (d.map fun _ a => (write a).sorted).entries := by
    have ascending := (d.map fun _ a => (write a).sorted).ascending
    rw [Value.sortedFields_eq, ← Value.arrange_of_ascending ascending]
    simp only [Dictionary.map, List.map_map, Function.comp_def]
  rw [Value.sorted, kept, dictionary?]
  simp only [Dictionary.map, mapM_entries back]
  exact congrArg some d.ofList_entries

theorem whole_dictionary {d : Dictionary α} (whole : ∀ e ∈ d.entries, (write e.2).Whole) :
    (Value.object (d.map fun _ a => write a).entries).Whole := by
  refine Value.wholeFields_iff.2 fun f member => ?_
  obtain ⟨e, listed, rfl⟩ := List.mem_map.1 member
  exact whole e listed

theorem depth_dictionary_le {d : Dictionary α} {n : Nat}
    (shallow : ∀ e ∈ d.entries, (write e.2).depth ≤ n) :
    (Value.object (d.map fun _ a => write a).entries).depth ≤ n + 1 := by
  refine Nat.succ_le_succ (Value.depthFields_le_iff.2 fun f member => ?_)
  obtain ⟨e, listed, rfl⟩ := List.mem_map.1 member
  exact shallow e listed

end

/-! ### Manifests -/

theorem instant?_text (t : Instant) : instant? (.string t.text) = some t := by
  simp only [instant?, Json.Value.text?, bind, Option.bind, t.parse_text]

namespace Manifest

def fields (m : Manifest) : List (String × Value) :=
  [("id", .string m.id), ("allow_launching", .bool m.allowLaunching),
      ("autostart", .bool m.autostart)] ++ versionFields "version" m.version ++
    [("pages", .object (m.pages.map fun _ p => p.toJson).entries),
      ("methods", .object (m.methods.map fun _ p => p.toJson).entries),
      ("listeners", .object (m.listeners.map fun _ p => p.toJson).entries)]

theorem toJson_eq (m : Manifest) : m.toJson = .object m.fields := rfl

theorem fields_distinct (m : Manifest) : (m.fields.map (·.1)).Nodup := by
  obtain ⟨id, allowLaunching, autostart, version, pages, methods, listeners⟩ := m
  cases version with
  | none =>
    exact (by decide :
      ["id", "allow_launching", "autostart", "pages", "methods", "listeners"].Nodup)
  | some t =>
    exact (by decide :
      ["id", "allow_launching", "autostart", "version", "pages", "methods", "listeners"].Nodup)

theorem lookup_version (m : Manifest) :
    m.fields.lookup "version" = m.version.map fun t => .string t.text := by
  obtain ⟨id, allowLaunching, autostart, version, pages, methods, listeners⟩ := m
  cases version <;> rfl

theorem lookup_pages (m : Manifest) :
    m.fields.lookup "pages" = some (.object (m.pages.map fun _ p => p.toJson).entries) := by
  obtain ⟨id, allowLaunching, autostart, version, pages, methods, listeners⟩ := m
  cases version <;> rfl

theorem lookup_methods (m : Manifest) :
    m.fields.lookup "methods" = some (.object (m.methods.map fun _ p => p.toJson).entries) := by
  obtain ⟨id, allowLaunching, autostart, version, pages, methods, listeners⟩ := m
  cases version <;> rfl

theorem lookup_listeners (m : Manifest) :
    m.fields.lookup "listeners" =
      some (.object (m.listeners.map fun _ p => p.toJson).entries) := by
  obtain ⟨id, allowLaunching, autostart, version, pages, methods, listeners⟩ := m
  cases version <;> rfl

theorem ofValue?_sorted {m : Manifest} (plain : ∀ e ∈ m.methods.entries, e.2.IsPlain) :
    ofValue? m.toJson.sorted = some m := by
  have id : field? m.fields "id" (fun v => v.sorted.text?) = some m.id := rfl
  have allowLaunching : fieldOr? m.fields "allow_launching" (fun v => bool? v.sorted) true =
      some m.allowLaunching := rfl
  have autostart : fieldOr? m.fields "autostart" (fun v => bool? v.sorted) false =
      some m.autostart := rfl
  have version : fieldOr? m.fields "version" (fun v => nullable? instant? v.sorted) none =
      some m.version := by
    rw [fieldOr?, lookup_version]
    cases m.version with
    | none => rfl
    | some t =>
      simp only [Option.map_some, Value.sorted, nullable?, instant?_text]
  have pages : fieldOr? m.fields "pages" (fun v => dictionary? PageSpec.ofValue? v.sorted) .empty =
      some m.pages := by
    rw [fieldOr?, lookup_pages]
    exact dictionary?_sorted fun e _ => e.2.ofValue?_sorted
  have methods : fieldOr? m.fields "methods" (fun v => dictionary? MethodSpec.ofValue? v.sorted)
      .empty = some m.methods := by
    rw [fieldOr?, lookup_methods]
    exact dictionary?_sorted fun e member => MethodSpec.ofValue?_sorted (plain e member)
  have listeners : fieldOr? m.fields "listeners"
      (fun v => dictionary? ListenerSpec.ofValue? v.sorted) .empty = some m.listeners := by
    rw [fieldOr?, lookup_listeners]
    exact dictionary?_sorted fun e _ => e.2.ofValue?_sorted
  have distinct := m.fields_distinct
  rw [toJson_eq, Value.sorted, ofValue?]
  simp only [field?_sorted distinct, fieldOr?_sorted distinct, id, allowLaunching, autostart,
    version, pages, methods, listeners, bind, Option.bind]
  rfl

theorem forall_fields {m : Manifest} {P : Value → Prop} (text : ∀ s, P (.string s))
    (flag : ∀ b, P (.bool b)) (pages : P (.object (m.pages.map fun _ p => p.toJson).entries))
    (methods : P (.object (m.methods.map fun _ p => p.toJson).entries))
    (listeners : P (.object (m.listeners.map fun _ p => p.toJson).entries)) :
    ∀ f ∈ m.fields, P f.2 := by
  intro f member
  simp only [fields, List.mem_append, List.mem_cons, List.not_mem_nil, or_false] at member
  rcases member with ((rfl | rfl | rfl) | version) | rfl | rfl | rfl
  · exact text m.id
  · exact flag m.allowLaunching
  · exact flag m.autostart
  · cases present : m.version with
    | none =>
      rw [present] at version
      cases version
    | some t =>
      rw [present] at version
      cases List.mem_singleton.1 version
      exact text t.text
  · exact pages
  · exact methods
  · exact listeners

section
variable {m : Manifest} (plain : ∀ e ∈ m.methods.entries, e.2.IsPlain)
include plain

theorem whole_toJson : m.toJson.Whole := by
  refine Value.wholeFields_iff.2 (forall_fields (fun _ => trivial) (fun _ => trivial) ?_ ?_ ?_)
  · exact whole_dictionary fun e _ => e.2.whole_toJson
  · exact whole_dictionary fun e member => (plain e member).whole_toJson
  · exact whole_dictionary fun e _ => e.2.whole_toJson

theorem depth_toJson_le : m.toJson.depth ≤ 102 := by
  refine Nat.succ_le_succ (Value.depthFields_le_iff.2 ?_)
  refine forall_fields (P := fun v => v.depth ≤ 101) (fun _ => Nat.zero_le _)
    (fun _ => Nat.zero_le _) ?_ ?_ ?_
  · exact depth_dictionary_le fun e _ => e.2.depth_toJson ▸ (by decide : 1 ≤ 100)
  · exact depth_dictionary_le fun e member => (plain e member).depth_toJson_le
  · exact depth_dictionary_le fun e _ => e.2.depth_toJson ▸ (by decide : 1 ≤ 100)

end

end Manifest
end AppHost
