import AppHost.Proofs.Instance.Pages
import AppHost.Proofs.Text.Order
import Mathlib.Data.List.Induction

/-!
A registry over all that is published and unpublished. What it has under an id is the page that was
published last, unless that was unpublished since or could not be published.
-/

set_option autoImplicit false
namespace AppHost

namespace Page

def IsComplete (p : Page) : Prop := p.id ≠ "" ∧ p.fileName ≠ ""

instance (p : Page) : Decidable p.IsComplete := inferInstanceAs (Decidable (_ ∧ _))

theorem isComplete_iff (p : Page) : p.IsComplete ↔ p.validate = .ok () := by
  rw [validate_eq_ok_iff, IsComplete]
  simp

end Page

namespace PageRegistry
variable {r : PageRegistry} {id : String} {page : Page}

theorem publish_of_isComplete (complete : page.IsComplete) :
    r.publish page = (.ok (r.resolve page.id), ⟨r.pages.insert page.id page⟩) := by
  rw [publish, page.isComplete_iff.1 complete]
  rfl

theorem publish_of_not_isComplete (incomplete : ¬page.IsComplete) :
    ∃ e, r.publish page = (.error e, r) := by
  rw [publish]
  cases valid : page.validate with
  | ok u => exact absurd (page.isComplete_iff.2 valid) incomplete
  | error e => exact ⟨e, rfl⟩

/-! ### Changes -/

inductive Change
  | publish (page : Page)
  | unpublish (id : String)

namespace Change

/-- What there is under an id after the change comes from the change. -/
def Settles (id : String) : Change → Prop
  | publish page => page.id = id ∧ page.IsComplete
  | unpublish other => other = id

instance (id : String) (c : Change) : Decidable (c.Settles id) := by
  cases c <;> unfold Settles <;> infer_instance

def page? : Change → Option Page
  | publish page => some page
  | unpublish _ => none

end Change

def change (r : PageRegistry) : Change → PageRegistry
  | .publish page => (r.publish page).2
  | .unpublish id => (r.unpublish id).2

def run (r : PageRegistry) (changes : List Change) : PageRegistry := changes.foldl change r

theorem change_publish_of_isComplete (complete : page.IsComplete) :
    r.change (.publish page) = ⟨r.pages.insert page.id page⟩ := by
  rw [change, publish_of_isComplete complete]

theorem change_publish_of_not_isComplete (incomplete : ¬page.IsComplete) :
    r.change (.publish page) = r := by
  obtain ⟨e, refused⟩ := publish_of_not_isComplete (r := r) incomplete
  rw [change, refused]

theorem resolve_change (r : PageRegistry) (c : Change) (id : String) :
    (r.change c).resolve id = if c.Settles id then c.page? else r.resolve id := by
  cases c with
  | publish page =>
    by_cases complete : page.IsComplete
    · rw [change_publish_of_isComplete complete]
      simp only [resolve, Dictionary.find?_insert, Change.Settles, complete, and_true, Change.page?]
    · rw [change_publish_of_not_isComplete complete]
      simp only [Change.Settles, complete, and_false, if_false]
  | unpublish other => exact r.pages.find?_erase other id

/-! ### The last publication -/

/-- The page was published under the id, and nothing changed that since. -/
def Stands (id : String) (page : Page) (changes : List Change) : Prop :=
  ∃ before after, changes = before ++ .publish page :: after ∧ page.id = id ∧ page.IsComplete ∧
    ∀ c ∈ after, ¬c.Settles id

theorem stands_concat (changes : List Change) (c : Change) :
    Stands id page (changes ++ [c]) ↔
      if c.Settles id then c.page? = some page else Stands id page changes := by
  constructor
  · rintro ⟨before, after, whole, here, complete, later⟩
    rcases List.eq_nil_or_concat after with rfl | ⟨rest, last, rfl⟩
    · obtain ⟨-, same⟩ := List.append_inj' whole rfl
      cases same
      rw [if_pos ⟨here, complete⟩]
      rfl
    · rw [List.concat_eq_append, ← List.cons_append, ← List.append_assoc] at whole
      obtain ⟨earlier, same⟩ := List.append_inj' whole rfl
      cases same
      simp only [List.concat_eq_append, List.forall_mem_append, List.forall_mem_singleton] at later
      rw [if_neg later.2]
      exact ⟨before, rest, earlier, here, complete, later.1⟩
  · split
    · rename_i settles
      intro same
      cases c with
      | publish other =>
        cases same
        exact ⟨changes, [], rfl, settles.1, settles.2, nofun⟩
      | unpublish other => cases same
    · rename_i elsewhere
      rintro ⟨before, after, rfl, here, complete, later⟩
      refine ⟨before, after ++ [c], by simp, here, complete, ?_⟩
      exact List.forall_mem_append.2 ⟨later, List.forall_mem_singleton.2 elsewhere⟩

theorem resolve_run_iff (changes : List Change) :
    (empty.run changes).resolve id = some page ↔ Stands id page changes := by
  induction changes using List.reverseRecOn with
  | nil =>
    refine ⟨nofun, ?_⟩
    rintro ⟨before, after, none, -⟩
    cases before <;> cases none
  | append_singleton changes c ih =>
    rw [run, List.foldl_append, List.foldl_cons, List.foldl_nil, resolve_change, stands_concat]
    split
    · rfl
    · exact ih

/-! ### What is listed -/

theorem mem_list_iff : page ∈ r.list ↔ ∃ id, r.resolve id = some page := by
  simp only [list, Dictionary.values, List.mem_map, Prod.exists, exists_eq_right,
    Dictionary.mem_entries]
  rfl

theorem list_ascending (own : ∀ key page, r.resolve key = some page → page.id = key) :
    (r.list.map fun p => Text.encodeUtf8 p.id).Pairwise (· < ·) := by
  have keys : r.list.map (·.id) = r.pages.keys := Dictionary.map_values own
  have ascending : (r.list.map (·.id)).Pairwise (· < ·) := keys ▸ r.pages.keys_ascending
  rw [List.pairwise_map] at ascending ⊢
  exact ascending.imp Text.encodeUtf8_lt_of_lt

/-- After any changes a registry has under each id the page that was published there last and not
unpublished since, if there is one. To publish tells which page was there and puts another in its
place, to unpublish tells which page it takes away, and a page without an id or a file is refused.
What there is, is listed in the order of the bytes of the ids. -/
theorem publications (changes : List Change) :
    let r := empty.run changes
    (∀ id page, r.resolve id = some page ↔ Stands id page changes) ∧
      (∀ page, page.IsComplete → ∃ after, r.publish page = (.ok (r.resolve page.id), after) ∧
        ∀ id, after.resolve id = if page.id = id then some page else r.resolve id) ∧
      (∀ page, ¬page.IsComplete → ∃ e, r.publish page = (.error e, r)) ∧
      (∀ id, (r.unpublish id).1 = r.resolve id ∧
        ∀ other, (r.unpublish id).2.resolve other = if id = other then none else r.resolve other) ∧
      (∀ id page, r.resolve id = some page → page.id = id ∧ page.id ≠ "" ∧ page.fileName ≠ "") ∧
      (r.list.map fun p => Text.encodeUtf8 p.id).Pairwise (· < ·) ∧
      (∀ page, page ∈ r.list ↔ ∃ id, r.resolve id = some page) ∧
      r.size = r.list.length := by
  intro r
  have stands (id : String) (page : Page) : r.resolve id = some page ↔ Stands id page changes :=
    resolve_run_iff changes
  have own (id : String) (page : Page) (found : r.resolve id = some page) : page.id = id := by
    obtain ⟨_, _, _, here, _, _⟩ := (stands id page).1 found
    exact here
  refine ⟨stands, ?_, ?_, ?_, ?_, list_ascending own, fun page => mem_list_iff, ?_⟩
  · intro page complete
    exact ⟨_, publish_of_isComplete complete, r.pages.find?_insert page.id page⟩
  · intro page incomplete
    exact publish_of_not_isComplete incomplete
  · intro id
    exact ⟨rfl, r.pages.find?_erase id⟩
  · intro id page found
    obtain ⟨_, _, _, here, complete, _⟩ := (stands id page).1 found
    exact ⟨here, complete⟩
  · exact List.length_map .. |>.symm

-- A page is replaced, another refused and a third taken away.
theorem publications_of_replaced :
    let first : Page := ⟨"main", "v1.html", ""⟩
    let second : Page := ⟨"main", "v2.html", ""⟩
    let changes : List Change := [.publish first, .publish ⟨"a", "a.html", "A"⟩, .publish second,
      .publish ⟨"main", "", "Main"⟩, .unpublish "a"]
    (empty.run changes).resolve "main" = some second ∧
      (∃ after, (empty.run changes).publish first = (.ok (some second), after)) ∧
      ∃ e, (empty.run changes).publish ⟨"main", "", "Main"⟩ = (.error e, empty.run changes) := by
  intro first second changes
  obtain ⟨stands, publish, refused, -⟩ := publications changes
  have found : (empty.run changes).resolve "main" = some second := by
    refine (stands "main" second).2 ⟨changes.take 2, changes.drop 3, rfl, rfl, by decide, ?_⟩
    decide
  obtain ⟨after, published, -⟩ := publish first (by decide)
  refine ⟨found, ⟨after, ?_⟩, refused ⟨"main", "", "Main"⟩ (by decide)⟩
  rw [published]
  exact congrArg (fun p => (Except.ok p, after)) found

end PageRegistry
end AppHost
