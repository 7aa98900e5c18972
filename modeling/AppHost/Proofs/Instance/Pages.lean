import AppHost.Instance
import AppHost.Proofs.Hub.Standing

/-!
What is served and what is open. To serve a page and to cease to are each one change of the registry
and what follows from it for the hub; made one after the other they keep the two in agreement.
-/

set_option autoImplicit false
namespace AppHost

theorem Page.validate_eq_ok_iff (page : Page) :
    page.validate = .ok () ↔ page.id.isEmpty = false ∧ page.fileName.isEmpty = false := by
  unfold validate
  cases page.id.isEmpty <;> cases page.fileName.isEmpty <;> simp

theorem Hub.isSome_openPage (h : Hub) (page other : String) :
    ((h.openPage page).pages.find? other).isSome =
      (decide (page = other) || (h.pages.find? other).isSome) := by
  unfold openPage
  split
  · rename_i isOpen
    by_cases same : page = other
    · subst same
      simpa [Dictionary.contains] using isOpen
    · simp [same]
  · rw [Dictionary.find?_insert]
    by_cases same : page = other <;> simp [same]

namespace Instance

/-- The pages that are served are those that are open. -/
def Agrees (i : Instance) : Prop := i.pages.pages.keys = i.hub.pages.keys

instance (i : Instance) : Decidable i.Agrees := inferInstanceAs (Decidable (_ = _))

theorem agrees_iff_isSome (i : Instance) :
    i.Agrees ↔ ∀ page, (i.pages.pages.find? page).isSome = (i.hub.pages.find? page).isSome :=
  Dictionary.keys_eq_iff _ _

def serve (i : Instance) (page : Page) : Instance :=
  let hub := if i.pages.pages.contains page.id then (i.hub.closePage page.id).2 else i.hub
  { i with pages := ⟨i.pages.pages.insert page.id page⟩, hub := hub.openPage page.id }

/-- The steps of the hub when a page is served: an open one is closed first. -/
def serveSteps (i : Instance) (page : String) : List HubStep :=
  if i.pages.pages.contains page then [.closePage page, .openPage page] else [.openPage page]

theorem hub_serve (i : Instance) (page : Page) :
    (i.serve page).hub = i.hub.run (i.serveSteps page.id) := by
  dsimp only [serve, serveSteps]
  split <;> rfl

theorem isSome_hub_serve (i : Instance) (page : Page) (other : String) :
    ((i.serve page).hub.pages.find? other).isSome =
      (decide (page.id = other) || (i.hub.pages.find? other).isSome) := by
  dsimp only [serve]
  rw [Hub.isSome_openPage]
  split
  · rw [Hub.pages_closePage]
    by_cases same : page.id = other <;> simp [same]
  · rfl

def withdraw (i : Instance) (page : String) : Instance :=
  { i with pages := ⟨i.pages.pages.erase page⟩, hub := (i.hub.closePage page).2 }

theorem publishPage_of_valid {page : Page} (valid : page.validate = .ok ()) (i : Instance) :
    i.publishPage page = (.ok (), i.serve page) := by
  simp only [publishPage, PageRegistry.publish, valid]
  rfl

theorem publishPage_of_invalid {page : Page} {e : RuntimeError} (invalid : page.validate = .error e)
    (i : Instance) : i.publishPage page = (.error e, i) := by
  simp only [publishPage, PageRegistry.publish, invalid]

theorem publishPages_cons_eq_ok {i after : Instance} {page : Page} {rest : List Page}
    (served : i.publishPages (page :: rest) = (.ok (), after)) :
    page.validate = .ok () ∧ (i.serve page).publishPages rest = (.ok (), after) := by
  rw [publishPages] at served
  cases valid : page.validate with
  | error e =>
    rw [publishPage_of_invalid valid] at served
    cases served
  | ok u =>
    rw [publishPage_of_valid valid] at served
    exact ⟨rfl, served⟩

theorem publishPages_of_valid {pages : List Page}
    (valid : ∀ page ∈ pages, page.validate = .ok ()) (i : Instance) :
    ∃ after, i.publishPages pages = (.ok (), after) := by
  induction pages generalizing i with
  | nil => exact ⟨i, rfl⟩
  | cons page rest ih =>
    obtain ⟨first, later⟩ := List.forall_mem_cons.1 valid
    obtain ⟨after, served⟩ := ih later (i.serve page)
    refine ⟨after, ?_⟩
    rw [publishPages, publishPage_of_valid first]
    exact served

theorem publishPages_of_invalid {before : List Page} {bad : Page} {e : RuntimeError}
    (valid : ∀ page ∈ before, page.validate = .ok ()) (invalid : bad.validate = .error e)
    (after : List Page) (i : Instance) : ∃ left, i.publishPages (before ++ bad :: after) = (.error e, left) ∧
      i.publishPages before = (.ok (), left) := by
  induction before generalizing i with
  | nil =>
    refine ⟨i, ?_, rfl⟩
    rw [List.nil_append, publishPages, publishPage_of_invalid invalid]
  | cons page rest ih =>
    obtain ⟨first, later⟩ := List.forall_mem_cons.1 valid
    obtain ⟨left, fails, served⟩ := ih later (i.serve page)
    refine ⟨left, ?_, ?_⟩
    · rw [List.cons_append, publishPages, publishPage_of_valid first]
      exact fails
    · rw [publishPages, publishPage_of_valid first]
      exact served

theorem unpublishPage_of_served {i : Instance} {page : String}
    (served : i.pages.pages.contains page = true) :
    i.unpublishPage page = (.ok (), i.withdraw page) := by
  obtain ⟨p, found⟩ := Option.isSome_iff_exists.1 served
  simp only [unpublishPage, PageRegistry.unpublish, found]
  rfl

theorem unpublishPage_of_absent {i : Instance} {page : String}
    (absent : i.pages.pages.contains page = false) :
    i.unpublishPage page = (.error (.pageNotFound (i.pageRef page)), i) := by
  have missing : i.pages.pages.find? page = none := Option.not_isSome_iff_eq_none.1 (by
    rw [← Dictionary.contains, absent]
    exact Bool.false_ne_true)
  simp only [unpublishPage, PageRegistry.unpublish, missing,
    Dictionary.erase_of_find? missing]

end Instance
end AppHost
