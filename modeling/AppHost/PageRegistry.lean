import AppHost.Dictionary
import AppHost.RuntimeError

/-! The pages that a running application serves, by their ids. -/

set_option autoImplicit false
namespace AppHost

def Page.validate (p : Page) : Except RuntimeError Unit :=
  if p.id.isEmpty then .error (.invalidArgument "page id must not be empty")
  else if p.fileName.isEmpty then
    .error (.invalidArgument ("page " ++ p.id ++ " must name an application file"))
  else .ok ()

structure PageRegistry where
  pages : Dictionary Page

namespace PageRegistry

def empty : PageRegistry := ⟨.empty⟩

/-- Serves a page, and gives the one in whose place it comes. -/
def publish (r : PageRegistry) (page : Page) :
    Except RuntimeError (Option Page) × PageRegistry :=
  match page.validate with
  | .error e => (.error e, r)
  | .ok () => (.ok (r.pages.find? page.id), ⟨r.pages.insert page.id page⟩)

def unpublish (r : PageRegistry) (id : String) : Option Page × PageRegistry :=
  (r.pages.find? id, ⟨r.pages.erase id⟩)

def resolve (r : PageRegistry) (id : String) : Option Page := r.pages.find? id

def list (r : PageRegistry) : List Page := r.pages.values

def size (r : PageRegistry) : Nat := r.pages.size

def isEmpty (r : PageRegistry) : Bool := r.pages.isEmpty

end PageRegistry
end AppHost
