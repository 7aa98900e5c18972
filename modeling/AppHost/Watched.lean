/-! A value that is replaced from time to time, and that readers look at for changes. -/

set_option autoImplicit false
namespace AppHost

structure Watched (α : Type) where
  value : α
  -- How often it was replaced.
  version : Nat

namespace Watched
variable {α : Type}

def new (value : α) : Watched α := ⟨value, 0⟩

def replace (w : Watched α) (value : α) : Watched α := ⟨value, w.version + 1⟩

def changedSince (w : Watched α) (seen : Nat) : Bool := w.version ≠ seen

end Watched
end AppHost
