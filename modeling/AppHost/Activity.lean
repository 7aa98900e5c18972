import AppHost.Hub
import AppHost.Log

/-!
What application code does while it answers a call. All it can do is send events to its pages, which
tells it how many streams were reached, and write to its log, which tells it how long the log is.
-/

set_option autoImplicit false
namespace AppHost
open Calendar (Instant)

variable {α β : Type}

inductive Activity (α : Type)
  | done (answer : α)
  | emitToPage (page : String) (event : ApplicationEvent) (next : Nat → Activity α)
  | emitToAll (event : ApplicationEvent) (next : Nat → Activity α)
  | write (level : LogLevel) (message : String) (next : Nat → Activity α)

/-- What an application's code has in hand. -/
structure Outlets where
  hub : Hub
  log : Log

namespace Activity

def bind : Activity α → (α → Activity β) → Activity β
  | done answer, f => f answer
  | emitToPage page event next, f => emitToPage page event fun n => (next n).bind f
  | emitToAll event next, f => emitToAll event fun n => (next n).bind f
  | write level message next, f => write level message fun n => (next n).bind f

instance : Monad Activity where
  pure := done
  bind := bind

def run (time : Instant) : Activity α → Outlets → α × Outlets
  | done answer, o => (answer, o)
  | emitToPage page event next, o =>
    let (reached, hub) := o.hub.emitToPage page event
    (next reached).run time { o with hub }
  | emitToAll event next, o =>
    let (reached, hub) := o.hub.emitToAll event
    (next reached).run time { o with hub }
  | write level message next, o =>
    let log := o.log.write time level message
    (next log.size).run time { o with log }

end Activity
end AppHost
