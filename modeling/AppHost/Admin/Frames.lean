import AppHost.Host
import AppHost.Json.Printer
import AppHost.Text.Split

/-!
The stream of launches and stops that operators listen to. Every event is a frame of two fields, its
kind and its data, ended by an empty line. When nothing happens for a while, a comment is sent to
keep the connection alive.

Times are milliseconds.
-/

set_option autoImplicit false
namespace AppHost.Admin

structure Frame where
  event : String
  data : String
  deriving DecidableEq, Repr

namespace Frame

def text (f : Frame) : String :=
  let lines := (Text.splitOn '\n' f.data.toList).map fun line =>
    "data: " ++ String.ofList line ++ "\n"
  "event: " ++ f.event ++ "\n" ++ String.join lines ++ "\n"

def ofEvent (e : LifecycleEvent) : Frame := ⟨e.kind, e.toJson.text⟩

end Frame

structure Listener where
  position : Nat
  -- When a comment is due.
  due : Nat
  deriving DecidableEq, Repr

namespace Listener

def aliveInterval : Nat := 15000

def aliveText : String := ": keepalive\n\n"

def start (h : Host) (now : Nat) : Listener := ⟨h.lifecycle.sent, now + aliveInterval⟩

/-- What a listener gets in one turn: the frame of the next event or, where none is there, a comment
that is due. Lost events are passed over in silence. -/
def take (h : Host) (now : Nat) (l : Listener) : String × Listener :=
  match h.lifecycle.read l.position with
  | (.message e, position) => ((Frame.ofEvent e).text, ⟨position, now + aliveInterval⟩)
  | (.lagged _, position) => ("", { l with position })
  | (_, position) =>
    if l.due ≤ now then (aliveText, ⟨position, now + aliveInterval⟩) else ("", { l with position })

def takes (h : Host) (now : Nat) : Nat → Listener → String × Listener
  | 0, l => ("", l)
  | turns + 1, l =>
    let (text, next) := l.take h now
    let (rest, last) := takes h now turns next
    (text ++ rest, last)

def drain (h : Host) (now : Nat) (l : Listener) : String × Listener :=
  -- There may be a gap before the events, and then it finds that there are no more.
  l.takes h now (h.lifecycle.kept.length + 2)

end Listener
end AppHost.Admin
