import AppHost.Power

/-!
Feeds of messages that any number of readers follow, each at its own pace. A feed keeps its newest
messages only. A reader that has fallen further behind is told how many it missed and goes on with
the oldest one kept. Reading does not change the feed, so no reader is in the way of another.
-/

set_option autoImplicit false
namespace AppHost

variable {α : Type}

structure Feed (α : Type) where
  capacity : Nat
  sent : Nat
  -- The newest messages, oldest first.
  kept : List α
  kept_length : kept.length = min sent capacity

inductive Received (α : Type)
  | message (content : α)
  -- So many messages went by unread.
  | lagged (missed : Nat)
  -- There is none yet.
  | pending
  -- There will be none any more.
  | closed
  deriving DecidableEq

namespace Feed

/-- A feed keeps a power of two of messages, at least as many as are asked for. Here that may be any
number; a feed in memory is refused if more than half of the largest machine word is asked for. -/
def capacityFor (buffer : Nat) : Nat :=
  let needed := max buffer 1
  if needed = 1 then 1 else 2 ^ ((needed - 1).log2 + 1)

def empty (capacity : Nat) : Feed α := ⟨capacity, 0, [], by simp⟩

def send (f : Feed α) (message : α) : Feed α where
  capacity := f.capacity
  sent := f.sent + 1
  kept := (f.kept ++ [message]).drop (f.kept.length + 1 - f.capacity)
  kept_length := by
    have := f.kept_length
    simp only [List.length_drop, List.length_append, List.length_cons, List.length_nil]
    omega

def oldest (f : Feed α) : Nat := f.sent - f.kept.length

/-- What a reader at a position finds, and where it stands after that. -/
def read (f : Feed α) (position : Nat) : Received α × Nat :=
  if position < f.oldest then (.lagged (f.oldest - position), f.oldest)
  else
    match f.kept[position - f.oldest]? with
    | some message => (.message message, position + 1)
    | none => (.pending, position)

@[simp] theorem sent_send (f : Feed α) (message : α) : (f.send message).sent = f.sent + 1 := rfl

@[simp] theorem capacity_send (f : Feed α) (message : α) :
    (f.send message).capacity = f.capacity := rfl

theorem oldest_eq (f : Feed α) : f.oldest = f.sent - f.capacity := by
  have := f.kept_length
  simp only [oldest]
  omega

end Feed
end AppHost
