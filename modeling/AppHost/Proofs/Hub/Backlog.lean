import AppHost.Feed

/-!
What a reader of a feed has before it: so many messages that went by unread, then the messages that
the feed still keeps for it. Sending and reading act on a backlog alone, without regard to positions.
A backlog is also a view of all that is unread, of which only the newest part is kept.
-/

set_option autoImplicit false
namespace AppHost

variable {α : Type}

structure Backlog (α : Type) where
  missed : Nat
  -- Oldest first.
  kept : List α
  deriving DecidableEq

namespace Backlog

def empty : Backlog α := ⟨0, []⟩

def push (capacity : Nat) (b : Backlog α) (message : α) : Backlog α :=
  let excess := b.kept.length + 1 - capacity
  ⟨b.missed + excess, (b.kept ++ [message]).drop excess⟩

/-- What is found next, and what is before the reader then. -/
def take (b : Backlog α) : Received α × Backlog α :=
  if b.missed = 0 then
    match b.kept with
    | [] => (.pending, b)
    | message :: rest => (.message message, ⟨0, rest⟩)
  else (.lagged b.missed, ⟨0, b.kept⟩)

/-- The newest of the unread messages are kept, the others are missed. -/
def ofUnread (capacity : Nat) (unread : List α) : Backlog α :=
  ⟨unread.length - capacity, unread.drop (unread.length - capacity)⟩

@[simp] theorem ofUnread_nil (capacity : Nat) : ofUnread capacity ([] : List α) = empty := by
  simp [ofUnread, empty]

theorem push_ofUnread (capacity : Nat) (unread : List α) (message : α) :
    (ofUnread capacity unread).push capacity message = ofUnread capacity (unread ++ [message]) := by
  have inside : unread.length - capacity ≤ unread.length := Nat.sub_le _ _
  simp only [push, ofUnread, List.length_drop, List.length_append, List.length_singleton]
  rw [← List.drop_append_of_le_length inside, List.drop_drop]
  congr 1
  · omega
  · congr 1
    omega

theorem take_ofUnread_of_lt {capacity : Nat} {unread : List α} (behind : capacity < unread.length) :
    (ofUnread capacity unread).take =
      (.lagged (unread.length - capacity),
        ofUnread capacity (unread.drop (unread.length - capacity))) := by
  have some : unread.length - capacity ≠ 0 := by omega
  have fits : unread.length - (unread.length - capacity) - capacity = 0 := by omega
  simp [take, ofUnread, some, fits]

theorem take_ofUnread_cons {capacity : Nat} {message : α} {rest : List α}
    (fits : rest.length + 1 ≤ capacity) :
    (ofUnread capacity (message :: rest)).take = (.message message, ofUnread capacity rest) := by
  have none : rest.length + 1 - capacity = 0 := by omega
  have noneLeft : rest.length - capacity = 0 := by omega
  simp [take, ofUnread, none, noneLeft]

theorem take_empty : (empty : Backlog α).take = (.pending, empty) := rfl

end Backlog

namespace Feed

def backlog (f : Feed α) (position : Nat) : Backlog α :=
  ⟨f.oldest - position, f.kept.drop (position - f.oldest)⟩

theorem oldest_add_kept (f : Feed α) : f.oldest + f.kept.length = f.sent := by
  have := f.kept_length
  simp only [oldest]
  omega

theorem kept_le_capacity (f : Feed α) : f.kept.length ≤ f.capacity := by
  rw [f.kept_length]
  exact Nat.min_le_right _ _

theorem oldest_send (f : Feed α) (message : α) :
    (f.send message).oldest = f.oldest + (f.kept.length + 1 - f.capacity) := by
  have length := f.kept_length
  rw [oldest_eq, oldest_eq, sent_send, capacity_send, length]
  rcases Nat.lt_or_ge f.sent f.capacity with room | full
  · rw [Nat.min_eq_left (Nat.le_of_lt room)]
    omega
  · rw [Nat.min_eq_right full]
    omega

theorem backlog_sent (f : Feed α) : f.backlog f.sent = .empty := by
  have all := f.oldest_add_kept
  have gone : f.oldest - f.sent = 0 := by omega
  have caughtUp : f.kept.length ≤ f.sent - f.oldest := by omega
  simp only [backlog, Backlog.empty, gone, List.drop_of_length_le caughtUp]

theorem backlog_send (f : Feed α) {position : Nat} (reached : position ≤ f.sent) (message : α) :
    (f.send message).backlog position = (f.backlog position).push f.capacity message := by
  have all := f.oldest_add_kept
  have room := f.kept_le_capacity
  have inside : position - f.oldest ≤ f.kept.length := by omega
  have keeps : (f.send message).kept = (f.kept ++ [message]).drop (f.kept.length + 1 - f.capacity) :=
    rfl
  simp only [backlog, Backlog.push, List.length_drop, oldest_send, keeps]
  rw [List.drop_drop, ← List.drop_append_of_le_length inside, List.drop_drop]
  -- A reader at the oldest message or before it loses what the feed loses, any other nothing.
  rcases Nat.lt_or_ge f.oldest position with late | early
  · have one : f.kept.length + 1 - f.capacity ≤ 1 := by omega
    have none : f.kept.length - (position - f.oldest) + 1 - f.capacity = 0 := by omega
    have gone : f.oldest - position = 0 := by omega
    have goneAfter : f.oldest + (f.kept.length + 1 - f.capacity) - position = 0 := by omega
    rw [none, gone, goneAfter]
    congr 2
    omega
  · have start : position - f.oldest = 0 := by omega
    have startAfter : position - (f.oldest + (f.kept.length + 1 - f.capacity)) = 0 := by omega
    rw [start, startAfter, Nat.sub_zero, Nat.add_zero, Nat.zero_add]
    congr 1
    omega

theorem read_backlog (f : Feed α) (position : Nat) :
    (f.read position).1 = (f.backlog position).take.1 ∧
      f.backlog (f.read position).2 = (f.backlog position).take.2 := by
  by_cases behind : position < f.oldest
  · have some : f.oldest - position ≠ 0 := by omega
    have start : position - f.oldest = 0 := by omega
    simp [read, behind, backlog, Backlog.take, some, start]
  · have none : f.oldest - position = 0 := by omega
    simp only [read, behind, if_false, backlog, Backlog.take, none, if_true]
    cases found : f.kept[position - f.oldest]? with
    | none =>
      have all : f.kept.length ≤ position - f.oldest := List.getElem?_eq_none_iff.1 found
      simp [List.drop_of_length_le all, none]
    | some message =>
      obtain ⟨within, same⟩ := List.getElem?_eq_some_iff.1 found
      have next : position + 1 - f.oldest = position - f.oldest + 1 := by omega
      have noneNext : f.oldest - (position + 1) = 0 := by omega
      rw [List.drop_eq_getElem_cons within, same]
      simp [next, noneNext]

theorem read_le_sent (f : Feed α) {position : Nat} (reached : position ≤ f.sent) :
    (f.read position).2 ≤ f.sent := by
  have := f.kept_length
  unfold read
  split
  · simp only [oldest]
    omega
  · split
    · rename_i found
      have within := (List.getElem?_eq_some_iff.1 found).1
      simp only [oldest] at within ⊢
      omega
    · exact reached

/-! ### What waits for a reader -/

section
variable {f : Feed α} {position : Nat} {waiting : List α}

/-- These messages wait for a reader at a position; the feed keeps the newest of them. -/
structure Awaits (f : Feed α) (position : Nat) (waiting : List α) : Prop where
  reached : position ≤ f.sent
  backlog : f.backlog position = .ofUnread f.capacity waiting

namespace Awaits

theorem send (awaits : f.Awaits position waiting) (message : α) :
    (f.send message).Awaits position (waiting ++ [message]) where
  reached := Nat.le_succ_of_le awaits.reached
  backlog := by
    rw [f.backlog_send awaits.reached, awaits.backlog, Backlog.push_ofUnread]
    rfl

theorem sendAll (awaits : f.Awaits position waiting) (messages : List α) :
    (messages.foldl Feed.send f).Awaits position (waiting ++ messages) := by
  induction messages generalizing f waiting with
  | nil => rwa [List.append_nil]
  | cons message messages ih =>
    rw [List.append_cons]
    exact ih (awaits.send message)

theorem length_le (awaits : f.Awaits position waiting) (fits : waiting.length ≤ f.capacity) :
    waiting.length ≤ f.kept.length := by
  have kept := congrArg (·.kept.length) awaits.backlog
  simp only [Feed.backlog, Backlog.ofUnread, List.length_drop] at kept
  omega

theorem read_nil (awaits : f.Awaits position []) :
    ∃ next, f.read position = (.pending, next) ∧ f.Awaits next [] := by
  obtain ⟨found, left⟩ := f.read_backlog position
  rw [awaits.backlog, Backlog.ofUnread_nil, Backlog.take_empty] at found left
  exact ⟨_, Prod.ext found rfl, f.read_le_sent awaits.reached, by rw [Backlog.ofUnread_nil, left]⟩

theorem read_cons {message : α} (awaits : f.Awaits position (message :: waiting))
    (fits : waiting.length + 1 ≤ f.capacity) :
    ∃ next, f.read position = (.message message, next) ∧ f.Awaits next waiting := by
  obtain ⟨found, left⟩ := f.read_backlog position
  rw [awaits.backlog, Backlog.take_ofUnread_cons fits] at found left
  exact ⟨_, Prod.ext found rfl, f.read_le_sent awaits.reached, left⟩

end Awaits

theorem awaits_sent (f : Feed α) : f.Awaits f.sent [] where
  reached := Nat.le_refl _
  backlog := by rw [Backlog.ofUnread_nil, f.backlog_sent]

theorem capacity_sendAll (f : Feed α) (messages : List α) :
    (messages.foldl Feed.send f).capacity = f.capacity := by
  induction messages generalizing f with
  | nil => rfl
  | cons message messages ih => exact ih (f.send message)

end

end Feed
end AppHost
