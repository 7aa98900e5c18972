import AppHost.Log
import Mathlib.Data.List.DropRight

/-!
A log over all that is done with it. Whatever was written to it, and however often it was read in
between, it has the newest of the entries, as many as it can hold.
-/

set_option autoImplicit false
namespace AppHost.Log
open Calendar (Instant)

/-- A log has the newest of the entries that were written to it. -/
theorem foldl_push (capacity : Nat) (history : List LogEntry) :
    history.foldl push (new capacity) = ⟨max capacity 1, history.rtake (max capacity 1)⟩ := by
  obtain ⟨limit, positive⟩ : ∃ limit, max capacity 1 = limit + 1 := ⟨max capacity 1 - 1, by omega⟩
  induction history using List.reverseRecOn with
  | nil =>
    rw [List.rtake_nil]
    rfl
  | append_singleton earlier entry ih =>
    have room : (if (earlier.rtake (limit + 1)).length = limit + 1 then
        (earlier.rtake (limit + 1)).drop 1 else earlier.rtake (limit + 1)) =
          earlier.rtake limit := by
      unfold List.rtake
      rw [List.length_drop, List.drop_drop]
      split
      · congr 1
        omega
      · rw [Nat.sub_eq_zero_of_le (by omega), Nat.sub_eq_zero_of_le (by omega)]
    rw [List.foldl_append, ih, positive, List.rtake_concat_succ, ← room]
    rfl

inductive Access
  | write (time : Instant) (level : LogLevel) (message : String)
  | read
  deriving DecidableEq

namespace Access

def entry? : Access → Option LogEntry
  | write time level message => some ⟨time, level, message⟩
  | read => none

end Access

def written (accesses : List Access) : List LogEntry := accesses.filterMap Access.entry?

def access (log : Log) : Access → Log
  | .write time level message => log.write time level message
  | .read => log

def run (log : Log) (accesses : List Access) : Log := accesses.foldl access log

def found (log : Log) : List Access → List (List LogEntry)
  | [] => []
  | .write time level message :: rest => (log.write time level message).found rest
  | .read :: rest => log.entries :: log.found rest

theorem run_eq_foldl_push (log : Log) (accesses : List Access) :
    log.run accesses = (written accesses).foldl push log := by
  induction accesses generalizing log with
  | nil => rfl
  | cons first rest ih =>
    cases first with
    | write time level message => exact ih (log.write time level message)
    | read => exact ih log

theorem found_append_read (log : Log) (before after : List Access) :
    log.found (before ++ .read :: after) =
      log.found before ++ (log.run before).entries :: (log.run before).found after := by
  induction before generalizing log with
  | nil => rfl
  | cons first rest ih =>
    cases first with
    | write time level message => exact ih (log.write time level message)
    | read => exact congrArg (log.entries :: ·) (ih log)

theorem length_found (log : Log) (accesses : List Access) :
    (log.found accesses).length = accesses.count .read := by
  induction accesses generalizing log with
  | nil => rfl
  | cons first rest ih =>
    cases first with
    | write time level message =>
      rw [List.count_cons_of_ne (by nofun)]
      exact ih (log.write time level message)
    | read =>
      rw [List.count_cons_self]
      exact congrArg (· + 1) (ih log)

/-- After any writing and reading a log has the last entries that were written, oldest first, as many
as it can hold, and every reading has found the last of what was written before it. -/
theorem newest_entries (capacity : Nat) (accesses : List Access) :
    let limit := max capacity 1
    let newest (accesses : List Access) :=
      (written accesses).drop ((written accesses).length - min (written accesses).length limit)
    let log := (new capacity).run accesses
    log.entries = newest accesses ∧ log.size = min (written accesses).length limit ∧
      log.size ≤ limit ∧ (log.isEmpty = true ↔ written accesses = []) ∧
      ∀ before after, accesses = before ++ .read :: after →
        ((new capacity).found accesses)[before.count .read]? = some (newest before) := by
  intro limit newest log
  have entries (accesses : List Access) : ((new capacity).run accesses).entries = newest accesses := by
    rw [run_eq_foldl_push, foldl_push]
    dsimp only [newest, List.rtake]
    congr 1
    omega
  have size : log.size = min (written accesses).length limit := by
    rw [size, entries accesses]
    dsimp only [newest]
    rw [List.length_drop]
    omega
  refine ⟨entries accesses, size, ?_, ?_, ?_⟩
  · rw [size]
    exact Nat.min_le_right _ _
  · have empty : log.isEmpty = true ↔ log.size = 0 := List.isEmpty_iff_length_eq_zero
    rw [empty, size, ← List.length_eq_zero_iff]
    have positive : 0 < limit := Nat.lt_of_lt_of_le Nat.zero_lt_one (Nat.le_max_right _ _)
    omega
  · rintro before after rfl
    rw [found_append_read, ← length_found (new capacity) before,
      List.getElem?_append_right (Nat.le_refl _), Nat.sub_self, entries before]
    rfl

-- A log that is asked to hold nothing keeps one entry.
theorem newest_entries_of_least :
    let time : Instant := ⟨0, 0, by decide⟩
    let accesses := [Access.write time .info "one", .write time .warn "two", .read]
    ((new 0).run accesses).entries = [⟨time, .warn, "two"⟩] ∧
      ((new 0).found accesses)[0]? = some [⟨time, .warn, "two"⟩] := by
  intro time accesses
  obtain ⟨entries, -, -, -, found⟩ := newest_entries 0 accesses
  exact ⟨entries, found (accesses.take 2) [] rfl⟩

end AppHost.Log
