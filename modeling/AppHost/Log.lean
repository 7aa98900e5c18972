import AppHost.Calendar.Rfc3339
import AppHost.Json.Value

/-! The log of one run of an application, which keeps its newest entries only. -/

set_option autoImplicit false
namespace AppHost
open Calendar (Instant)
open Json (Value)

inductive LogLevel
  -- Written by the host itself: start, stop and failures.
  | runtime
  | info
  | warn
  | error
  deriving DecidableEq, Repr

def LogLevel.name : LogLevel → String
  | .runtime => "runtime"
  | .info => "info"
  | .warn => "warn"
  | .error => "error"

structure LogEntry where
  time : Instant
  level : LogLevel
  message : String
  deriving DecidableEq

def LogEntry.toJson (e : LogEntry) : Value :=
  .object [("at", .string e.time.text), ("level", .string e.level.name),
    ("message", .string e.message)]

structure Log where
  capacity : Nat
  -- Oldest first.
  entries : List LogEntry
  deriving DecidableEq

namespace Log

def new (capacity : Nat) : Log := ⟨max capacity 1, []⟩

def defaultCapacity : Nat := 1000

def push (log : Log) (entry : LogEntry) : Log :=
  let room := if log.entries.length = log.capacity then log.entries.drop 1 else log.entries
  { log with entries := room ++ [entry] }

def write (log : Log) (time : Instant) (level : LogLevel) (message : String) : Log :=
  log.push ⟨time, level, message⟩

def size (log : Log) : Nat := log.entries.length

def isEmpty (log : Log) : Bool := log.entries.isEmpty

end Log
end AppHost
