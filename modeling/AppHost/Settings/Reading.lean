import AppHost.Settings.Basic
import AppHost.Settings.Variable

/-!
Settings out of values. A section is a table with fields by name, or a list with fields by position;
a field that is missing has its default, and what is unknown is passed over. A scalar is taken for
another kind where it can be read as one.
-/

set_option autoImplicit false
namespace AppHost

namespace Setting

/-! ### Scalars -/

def word? (s : String) : Option Bool :=
  let word := String.ofList (s.toList.map Char.toLower)
  if word = "true" ∨ word = "on" ∨ word = "yes" then some true
  else if word = "false" ∨ word = "off" ∨ word = "no" then some false
  else none

def bool? : Setting → Option Bool
  | .bool b => some b
  | .integer n => some (n ≠ 0)
  | .float x => some (x != 0.0)
  | .text s => if s = "1" then some true else if s = "0" then some false else word? s
  | _ => none

/-- A number with a fraction is rounded, a half away from zero, and brought into range. -/
def natural? : Setting → Option Nat
  | .bool b => some b.toNat
  | .integer n => if 0 ≤ n then some n.toNat else none
  | .float x => some x.round.toUInt64.toNat
  | .text s =>
    match word? s with
    | some b => some b.toNat
    | none => Numeral.natural? s.toList
  | _ => none

def floatChars (x : Float) : List Char :=
  match Real64.ofFloat x with
  | .nan => ['N', 'a', 'N']
  | .infinite negative => signChars negative ++ ['i', 'n', 'f']
  | .zero negative => signChars negative ++ ['0']
  | .finite negative c => signChars negative ++ c.positional []

def text? : Setting → Option String
  | .bool b => some (String.ofList (Json.boolChars b))
  | .integer n => some (String.ofList (Json.intChars n))
  | .float x => some (String.ofList (floatChars x))
  | .text s => some s
  | _ => none

def optionalText? : Setting → Option (Option String)
  | .nothing => some none
  | v => v.text?.map some

/-! ### Sections -/

def isSection : Setting → Bool
  | .table _ => true
  | .list _ => true
  | _ => false

def field? (v : Setting) (name : String) (position : Nat) : Option Setting :=
  match v with
  | .table entries => Entries.find? name entries
  | .list items => items[position]?
  | _ => none

def fieldOr? {α : Type} (v : Setting) (name : String) (position : Nat) (read : Setting → Option α)
    (default : α) : Option α :=
  match v.field? name position with
  | some field => read field
  | none => some default

def section? (v : Setting) : Option Setting := if v.isSection then some v else none

end Setting

namespace Settings

def logging? (v : Setting) : Option LoggingSettings := do
  let v ← v.section?
  let d : LoggingSettings := {}
  return { level := ← v.fieldOr? "level" 0 Setting.text? d.level }

def contract? (v : Setting) : Option ContractSettings := do
  let v ← v.section?
  let d : ContractSettings := {}
  return {
    listen := ← v.fieldOr? "listen" 0 Setting.text? d.listen
    socket := ← v.fieldOr? "socket" 1 Setting.optionalText? d.socket }

def admin? (v : Setting) : Option AdminSettings := do
  let v ← v.section?
  let d : AdminSettings := {}
  return {
    enabled := ← v.fieldOr? "enabled" 0 Setting.bool? d.enabled
    listen := ← v.fieldOr? "listen" 1 Setting.text? d.listen }

def host? (v : Setting) : Option HostSettings := do
  let v ← v.section?
  let d : HostSettings := {}
  return {
    heartbeatInterval := ← v.fieldOr? "heartbeat_interval_ms" 0 Setting.natural? d.heartbeatInterval
    eventBuffer := ← v.fieldOr? "event_buffer" 1 Setting.natural? d.eventBuffer
    logRetention := ← v.fieldOr? "log_retention_secs" 2 Setting.natural? d.logRetention
    applicationsDirectory :=
      ← v.fieldOr? "applications_dir" 3 Setting.optionalText? d.applicationsDirectory }

def ofSetting? (v : Setting) : Option Settings := do
  let v ← v.section?
  return {
    logging := ← v.fieldOr? "logging" 0 logging? {}
    contract := ← v.fieldOr? "grpc" 1 contract? {}
    admin := ← v.fieldOr? "admin" 2 admin? {}
    host := ← v.fieldOr? "runtime" 3 host? {} }

end Settings
end AppHost
