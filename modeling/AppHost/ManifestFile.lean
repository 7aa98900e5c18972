import AppHost.Manifest
import AppHost.Toml.Reader

/-! Manifests written in TOML. A date or time in a reply becomes an object of one field. -/

set_option autoImplicit false
namespace AppHost

namespace Toml.Value

mutual
/-- The JSON value of a TOML value; numbers that are not finite stay as they are. -/
def toJson : Toml.Value → Json.Value
  | .string s => .string s
  | .integer n => .number (.int n)
  | .float x => .number (.float x)
  | .bool b => .bool b
  | .datetime t => .object [("$__toml_private_datetime", .string t)]
  | .array items => .array (itemsToJson items)
  | .table entries => .object (Json.Value.arrange (entriesToJson entries))
termination_by structural v => v
def itemsToJson : List Toml.Value → List Json.Value
  | [] => []
  | v :: rest => v.toJson :: itemsToJson rest
termination_by structural items => items
def entriesToJson : List (String × Toml.Value) → List (String × Json.Value)
  | [] => []
  | e :: rest => entryToJson e :: entriesToJson rest
termination_by structural entries => entries
def entryToJson : String × Toml.Value → String × Json.Value
  | (k, v) => (k, v.toJson)
termination_by structural e => e
end

end Toml.Value

inductive ManifestError
  | unreadable
  | invalid (reason : RuntimeError)
  deriving DecidableEq, Repr

def ManifestError.message : ManifestError → String
  | .unreadable => "parsing application manifest"
  | .invalid reason => reason.message

namespace Manifest

def validated (m : Manifest) : Except ManifestError Manifest :=
  match m.validate with
  | .ok () => .ok m
  | .error reason => .error (.invalid reason)

def parse? (text : String) : Option Manifest := (Toml.parse? text).bind fun v => ofValue? v.toJson

def ofToml (text : String) : Except ManifestError Manifest :=
  match parse? text with
  | some m => m.validated
  | none => .error .unreadable

end Manifest
end AppHost
