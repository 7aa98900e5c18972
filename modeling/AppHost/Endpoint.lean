import AppHost.Text.Quoted

/-! Where a runtime can be reached: at an HTTP address or at a Unix socket. The written form reads
back, and reading accepts nothing else. -/

set_option autoImplicit false
namespace AppHost

inductive Endpoint
  | tcp (url : String)
  | unix (path : String)
  deriving DecidableEq, Repr

inductive EndpointError
  | missingPath
  | unsupported (text : String)
  deriving DecidableEq, Repr

def EndpointError.message : EndpointError → String
  | .missingPath => "unix endpoint needs a socket path"
  | .unsupported text =>
    "unsupported endpoint " ++ Text.quoted text ++ ": expected http://host:port or unix:/path"

namespace Endpoint

def after? : List Char → List Char → Option (List Char)
  | [], cs => some cs
  | _ :: _, [] => none
  | b :: bs, c :: cs => if b = c then after? bs cs else none

theorem after?_eq_some_iff {start cs rest : List Char} :
    after? start cs = some rest ↔ cs = start ++ rest := by
  induction start generalizing cs with
  | nil => exact Option.some_inj
  | cons b bs ih =>
    cases cs with
    | nil => exact ⟨nofun, nofun⟩
    | cons c cs =>
      rw [after?, List.cons_append, List.cons.injEq]
      split
      · rename_i same
        rw [ih, and_iff_right same.symm]
      · rename_i different
        exact ⟨nofun, fun same => absurd same.1.symm different⟩

def parse (text : String) : Except EndpointError Endpoint :=
  match after? "unix:".toList text.toList with
  | some [] => .error .missingPath
  | some path => .ok (.unix (String.ofList path))
  | none =>
    if (after? "http://".toList text.toList).isSome || (after? "https://".toList text.toList).isSome
    then .ok (.tcp text)
    else .error (.unsupported text)

def text : Endpoint → String
  | .tcp url => url
  | .unix path => "unix:" ++ path

end Endpoint
end AppHost
