import AppHost.Text.Lossy
import AppHost.Text.Split

/-!
The target of a request: a path of segments, and a query of names and values. Both may hold bytes
written as a percent sign and two hexadecimal digits; in a query a plus sign is a space.
-/

set_option autoImplicit false
namespace AppHost.Admin

def hexDigit? (b : UInt8) : Option UInt8 :=
  if 48 ≤ b ∧ b ≤ 57 then some (b - 48)
  else if 65 ≤ b ∧ b ≤ 70 then some (b - 55)
  else if 97 ≤ b ∧ b ≤ 102 then some (b - 87)
  else none

/-- A percent sign without two digits after it stands for itself. -/
def percentDecode : List UInt8 → List UInt8
  | 37 :: a :: b :: rest =>
    match hexDigit? a, hexDigit? b with
    | some high, some low => (high * 16 + low) :: percentDecode rest
    | _, _ => 37 :: percentDecode (a :: b :: rest)
  | b :: rest => b :: percentDecode rest
  | [] => []

structure Target where
  segments : List String
  query : List (String × String)
  deriving DecidableEq, Repr

def segmentText? (segment : String) : Option String :=
  Text.decodeUtf8? (percentDecode (Text.encodeUtf8 segment))

def queryText (written : List Char) : String :=
  let spaced := written.map fun c => if c = '+' then ' ' else c
  String.ofList (Text.decodeLossy (percentDecode (Text.encodeUtf8 (String.ofList spaced))))

/-- Names and values of a query; empty parts are passed over, and a name without a sign of equality
has the empty value. -/
def queryPairs (cs : List Char) : List (String × String) :=
  ((Text.splitOn '&' cs).filter fun part => !part.isEmpty).map fun part =>
    (queryText (part.takeWhile (· ≠ '=')), queryText ((part.dropWhile (· ≠ '=')).drop 1))

/-- What follows the host in a target that names one, as in `http://host/path`. -/
def afterHost (cs : List Char) : List Char :=
  match cs.dropWhile Char.isAlphanum with
  | ':' :: '/' :: '/' :: rest => rest.dropWhile fun c => c ≠ '/' && c ≠ '?'
  | _ => cs

namespace Target

/-- Reads a target; a host and a fragment are cut off. -/
def parse (written : String) : Target :=
  let whole := afterHost (written.toList.takeWhile (· ≠ '#'))
  let path := whole.takeWhile (· ≠ '?')
  { segments := ((Text.splitOn '/' path).drop 1).map String.ofList
    query := queryPairs ((whole.dropWhile (· ≠ '?')).drop 1) }

end Target
end AppHost.Admin
