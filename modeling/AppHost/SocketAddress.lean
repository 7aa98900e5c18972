import AppHost.Power
import AppHost.Text.Split

/-!
Addresses to listen on: an address of version 4 or 6 of the Internet Protocol, and a port. Groups of
version 6 are read with one run of zeros left out or an address of version 4 in the last two places,
and written in the shortest form.
-/

set_option autoImplicit false
namespace AppHost

inductive SocketAddress
  | v4 (octets : Vector UInt8 4) (port : UInt16)
  | v6 (groups : Vector UInt16 8) (scope : UInt32) (port : UInt16)
  deriving DecidableEq, Repr

namespace SocketAddress

/-! ### Reading -/

def digitValue? (base : Nat) (c : Char) : Option Nat :=
  let value := if c.isDigit then some (c.toNat - 48)
    else if 'a' ≤ c ∧ c ≤ 'f' then some (c.toNat - 87)
    else if 'A' ≤ c ∧ c ≤ 'F' then some (c.toNat - 55)
    else none
  value.filter (· < base)

def isDigitOf (base : Nat) (c : Char) : Bool := (digitValue? base c).isSome

def number? (base bound : Nat) (cs : List Char) : Option (Nat × List Char) :=
  let digits := cs.takeWhile (isDigitOf base)
  let n := digits.foldl (fun n d => n * base + (digitValue? base d).getD 0) 0
  if digits.isEmpty ∨ bound ≤ n then none else some (n, cs.dropWhile (isDigitOf base))

def shortNumber? (base most bound : Nat) (cs : List Char) : Option (Nat × List Char) :=
  if most < (cs.takeWhile (isDigitOf base)).length then none else number? base bound cs

def char? (c : Char) : List Char → Option (List Char)
  | d :: rest => if d = c then some rest else none
  | [] => none

/-- A number of at most three digits without leading zeros. -/
def octet? (cs : List Char) : Option (UInt8 × List Char) :=
  if cs.head? = some '0' ∧ 1 < (cs.takeWhile (isDigitOf 10)).length then none
  else (shortNumber? 10 3 256 cs).map fun (n, rest) => (UInt8.ofNat n, rest)

def octets? (cs : List Char) : Option (Vector UInt8 4 × List Char) := do
  let (a, cs) ← octet? cs
  let (b, cs) ← octet? (← char? '.' cs)
  let (c, cs) ← octet? (← char? '.' cs)
  let (d, cs) ← octet? (← char? '.' cs)
  return (#v[a, b, c, d], cs)

def join (high low : UInt8) : UInt16 := UInt16.ofNat (high.toNat * 256 + low.toNat)

def afterColon {α : Type} (first : Bool) (read : List Char → Option (α × List Char))
    (cs : List Char) : Option (α × List Char) :=
  if first then read cs else (char? ':' cs).bind read

/-- As many groups as come next, up to a limit, and whether they end with an address of version
4. -/
def groups (first : Bool) : Nat → List Char → List UInt16 × Bool × List Char
  | 0, cs => ([], false, cs)
  | limit + 1, cs =>
    match if limit = 0 then none else afterColon first octets? cs with
    | some (o, rest) => ([join o[0] o[1], join o[2] o[3]], true, rest)
    | none =>
      match afterColon first (shortNumber? 16 4 (2 ^ 16)) cs with
      | none => ([], false, cs)
      | some (n, rest) =>
        let (more, ends, rest) := groups false limit rest
        (UInt16.ofNat n :: more, ends, rest)

def filled (head tail : List UInt16) : Vector UInt16 8 :=
  let all := head ++ List.replicate (8 - head.length - tail.length) 0 ++ tail
  Vector.ofFn fun i => all.getD i 0

def groups? (cs : List Char) : Option (Vector UInt16 8 × List Char) :=
  match groups true 8 cs with
  | (head, ends, rest) =>
    if head.length = 8 then some (filled head [], rest)
    else if ends then none
    else do
      let rest ← char? ':' (← char? ':' rest)
      let (tail, _, rest) := groups true (7 - head.length) rest
      return (filled head tail, rest)

def port? (cs : List Char) : Option (UInt16 × List Char) := do
  let (n, rest) ← number? 10 (2 ^ 16) (← char? ':' cs)
  return (UInt16.ofNat n, rest)

/-- A scope behind a percent sign; none is scope zero. -/
def scope (cs : List Char) : UInt32 × List Char :=
  match (char? '%' cs).bind (number? 10 (2 ^ 32)) with
  | some (n, rest) => (UInt32.ofNat n, rest)
  | none => (0, cs)

def v4? (cs : List Char) : Option (SocketAddress × List Char) := do
  let (octets, rest) ← octets? cs
  let (port, rest) ← port? rest
  return (.v4 octets port, rest)

def v6? (cs : List Char) : Option (SocketAddress × List Char) := do
  let (groups, rest) ← groups? (← char? '[' cs)
  let (scope, rest) := scope rest
  let (port, rest) ← port? (← char? ']' rest)
  return (.v6 groups scope port, rest)

def parse? (text : String) : Option SocketAddress :=
  match v4? text.toList <|> v6? text.toList with
  | some (a, []) => some a
  | _ => none

/-! ### Writing -/

def decimal (n : Nat) : List Char := Nat.toDigits 10 n

def hexadecimal (n : Nat) : List Char := Nat.toDigits 16 n

def octetChars (octets : List UInt8) : List Char :=
  Text.joinWith ['.'] (octets.map fun o => decimal o.toNat)

def groupChars (groups : List UInt16) : List Char :=
  Text.joinWith [':'] (groups.map fun g => hexadecimal g.toNat)

def zeroRun (groups : List UInt16) : Nat := (groups.takeWhile (· == 0)).length

/-- Start and length of the first of the longest runs of zeros. -/
def longestZeros : List UInt16 → Nat → Nat × Nat
  | [], start => (start, 0)
  | g :: rest, start =>
    let later := longestZeros rest (start + 1)
    let here := zeroRun (g :: rest)
    if later.2 ≤ here then (start, here) else later

def groupsChars (groups : List UInt16) : List Char :=
  match groups with
  | [0, 0, 0, 0, 0, 0xFFFF, a, b] =>
    ':' :: ':' :: 'f' :: 'f' :: 'f' :: 'f' :: ':' ::
      octetChars ([a.toNat / 256, a.toNat % 256, b.toNat / 256, b.toNat % 256].map UInt8.ofNat)
  | groups =>
    let (start, length) := longestZeros groups 0
    if length ≤ 1 then groupChars groups
    else groupChars (groups.take start) ++ ':' :: ':' :: groupChars (groups.drop (start + length))

def chars : SocketAddress → List Char
  | .v4 octets port => octetChars octets.toList ++ ':' :: decimal port.toNat
  | .v6 groups scope port =>
    '[' :: groupsChars groups.toList ++
      (if scope = 0 then [] else '%' :: decimal scope.toNat) ++ ']' :: ':' :: decimal port.toNat

def text (a : SocketAddress) : String := String.ofList a.chars

end SocketAddress
end AppHost
