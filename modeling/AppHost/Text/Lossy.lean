import AppHost.Text.Utf8

/-! Text from bytes of which some may not be UTF-8. Whatever cannot be read becomes U+FFFD, once for
each longest beginning of a character. -/

set_option autoImplicit false
namespace AppHost.Text

/-- The ranges in which the bytes after a given first byte of a character must lie. -/
def tailRanges (lead : UInt8) : Option (List (UInt8 × UInt8)) :=
  let any : UInt8 × UInt8 := (0x80, 0xBF)
  if lead < 0x80 then some []
  else if lead < 0xC2 then none
  else if lead < 0xE0 then some [any]
  else if lead = 0xE0 then some [(0xA0, 0xBF), any]
  else if lead = 0xED then some [(0x80, 0x9F), any]
  else if lead < 0xF0 then some [any, any]
  else if lead = 0xF0 then some [(0x90, 0xBF), any, any]
  else if lead < 0xF4 then some [any, any, any]
  else if lead = 0xF4 then some [(0x80, 0x8F), any, any]
  else none

def fitting : List (UInt8 × UInt8) → List UInt8 → Nat
  | (low, high) :: ranges, b :: rest => if low ≤ b ∧ b ≤ high then fitting ranges rest + 1 else 0
  | _, _ => 0

def scalar (lead : UInt8) (tail : List UInt8) : Nat :=
  let start := match tail.length with
    | 0 => lead.toNat
    | 1 => lead.toNat % 32
    | 2 => lead.toNat % 16
    | _ => lead.toNat % 8
  tail.foldl (fun n b => n * 64 + b.toNat % 64) start

def decodeLossy : List UInt8 → List Char
  | [] => []
  | lead :: rest =>
    match tailRanges lead with
    | none => '\uFFFD' :: decodeLossy rest
    | some ranges =>
      let length := fitting ranges rest
      let c := if length = ranges.length then Char.ofNat (scalar lead (rest.take length))
        else '\uFFFD'
      c :: decodeLossy (rest.drop length)
termination_by bytes => bytes.length
decreasing_by
  · exact Nat.lt_succ_self rest.length
  · exact Nat.lt_succ_of_le (List.drop_sublist _ rest).length_le

end AppHost.Text
