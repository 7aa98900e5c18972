import AppHost.Power

/-!
Whole numbers below 2^64 in groups of seven bits, least group first; every byte but the last has its
top bit set. Main statement: reading gives back what was written, with all that follows it.
-/

set_option autoImplicit false
namespace AppHost.Wire

/-- Writes groups until the rest fits one byte, the fuel counting further bytes. -/
def varintFrom : Nat → Nat → List UInt8
  | 0, n => [UInt8.ofNat n]
  | fuel + 1, n =>
    if n < 128 then [UInt8.ofNat n] else UInt8.ofNat (n % 128 + 128) :: varintFrom fuel (n / 128)

def varint (n : Nat) : List UInt8 := varintFrom 9 n

/-- Reads groups of weight `128 ^ place` and more. The tenth byte has room for one bit only. -/
def readVarintFrom : Nat → List UInt8 → Option (Nat × List UInt8)
  | _, [] => none
  | place, b :: rest =>
    if place = 9 then if b.toNat < 2 then some (b.toNat, rest) else none
    else if b.toNat < 128 then some (b.toNat, rest)
    else (readVarintFrom (place + 1) rest).map fun (n, rest) => (b.toNat - 128 + 128 * n, rest)

def readVarint (bytes : List UInt8) : Option (Nat × List UInt8) := readVarintFrom 0 bytes

theorem readVarintFrom_varintFrom (fuel : Nat) (n : Nat) (rest : List UInt8) (le : fuel ≤ 9)
    (small : n < 2 * 128 ^ fuel) :
    readVarintFrom (9 - fuel) (varintFrom fuel n ++ rest) = some (n, rest) := by
  induction fuel generalizing n with
  | zero =>
    have : n < 2 := by simpa using small
    simp [varintFrom, readVarintFrom, Nat.mod_eq_of_lt (show n < 256 by omega), this]
  | succ fuel ih =>
    have place : 9 - (fuel + 1) ≠ 9 := by omega
    by_cases short : n < 128
    · simp [varintFrom, readVarintFrom, short, Nat.mod_eq_of_lt (show n < 256 by omega)]
      omega
    · have next : 9 - (fuel + 1) + 1 = 9 - fuel := by omega
      have lower : n / 128 < 2 * 128 ^ fuel := by
        rw [Nat.pow_succ] at small
        omega
      have byte : (n % 128 + 128) % 256 = n % 128 + 128 := by omega
      simp only [varintFrom, short, if_false, List.cons_append, readVarintFrom, place,
        UInt8.toNat_ofNat', next, ih _ (by omega) lower, Option.map_some]
      rw [byte, if_neg (by omega)]
      simp only [Option.some.injEq, Prod.mk.injEq, and_true]
      omega

theorem readVarint_varint {n : Nat} (small : n < 2 ^ 64) (rest : List UInt8) :
    readVarint (varint n ++ rest) = some (n, rest) :=
  readVarintFrom_varintFrom 9 n rest (Nat.le_refl _) (by simpa using small)

end AppHost.Wire
