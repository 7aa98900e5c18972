import AppHost.Text.Lossy
import Mathlib.Data.List.Forall2

/-!
Text that is UTF-8 is read as it was written, also where reading would put up with other bytes. Each
character starts with a byte that tells how many follow, and in which ranges.
-/

set_option autoImplicit false
namespace AppHost.Text

theorem encodeUtf8_eq (text : String) :
    encodeUtf8 text = text.toList.flatMap String.utf8EncodeChar := by
  conv => lhs; rw [← String.ofList_toList (s := text)]
  simp only [encodeUtf8, String.toByteArray_ofList, List.utf8Encode, List.data_toByteArray]

theorem fitting_append {ranges : List (UInt8 × UInt8)} {tail : List UInt8}
    (each : List.Forall₂ (fun range b => range.1 ≤ b ∧ b ≤ range.2) ranges tail)
    (rest : List UInt8) : fitting ranges (tail ++ rest) = ranges.length := by
  induction each with
  | nil => simp [fitting]
  | cons fits _ ih => simp [fitting, fits, ih]

theorem decodeLossy_of_ranges {lead : UInt8} {ranges : List (UInt8 × UInt8)} {tail : List UInt8}
    (known : tailRanges lead = some ranges)
    (each : List.Forall₂ (fun range b => range.1 ≤ b ∧ b ≤ range.2) ranges tail)
    (rest : List UInt8) :
    decodeLossy (lead :: tail ++ rest) = Char.ofNat (scalar lead tail) :: decodeLossy rest := by
  rw [List.cons_append, decodeLossy, known]
  simp [fitting_append each, each.length_eq]

theorem toNat_ofNat_of_lt {n : Nat} (small : n < 256) : (UInt8.ofNat n).toNat = n :=
  Nat.mod_eq_of_lt small

theorem between (low high : Nat) {n : Nat} (above : low ≤ n) (below : n ≤ high) (small : high < 256) :
    UInt8.ofNat low ≤ UInt8.ofNat n ∧ UInt8.ofNat n ≤ UInt8.ofNat high := by
  rw [UInt8.le_iff_toNat_le, UInt8.le_iff_toNat_le, toNat_ofNat_of_lt (n := low) (by omega),
    toNat_ofNat_of_lt (n := n) (by omega), toNat_ofNat_of_lt small]
  exact ⟨above, below⟩

theorem continues (n : Nat) :
    (0x80 : UInt8) ≤ UInt8.ofNat (n % 64 + 128) ∧ UInt8.ofNat (n % 64 + 128) ≤ (0xBF : UInt8) :=
  between 0x80 0xBF (by omega) (by omega) (by omega)

theorem tailRanges_ofNat {n : Nat} (small : n < 256) :
    tailRanges (UInt8.ofNat n) =
      if n < 0x80 then some []
      else if n < 0xC2 then none
      else if n < 0xE0 then some [(0x80, 0xBF)]
      else if n = 0xE0 then some [(0xA0, 0xBF), (0x80, 0xBF)]
      else if n = 0xED then some [(0x80, 0x9F), (0x80, 0xBF)]
      else if n < 0xF0 then some [(0x80, 0xBF), (0x80, 0xBF)]
      else if n = 0xF0 then some [(0x90, 0xBF), (0x80, 0xBF), (0x80, 0xBF)]
      else if n < 0xF4 then some [(0x80, 0xBF), (0x80, 0xBF), (0x80, 0xBF)]
      else if n = 0xF4 then some [(0x80, 0x8F), (0x80, 0xBF), (0x80, 0xBF)]
      else none := by
  unfold tailRanges
  simp only [UInt8.lt_iff_toNat_lt, ← UInt8.toNat_inj, toNat_ofNat_of_lt small]
  rfl

/-- After the first byte of a character of three bytes, neither a shorter form nor a surrogate may
follow. -/
theorem tailRanges_of_three {n : Nat} (above : 0x7FF < n) (below : n < 0x10000)
    (valid : n < 0xD800 ∨ 0xDFFF < n) :
    ∃ range : UInt8 × UInt8,
      tailRanges (UInt8.ofNat (n / 4096 % 16 + 224)) = some [range, (0x80, 0xBF)] ∧
        range.1 ≤ UInt8.ofNat (n / 64 % 64 + 128) ∧ UInt8.ofNat (n / 64 % 64 + 128) ≤ range.2 := by
  rw [tailRanges_ofNat (by omega), if_neg (by omega), if_neg (by omega), if_neg (by omega)]
  split
  · exact ⟨_, rfl, between 0xA0 0xBF (by omega) (by omega) (by omega)⟩
  split
  · exact ⟨_, rfl, between 0x80 0x9F (by omega) (by omega) (by omega)⟩
  · rw [if_pos (by omega)]
    exact ⟨_, rfl, continues _⟩

/-- After the first byte of a character of four bytes, neither a shorter form nor a number beyond the
last character's may follow. -/
theorem tailRanges_of_four {n : Nat} (above : 0xFFFF < n) (below : n < 0x110000) :
    ∃ range : UInt8 × UInt8,
      tailRanges (UInt8.ofNat (n / 262144 % 8 + 240)) = some [range, (0x80, 0xBF), (0x80, 0xBF)] ∧
        range.1 ≤ UInt8.ofNat (n / 4096 % 64 + 128) ∧
          UInt8.ofNat (n / 4096 % 64 + 128) ≤ range.2 := by
  rw [tailRanges_ofNat (by omega), if_neg (by omega), if_neg (by omega), if_neg (by omega),
    if_neg (by omega), if_neg (by omega), if_neg (by omega)]
  split
  · exact ⟨_, rfl, between 0x90 0xBF (by omega) (by omega) (by omega)⟩
  split
  · exact ⟨_, rfl, continues _⟩
  · rw [if_pos (by omega)]
    exact ⟨_, rfl, between 0x80 0x8F (by omega) (by omega) (by omega)⟩

theorem decodeLossy_encodeChar (c : Char) (rest : List UInt8) :
    decodeLossy (String.utf8EncodeChar c ++ rest) = c :: decodeLossy rest := by
  have valid : c.toNat < 0xD800 ∨ 0xDFFF < c.toNat ∧ c.toNat < 0x110000 := c.valid
  have back : Char.ofNat c.toNat = c := Char.ofNat_toNat c
  have number : c.val.toNat = c.toNat := rfl
  simp only [String.utf8EncodeChar, number]
  generalize c.toNat = n at valid back
  -- One case for each number of bytes.
  split
  · have known : tailRanges (UInt8.ofNat n) = some [] := by
      rw [tailRanges_ofNat (by omega), if_pos (by omega)]
    have whole : scalar (UInt8.ofNat n) [] = n := by
      simp only [scalar, List.length_nil, List.foldl_nil]
      rw [toNat_ofNat_of_lt (by omega)]
    rw [decodeLossy_of_ranges known .nil, whole, back]
  split
  · have known : tailRanges (UInt8.ofNat (n / 64 % 32 + 192)) = some [(0x80, 0xBF)] := by
      rw [tailRanges_ofNat (by omega), if_neg (by omega), if_neg (by omega), if_pos (by omega)]
    rw [decodeLossy_of_ranges known (.cons (continues _) .nil), ← back]
    congr 2
    simp only [scalar, List.length_cons, List.length_nil, List.foldl_cons, List.foldl_nil]
    rw [toNat_ofNat_of_lt (by omega), toNat_ofNat_of_lt (by omega)]
    omega
  split
  · obtain ⟨range, known, fits⟩ := tailRanges_of_three (n := n) (by omega) (by omega) (by omega)
    rw [decodeLossy_of_ranges known (.cons fits (.cons (continues _) .nil)), ← back]
    congr 2
    simp only [scalar, List.length_cons, List.length_nil, List.foldl_cons, List.foldl_nil]
    rw [toNat_ofNat_of_lt (by omega), toNat_ofNat_of_lt (by omega), toNat_ofNat_of_lt (by omega)]
    omega
  · obtain ⟨range, known, fits⟩ := tailRanges_of_four (n := n) (by omega) (by omega)
    rw [decodeLossy_of_ranges known (.cons fits (.cons (continues _) (.cons (continues _) .nil))),
      ← back]
    congr 2
    simp only [scalar, List.length_cons, List.length_nil, List.foldl_cons, List.foldl_nil]
    rw [toNat_ofNat_of_lt (by omega), toNat_ofNat_of_lt (by omega), toNat_ofNat_of_lt (by omega),
      toNat_ofNat_of_lt (by omega)]
    omega

theorem decodeLossy_encodeUtf8 (text : String) : decodeLossy (encodeUtf8 text) = text.toList := by
  rw [encodeUtf8_eq]
  induction text.toList with
  | nil => simp [decodeLossy]
  | cons c cs ih => rw [List.flatMap_cons, decodeLossy_encodeChar, ih]

end AppHost.Text
