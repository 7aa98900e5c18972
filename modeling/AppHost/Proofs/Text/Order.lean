import AppHost.Proofs.Text.Lossy

/-!
Texts compare as their bytes do. A character of a higher number has a higher first byte, or the same
one and then a higher byte before any that is lower.
-/

set_option autoImplicit false
namespace AppHost.Text

theorem encodeChar_lt {c d : Char} (below : c < d) (rest others : List UInt8) :
    String.utf8EncodeChar c ++ rest < String.utf8EncodeChar d ++ others := by
  have less : c.toNat < d.toNat := below
  have limit : d.toNat < 0x110000 := by
    have valid : d.toNat < 0xD800 ∨ 0xDFFF < d.toNat ∧ d.toNat < 0x110000 := d.valid
    omega
  have first : c.val.toNat = c.toNat := rfl
  have second : d.val.toNat = d.toNat := rfl
  simp only [String.utf8EncodeChar, first, second]
  generalize c.toNat = n at less
  generalize d.toNat = m at less limit
  -- Six bits are taken off at a time.
  have sextets {k : Nat} (limit : k < 0x110000) :
      k / 64 / 64 = k / 4096 ∧ k / 4096 / 64 = k / 262144 ∧ k / 262144 % 8 = k / 262144 := by
    refine ⟨Nat.div_div_eq_div_mul k 64 64, Nat.div_div_eq_div_mul k 4096 64, ?_⟩
    exact Nat.mod_eq_of_lt (by omega)
  obtain ⟨low, high, top⟩ := sextets (Nat.lt_trans less limit)
  obtain ⟨low', high', top'⟩ := sextets limit
  -- One case for each number of bytes that the two characters have.
  split_ifs
  all_goals
    simp (disch := omega) only [List.cons_append, List.nil_append, List.cons_lt_cons_iff,
      UInt8.lt_iff_toNat_lt, ← UInt8.toNat_inj, toNat_ofNat_of_lt]
    omega

theorem flatMap_encodeChar_lt {a b : List Char} (below : a < b) :
    a.flatMap String.utf8EncodeChar < b.flatMap String.utf8EncodeChar := by
  induction below with
  | nil =>
    rename_i c b
    obtain ⟨byte, bytes, encoded⟩ : ∃ byte bytes, String.utf8EncodeChar c = byte :: bytes :=
      List.exists_cons_of_length_pos (String.length_utf8EncodeChar c ▸ c.utf8Size_pos)
    rw [List.flatMap_cons, encoded]
    exact .nil
  | rel less => exact encodeChar_lt less _ _
  | cons _ ih =>
    rw [List.flatMap_cons, List.flatMap_cons]
    exact List.append_left_lt ih

theorem encodeUtf8_lt_of_lt {a b : String} (below : a < b) : encodeUtf8 a < encodeUtf8 b := by
  rw [encodeUtf8_eq, encodeUtf8_eq]
  exact flatMap_encodeChar_lt (String.lt_iff.1 below)

end AppHost.Text
