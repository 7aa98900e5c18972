/-! Text as UTF-8 bytes, and back. Reading accepts exactly what writing produces. -/

set_option autoImplicit false
namespace AppHost.Text

def encodeUtf8 (text : String) : List UInt8 := text.toByteArray.data.toList

def decodeUtf8? (bytes : List UInt8) : Option String := String.fromUTF8? ⟨bytes.toArray⟩

theorem decodeUtf8?_encodeUtf8 (text : String) : decodeUtf8? (encodeUtf8 text) = some text := by
  have valid : text.toByteArray.IsValidUTF8 := text.isValidUTF8
  have same : (⟨(encodeUtf8 text).toArray⟩ : ByteArray) = text.toByteArray := by
    simp [encodeUtf8]
  unfold decodeUtf8?
  rw [same]
  exact dif_pos valid

theorem encodeUtf8_of_decodeUtf8? {bytes : List UInt8} {text : String}
    (decoded : decodeUtf8? bytes = some text) : encodeUtf8 text = bytes := by
  simp only [decodeUtf8?, String.fromUTF8?] at decoded
  split at decoded
  · cases decoded
    simp [encodeUtf8, String.fromUTF8]
  · cases decoded

def utf8Length : List Char → Nat
  | [] => 0
  | c :: rest => c.utf8Size + utf8Length rest

end AppHost.Text
