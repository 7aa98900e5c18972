import AppHost.Proofs.Attempts
import AppHost.Proofs.Text.Lossy
import AppHost.Settings.Load

/-!
Loading from a file that holds a text. The text is read as it was written, unless it starts with a mark
of the byte order, and what its document sets is all that the loading takes from it.
-/

set_option autoImplicit false
namespace AppHost.Settings
variable {t : FileTree} {e : Environment} {file : Path} {s : Settings}
  {entries : List (String × Setting)} {text : String}

theorem documentText_encodeUtf8 (unmarked : text.toList.head? ≠ some '\uFEFF') :
    documentText (Text.encodeUtf8 text) = text := by
  have back := Text.decodeLossy_encodeUtf8 text
  unfold documentText
  split
  · rename_i rest marked
    -- Bytes that start with the mark are read as a text that does.
    have known : Text.tailRanges 0xEF = some [(0x80, 0xBF), (0x80, 0xBF)] := rfl
    have mark : Text.decodeLossy (0xEF :: [0xBB, 0xBF] ++ rest) =
        '\uFEFF' :: Text.decodeLossy rest :=
      Text.decodeLossy_of_ranges known (.cons (by decide) (.cons (by decide) .nil)) rest
    rw [marked] at back
    exact absurd (congrArg List.head? (back.symm.trans mark)) unmarked
  · rw [back, String.ofList_toList]

theorem fileEntries_of_missing (missing : fileContent? t file = none) :
    fileEntries t file = .ok [] := by
  rw [fileEntries, missing]

theorem fileEntries_of_text (read : fileContent? t file = some (Text.encodeUtf8 text))
    (unmarked : text.toList.head? ≠ some '\uFEFF') :
    fileEntries t file =
      match documentEntries? text with
      | some entries => .ok entries
      | none => .error (.unreadable file) := by
  have content : documentText (Text.encodeUtf8 text) = text := documentText_encodeUtf8 unmarked
  cases found : documentEntries? text with
  | some entries => simp only [fileEntries, read, content, found]
  | none => simp only [fileEntries, read, content, found]

theorem fileContent?_of_read? {bytes : List UInt8} (read : t.read? file = some bytes) :
    fileContent? t file = some bytes := by
  rw [fileContent?, read]
  rfl

theorem load_eq_ok (loaded : load t e file = .ok s) :
    ∃ entries, fileEntries t file = .ok entries ∧
      ofSetting? (combined (.ofTable e.slot entries) (.ofEnvironment e)) = some s := by
  obtain ⟨entries, given, taken⟩ := bind_eq_ok loaded
  refine ⟨entries, given, ?_⟩
  split at taken
  · rename_i found
    cases taken
    exact found
  · cases taken

theorem load_of_entries (given : fileEntries t file = .ok entries)
    (taken : ofSetting? (combined (.ofTable e.slot entries) (.ofEnvironment e)) = some s) :
    load t e file = .ok s := by
  simp only [load, given, bind, Except.bind, taken]
  rfl

theorem load_of_text (read : fileContent? t file = some (Text.encodeUtf8 text))
    (unmarked : text.toList.head? ≠ some '\uFEFF')
    (taken : ((documentEntries? text).bind fun entries =>
      ofSetting? (combined (.ofTable e.slot entries) (.ofEnvironment e))) = some s) :
    load t e file = .ok s := by
  obtain ⟨entries, document, taken⟩ := Option.bind_eq_some_iff.1 taken
  refine load_of_entries ?_ taken
  rw [fileEntries_of_text read unmarked, document]

end AppHost.Settings
