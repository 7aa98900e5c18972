import AppHost.Endpoint

/-!
Endpoints and the texts that name them. A text is read exactly when it is the written form of an
endpoint with a path or a scheme, and it is read as that endpoint; any other text is refused.
-/

set_option autoImplicit false
namespace AppHost.Endpoint
variable {written : String} {e : Endpoint}

/-! ### What a text begins with -/

theorem after?_toList_append (scheme rest : String) :
    after? scheme.toList (scheme ++ rest).toList = some rest.toList := by
  rw [after?_eq_some_iff, String.toList_append]

theorem isSome_after?_iff (scheme written : String) :
    (after? scheme.toList written.toList).isSome = true ↔ ∃ rest, written = scheme ++ rest := by
  constructor
  · intro found
    obtain ⟨rest, found⟩ := Option.isSome_iff_exists.1 found
    have whole : written.toList = scheme.toList ++ rest := after?_eq_some_iff.1 found
    refine ⟨String.ofList rest, ?_⟩
    rw [← String.toList_inj, String.toList_append, String.toList_ofList, whole]
  · rintro ⟨rest, rfl⟩
    rw [after?_toList_append, Option.isSome_some]

def IsAddress (written : String) : Prop :=
  (∃ rest, written = "http://" ++ rest) ∨ ∃ rest, written = "https://" ++ rest

theorem isAddress_iff :
    ((after? "http://".toList written.toList).isSome ||
      (after? "https://".toList written.toList).isSome) = true ↔ IsAddress written := by
  rw [Bool.or_eq_true, isSome_after?_iff, isSome_after?_iff]
  rfl

instance : DecidablePred IsAddress := fun _ => decidable_of_iff _ isAddress_iff

theorem not_isAddress_socket (path : String) : ¬IsAddress ("unix:" ++ path) := by
  have found := after?_toList_append "unix:" path
  -- The first letters differ, so that the reader of a socket finds nothing in an address.
  rintro (⟨rest, same⟩ | ⟨rest, same⟩)
  · rw [same, String.toList_append] at found
    cases found
  · rw [same, String.toList_append] at found
    cases found

/-! ### What a text is read as -/

theorem parse_socket (path : String) :
    parse ("unix:" ++ path) = if path = "" then .error .missingPath else .ok (.unix path) := by
  rw [parse, after?_toList_append]
  split
  · rename_i none
    rw [if_pos (String.toList_eq_nil_iff.1 (Option.some.inj none))]
  · rename_i chars given whole
    cases whole
    rw [if_neg (fun none => given (String.toList_eq_nil_iff.2 none)), String.ofList_toList]
  · contradiction

theorem parse_of_not_socket (other : ∀ path, written ≠ "unix:" ++ path) :
    parse written =
      if IsAddress written then .ok (.tcp written) else .error (.unsupported written) := by
  have none : after? "unix:".toList written.toList = none := by
    rw [← Option.not_isSome_iff_eq_none, isSome_after?_iff, not_exists]
    exact other
  simp only [parse, none, isAddress_iff]

def IsComplete : Endpoint → Prop
  | tcp url => IsAddress url
  | unix path => path ≠ ""

theorem parse_text (e : Endpoint) (complete : e.IsComplete) : parse e.text = .ok e := by
  cases e with
  | tcp url =>
    rw [text, parse_of_not_socket]
    · exact if_pos complete
    rintro path rfl
    exact not_isAddress_socket path complete
  | unix path => rw [text, parse_socket, if_neg complete]

/-- A text that names no endpoint is refused for the path that it lacks, or else as a whole. -/
theorem parse_cases (written : String) :
    (∃ e : Endpoint, e.IsComplete ∧ e.text = written ∧ parse written = .ok e) ∨
      (written = "unix:" ∧ parse written = .error .missingPath) ∨
      ((∀ path, written ≠ "unix:" ++ path) ∧ ¬IsAddress written ∧
        parse written = .error (.unsupported written)) := by
  by_cases socket : ∃ path, written = "unix:" ++ path
  · obtain ⟨path, rfl⟩ := socket
    by_cases none : path = ""
    · subst none
      exact .inr (.inl ⟨rfl, parse_socket ""⟩)
    · exact .inl ⟨.unix path, none, rfl, parse_text (.unix path) none⟩
  · have other := not_exists.1 socket
    by_cases address : IsAddress written
    · exact .inl ⟨.tcp written, address, rfl, parse_text (.tcp written) address⟩
    · refine .inr (.inr ⟨other, address, ?_⟩)
      rw [parse_of_not_socket other, if_neg address]

theorem parse_eq_ok_iff : parse written = .ok e ↔ e.IsComplete ∧ e.text = written := by
  constructor
  · intro read
    rcases parse_cases written with ⟨_, complete, shown, same⟩ | ⟨-, refused⟩ | ⟨-, -, refused⟩
    · rw [same] at read
      cases read
      exact ⟨complete, shown⟩
    · exact absurd (refused.symm.trans read) nofun
    · exact absurd (refused.symm.trans read) nofun
  · rintro ⟨complete, rfl⟩
    exact parse_text e complete

/-- A text names an endpoint exactly when it is `unix:` with a path after it or begins with
`http://` or `https://`. The endpoint is written as the text was, so that it is read again from its
written form. The endpoints that are read are the complete ones. -/
theorem written_form_reads_back :
    (∀ written, (∃ e, parse written = .ok e) ↔
      (∃ path, path ≠ "" ∧ written = "unix:" ++ path) ∨
        (∃ rest, written = "http://" ++ rest) ∨ ∃ rest, written = "https://" ++ rest) ∧
      (∀ written e, parse written = .ok e → e.text = written) ∧
      (∀ e, (∃ written, parse written = .ok e) → parse e.text = .ok e) ∧
      ∀ e : Endpoint, (∃ written, parse written = .ok e) ↔ e.IsComplete := by
  refine ⟨?_, ?_, ?_, ?_⟩
  · intro written
    constructor
    · rintro ⟨e, read⟩
      obtain ⟨complete, rfl⟩ := parse_eq_ok_iff.1 read
      cases e with
      | tcp url => exact .inr complete
      | unix path => exact .inl ⟨path, complete, rfl⟩
    · rintro (⟨path, given, rfl⟩ | address)
      · exact ⟨.unix path, parse_text (.unix path) given⟩
      · exact ⟨.tcp written, parse_text (.tcp written) address⟩
  · intro written e read
    exact (parse_eq_ok_iff.1 read).2
  · rintro e ⟨written, read⟩
    exact parse_text e (parse_eq_ok_iff.1 read).1
  · intro e
    constructor
    · rintro ⟨written, read⟩
      exact (parse_eq_ok_iff.1 read).1
    · intro complete
      exact ⟨e.text, parse_text e complete⟩

-- A socket may be named like an address.
theorem written_form_reads_back_of_socket :
    let socket : Endpoint := .unix "http://a"
    parse "unix:http://a" = .ok socket ∧ socket.text = "unix:http://a" ∧
      parse socket.text = .ok socket := by
  intro socket
  have read : parse "unix:http://a" = .ok socket := rfl
  obtain ⟨-, shown, again, -⟩ := written_form_reads_back
  exact ⟨read, shown _ socket read, again socket ⟨_, read⟩⟩

end AppHost.Endpoint
