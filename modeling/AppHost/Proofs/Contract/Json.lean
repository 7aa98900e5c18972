import AppHost.Contract.Json
import AppHost.Proofs.Calendar.Reading
import AppHost.Proofs.Json.Records

/-!
What the contract speaks of is read back from its JSON text: each record through the fields of its
shape, in the order in which they are written.
-/

set_option autoImplicit false
namespace AppHost
open Json (Value Shape Takes)
open Calendar (Instant)

section
variable {α : Type} {levels : Nat}

theorem takes_textField (name : String) (get : α → Option String) (set : String → α → α)
    (s : String) : Takes ((textField name get set).read levels) (Value.string s).chars (set s) := by
  intro rest closes
  simp only [textField, Json.takes_readText levels s rest closes, bind, Except.bind]
  rfl

theorem takes_textsField (deep : 1 < levels) (name : String) (get : α → Option (List String))
    (set : List String → α → α) (items : List String) :
    Takes ((textsField name get set).read levels) (Value.strings items).chars (set items) := by
  intro rest closes
  have each : ∀ s ∈ items, Json.Starts (Value.string s).chars ∧
      Takes (Json.readText (levels - 1)) (Value.string s).chars s :=
    fun s _ => ⟨Json.starts_stringChars s, Json.takes_readText _ s⟩
  have read := Json.takes_readList deep each rest closes
  simp only [textsField, Value.strings, read, bind, Except.bind]
  rfl

end

/-! ### Records of texts -/

section
variable {levels : Nat} (deep : 1 < levels)
include deep

theorem PageRef.takes_reading (p : PageRef) : Takes (reading levels) p.toJson.chars p := by
  refine Shape.Fills.takes (b := ⟨some p.applicationId, some p.pageId⟩) ?_ deep rfl
  refine .field rfl rfl (takes_textField _ _ _ _) ?_
  exact .field rfl rfl (takes_textField _ _ _ _) .done

theorem Page.takes_reading (p : Page) : Takes (reading levels) p.toJson.chars p := by
  refine Shape.Fills.takes (b := ⟨some p.id, some p.fileName, some p.title⟩) ?_ deep rfl
  refine .field rfl rfl (takes_textField _ _ _ _) ?_
  refine .field rfl rfl (takes_textField _ _ _ _) ?_
  exact .field rfl rfl (takes_textField _ _ _ _) .done

theorem MethodResult.takes_reading (r : MethodResult) :
    Takes (reading levels) r.toJson.chars r := by
  refine Shape.Fills.takes (b := ⟨some r.result⟩) ?_ deep rfl
  exact .field rfl rfl (takes_textField _ _ _ _) .done

end

/-! ### Records with arguments -/

section
variable {levels : Nat} (deep : 2 < levels)
include deep

theorem ApplicationEvent.takes_reading (e : ApplicationEvent) :
    Takes (reading levels) e.toJson.chars e := by
  refine Shape.Fills.takes (b := ⟨some e.name, some e.arguments⟩) ?_ (by omega) rfl
  refine .field rfl rfl (takes_textField _ _ _ _) ?_
  exact .field rfl rfl (takes_textsField (by omega) _ _ _ _) .done

theorem MethodInvocation.takes_reading (m : MethodInvocation) :
    Takes (reading levels) m.toJson.chars m := by
  refine Shape.Fills.takes (b := ⟨some m.applicationId, some m.method, some m.arguments⟩) ?_
    (by omega) rfl
  refine .field rfl rfl (takes_textField _ _ _ _) ?_
  refine .field rfl rfl (takes_textField _ _ _ _) ?_
  exact .field rfl rfl (takes_textsField (by omega) _ _ _ _) .done

theorem EventTrigger.takes_reading (t : EventTrigger) :
    Takes (reading levels) t.toJson.chars t := by
  refine Shape.Fills.takes
    (b := ⟨some t.applicationId, some t.pageId, some t.name, some t.arguments⟩) ?_ (by omega) rfl
  refine .field rfl rfl (takes_textField _ _ _ _) ?_
  refine .field rfl rfl (takes_textField _ _ _ _) ?_
  refine .field rfl rfl (takes_textField _ _ _ _) ?_
  exact .field rfl rfl (takes_textsField (by omega) _ _ _ _) .done

end

/-! ### Versions -/

theorem takes_readInstant (levels : Nat) (t : Instant) :
    Takes (readInstant levels) (Value.string t.text).chars t := by
  refine Json.takes_readTextAs levels ?_
  rw [t.parse_text]
  rfl

theorem ResolvedPage.takes_reading {levels : Nat} (deep : 1 < levels) (p : ResolvedPage) :
    Takes (reading levels) p.toJson.chars p := by
  obtain ⟨fileName, title, version⟩ := p
  cases version with
  | none =>
    refine Shape.Fills.takes (b := ⟨some fileName, some title, none⟩) ?_ deep rfl
    refine .field rfl rfl (takes_textField _ _ _ _) ?_
    exact .field rfl rfl (takes_textField _ _ _ _) .done
  | some t =>
    have versionField : Takes
        (fun cs => Json.readOptional readInstant (levels - 1) cs >>= fun found =>
          pure (fun d => { d with version := some found.1 }, found.2))
        (Value.string t.text).chars (fun d : Draft => { d with version := some (some t) }) := by
      intro rest closes
      have taken := Json.takes_readOptional (takes_readInstant (levels - 1) t) rest closes
      simp only [taken, bind, Except.bind]
      rfl
    refine Shape.Fills.takes (b := ⟨some fileName, some title, some (some t)⟩) ?_ deep rfl
    refine .field rfl rfl (takes_textField _ _ _ _) ?_
    refine .field rfl rfl (takes_textField _ _ _ _) ?_
    exact .field rfl rfl versionField .done

/-! ### Stream updates -/

namespace StreamUpdate
variable {levels : Nat}

theorem readVariant_name {name : String} {variant : Variant}
    (known : Variant.ofName name = .ok variant) (rest : List Char) :
    readVariant ((Value.string name).chars ++ rest) = .ok (variant, rest) := by
  have plain : Json.isBlank '"' = false := rfl
  simp only [Value.chars, Json.stringChars_append, readVariant, Json.skipBlank_cons plain,
    Json.readString_stringChars, bind, Except.bind, known]
  rfl

theorem readEntries_fieldsText {fields : List (String × Value)} (variant : Variant)
    (others : ∀ f ∈ fields, f.1 ≠ "type" ∧ Json.Readable levels f.2) (rest : List Char) :
    ∀ {fuel : Nat} {first : Bool}, fields.length < fuel →
      readEntries fuel levels first (some variant) (Value.fieldsText first fields ++ rest) =
        .ok ((some variant, fields), '\x7d' :: rest) := by
  induction fields with
  | nil =>
    intro fuel first enough
    obtain ⟨fuel, rfl⟩ := Nat.exists_eq_add_one.2 enough
    rw [Value.fieldsText_nil, readEntries, List.singleton_append, Json.nextKey_close]
    rfl
  | cons f fields ih =>
    intro fuel first enough
    obtain ⟨key, v⟩ := f
    obtain ⟨⟨other, readable⟩, later⟩ := List.forall_mem_cons.1 others
    obtain ⟨fuel, rfl⟩ := Nat.exists_eq_add_one.2 (Nat.zero_lt_of_lt enough)
    have fueled : 2 * v.chars.length ≤
        Json.fuelFor (v.chars ++ (Value.fieldsText false fields ++ rest)) := by
      rw [Json.fuelFor, List.length_append]
      omega
    have value := readable _ fueled _ (Json.Value.closes_fieldsText fields rest)
    rw [Value.fieldsText_cons, List.append_assoc, List.append_assoc, List.cons_append,
      List.append_assoc]
    simp only [readEntries, Json.nextKey_separator, bind, Except.bind, if_neg other,
      Json.readColon_cons, value, ih later (Nat.lt_of_succ_lt_succ enough)]
    rfl

theorem readEntries_type {name : String} {variant : Variant}
    (known : Variant.ofName name = .ok variant) (fields : List (String × Value)) (fuel : Nat)
    (rest : List Char) :
    readEntries (fuel + 1) levels true none
        (Value.fieldsText true (("type", .string name) :: fields) ++ rest) =
      readEntries fuel levels false (some variant) (Value.fieldsText false fields ++ rest) := by
  rw [Value.fieldsText_cons, List.append_assoc, List.append_assoc, List.cons_append,
    List.append_assoc]
  simp only [readEntries, Json.nextKey_separator, bind, Except.bind, ↓reduceIte,
    Option.isSome_none, Bool.false_eq_true, Json.readColon_cons, readVariant_name known]

theorem readTagged_chars (deep : 1 < levels) {name : String} {variant : Variant}
    (known : Variant.ofName name = .ok variant) {fields : List (String × Value)}
    (others : ∀ f ∈ fields, f.1 ≠ "type" ∧ Json.Readable (levels - 1) f.2) :
    Takes (readTagged levels) (Value.object (("type", .string name) :: fields)).chars
      (variant, .inl fields) := by
  intro rest _
  have plain : Json.isBlank '\x7b' = false := rfl
  have enough : fields.length <
      (Value.fieldsText true (("type", .string name) :: fields) ++ rest).length := by
    have entries := Value.length_lt_fieldsText true (("type", .string name) :: fields)
    rw [List.length_cons] at entries
    rw [List.length_append]
    omega
  have entries := (readEntries_type known fields _ rest).trans
    (readEntries_fieldsText variant others rest enough)
  simp only [Value.chars_object, List.cons_append, readTagged, Json.skipBlank_cons plain,
    if_neg (Nat.not_le.2 deep), entries, bind, Except.bind, Json.leaving]
  rfl

theorem ofEntries_fields (e : ApplicationEvent) :
    ApplicationEvent.ofEntries {} e.fields = .ok e := by
  have texts (items : List String) :
      ApplicationEvent.textsOf (.strings items) = .ok items := by
    show (items.map Value.string).mapM ApplicationEvent.textOf = .ok items
    induction items with
    | nil => rfl
    | cons s items ih =>
      rw [List.map_cons, List.mapM_cons, ih]
      rfl
  have arguments : ¬"arguments" = "name" := by decide
  simp only [ApplicationEvent.fields, ApplicationEvent.ofEntries, ↓reduceIte, Option.isSome_none,
    Bool.false_eq_true, ApplicationEvent.textOf, bind, Except.bind, arguments, texts]
  rfl

theorem readable_fields (deep : 1 < levels) (e : ApplicationEvent) :
    ∀ f ∈ e.fields, f.1 ≠ "type" ∧ Json.Readable levels f.2 := by
  intro f member
  simp only [ApplicationEvent.fields, List.mem_cons, List.not_mem_nil, or_false] at member
  rcases member with rfl | rfl
  · have whole : (Value.string e.name).Whole := trivial
    exact ⟨(by decide : "name" ≠ "type"), Value.readable whole (Nat.zero_lt_of_lt deep)⟩
  · have shallow := Nat.lt_of_le_of_lt (Value.depth_strings_le e.arguments) deep
    exact ⟨(by decide : "arguments" ≠ "type"),
      Value.readable (Value.whole_strings e.arguments) shallow⟩

theorem takes_reading (deep : 2 < levels) (u : StreamUpdate) :
    Takes (reading levels) u.toJson.chars u := by
  intro rest closes
  have open_ : 1 < levels := Nat.lt_of_succ_lt deep
  cases u with
  | heartbeat =>
    have known : Variant.ofName "heartbeat" = .ok .heartbeat := rfl
    have tagged := readTagged_chars open_ known (fun f (member : f ∈ []) => nomatch member) rest
      closes
    rw [reading, toJson, tagged]
    rfl
  | event e =>
    have known : Variant.ofName "event" = .ok .event := rfl
    have tagged := readTagged_chars open_ known (readable_fields (by omega) e) rest closes
    rw [reading, toJson, tagged]
    simp only [bind, Except.bind, ofTagged, ofEntries_fields]
    rfl

end StreamUpdate
end AppHost
