import AppHost.Proofs.Host.Carrying
import AppHost.Proofs.Json.Nesting

/-!
Methods that echo. The result is the array of the arguments, one level deeper than the deepest of
them, so that it may be an argument again unless one of them is as deep as arguments can be.
-/

set_option autoImplicit false
namespace AppHost
open Json (Value nestingLimit)

namespace Json.Value

def nested : Nat → Value
  | 0 => .null
  | n + 1 => .array [nested n]

theorem depth_nested (n : Nat) : (nested n).depth = n := by
  induction n with
  | zero => rfl
  | succ n ih => rw [nested, depth, depthItems, depthItems, ih, Nat.max_zero]

theorem whole_nested (n : Nat) : (nested n).Whole := by
  induction n with
  | zero => trivial
  | succ n ih => exact ⟨ih, trivial⟩

theorem canonical_nested (n : Nat) : (nested n).Canonical := by
  induction n with
  | zero => trivial
  | succ n ih => exact ⟨ih, trivial⟩

theorem parse_text_nested {n : Nat} (shallow : n < nestingLimit) :
    parse (nested n).text = .ok (nested n) :=
  Rereadable.parse_text ⟨canonical_nested n, (depth_nested n).symm ▸ shallow⟩ (whole_nested n)

end Json.Value

theorem decodeArguments_singleton {text : String} {v : Value} (parsed : Json.parse text = .ok v) :
    decodeArguments [text] = .ok [v] :=
  decodeArguments_eq_ok_iff.2 (.cons parsed .nil)

theorem decodeArguments_of_fault {text : String} {fault : Json.Fault}
    (failed : Json.parse text = .error fault) :
    decodeArguments [text] = .error (undecoded 0 text fault) :=
  decodeArguments_eq_error_iff.2
    ⟨0, text, fault, ⟨rfl, failed, fun _ before => absurd before (Nat.not_lt_zero _)⟩, rfl⟩

namespace Decode
variable {arguments : List String} {values : List Value}

/-- The array of some arguments can be an argument if none of them is as deep as it may be. -/
theorem array_of_shallow (decoded : Decode arguments values) (whole : ∀ v ∈ values, v.Whole)
    (shallow : ∀ v ∈ values, v.depth + 1 < nestingLimit) :
    decodeArguments [(Value.array values).text] = .ok [.array values] := by
  have items := decoded.rereadable
  have depth : Value.depthItems values ≤ nestingLimit - 2 :=
    Value.depthItems_le_iff.2 fun v member => by
      have := shallow v member
      omega
  have limit : nestingLimit = 128 := rfl
  have rereadable : (Value.array values).Rereadable :=
    { canonical := Value.canonicalItems_iff.2 fun v member => (items v member).canonical
      shallow := by
        rw [Value.depth]
        omega }
  exact decodeArguments_singleton (rereadable.parse_text (Value.wholeItems_iff.2 whole))

theorem array_of_deep (whole : ∀ v ∈ values, v.Whole) {v : Value} (member : v ∈ values)
    (deep : nestingLimit ≤ v.depth + 1) :
    ∃ fault, fault.cause = .nestedTooDeep ∧ decodeArguments [(Value.array values).text] =
      .error (undecoded 0 (Value.array values).text fault) := by
  have items : v.depth ≤ Value.depthItems values :=
    Value.depthItems_le_iff.1 (Nat.le_refl _) v member
  have deeper : nestingLimit ≤ (Value.array values).depth := by
    rw [Value.depth]
    omega
  obtain ⟨fault, failed, cause⟩ :=
    Json.parse_text_of_deep (v := .array values) (Value.wholeItems_iff.2 whole) deeper
  exact ⟨fault, cause, decodeArguments_of_fault failed⟩

end Decode

namespace Instance

theorem invoke_of_echo {i : Instance} {m : Manifest} (behaves : i.handler = m.handler)
    {arguments : List String} {values : List Value}
    (decoded : decodeArguments arguments = .ok values) {method : String}
    (echoes : m.methods.find? method = some .echo) (time : Calendar.Instant) :
    i.invoke time method arguments = (.ok (Value.array values).text, i) := by
  simp only [invoke, decoded, behaves, Manifest.handler, echoes]
  rfl

end Instance

namespace Host
variable {h : Host} {call : MethodInvocation} {i : Instance} {m : Manifest} {values : List Value}

theorem invoke_of_echo (reaches : h.Reaches call i) (behaves : i.handler = m.handler)
    (echoes : m.methods.find? call.method = some .echo)
    (decoded : decodeArguments call.arguments = .ok values) (now : Moment) :
    (h.invoke now call).1 = .ok ⟨(Value.array values).text⟩ := by
  rw [invoke_of_reaches reaches, Instance.invoke_of_echo behaves decoded echoes]
  rfl

/-- A method that echoes answers every call whose arguments are JSON, with the text of the array of
their values. If these have no numbers but whole ones, that text is an argument again and stands for
this array, as long as none of them is nested as deep as an argument may be. If one is, the result
is refused as an argument because it is nested too deep. -/
theorem echoing (runs : h.running? call.applicationId = some i) (behaves : i.handler = m.handler)
    (named : (call.applicationId.isEmpty || call.method.isEmpty) = false)
    (echoes : m.methods.find? call.method = some .echo)
    (decoded : decodeArguments call.arguments = .ok values) (whole : ∀ v ∈ values, v.Whole)
    (now : Moment) :
    let text := (Value.array values).text
    (h.invoke now call).1 = .ok ⟨text⟩ ∧
      ((∀ v ∈ values, v.depth + 1 < nestingLimit) → decodeArguments [text] = .ok [.array values]) ∧
      ((∃ v ∈ values, nestingLimit ≤ v.depth + 1) → ∃ fault, fault.cause = .nestedTooDeep ∧
        decodeArguments [text] = .error (undecoded 0 text fault)) := by
  intro text
  refine ⟨?_, fun shallow => ?_, fun ⟨v, member, deep⟩ => ?_⟩
  · exact invoke_of_echo ⟨named, runs, values, decoded⟩ behaves echoes decoded now
  · exact (decodeArguments_eq_ok_iff.1 decoded).array_of_shallow whole shallow
  · exact Decode.array_of_deep whole member deep

/-- An object whose keys come in order, a text with an escape, and an argument that is an array. -/
theorem echoing_object_and_text :
    let m : Manifest :=
      ⟨"a", true, false, none, .empty, Dictionary.empty.insert "echo" .echo, .empty⟩
    let now : Moment := ⟨⟨0, 0, by decide⟩, 0⟩
    let h := (new .default).run [(now, .register m), (now, .launch "a" none)]
    let given := ["\x7b\"b\": -1, \"a\": null\x7d", "\"\\u0041\\n\"", "[ [] ]"]
    let text := "[\x7b\"a\":null,\"b\":-1\x7d,\"A\\n\",[[]]]"
    (h.invoke now ⟨"a", "echo", given⟩).1 = .ok ⟨text⟩ ∧
      decodeArguments [text] = .ok [.array [
        .object [("a", .null), ("b", .number (.int (-1)))], .string "A\n", .array [.array []]]] := by
  intro m now h given text
  obtain ⟨values, decoded, whole, shallow, written⟩ : ∃ values, decodeArguments given = .ok values ∧
    (∀ v ∈ values, v.Whole) ∧ (∀ v ∈ values, v.depth + 1 < nestingLimit) ∧
      (Value.array values).text = text := by decide +kernel
  -- The text that comes back says which values they were.
  let items : List Value :=
    [.object [("a", .null), ("b", .number (.int (-1)))], .string "A\n", .array [.array []]]
  have spelled : (Value.array items).text = text := by decide +kernel
  have parsed : decodeArguments [(Value.array items).text] = .ok [.array items] :=
    decodeArguments_singleton (Json.parse_text (by decide) (by decide))
  let start : Instance := .start "a" none m.handler HostOptions.default.eventBuffer now.date
  let call : MethodInvocation := ⟨"a", "echo", given⟩
  have runs : h.running? call.applicationId = some start := rfl
  have named : (call.applicationId.isEmpty || call.method.isEmpty) = false := by decide
  obtain ⟨answered, again, -⟩ := echoing runs rfl named rfl decoded whole now
  rw [written] at answered again
  rw [spelled] at parsed
  have same : Value.array values = .array items := by
    simpa using (again shallow).symm.trans parsed
  rw [same] at again
  exact ⟨answered, again shallow⟩

/-- The deepest argument there is comes back in an array that is no argument any more. -/
theorem echo_of_deepest_is_refused :
    let m : Manifest :=
      ⟨"a", true, false, none, .empty, Dictionary.empty.insert "echo" .echo, .empty⟩
    let now : Moment := ⟨⟨0, 0, by decide⟩, 0⟩
    let h := (new .default).run [(now, .register m), (now, .launch "a" none)]
    let deepest := Value.nested 127
    let text := (Value.array [deepest]).text
    decodeArguments [deepest.text] = .ok [deepest] ∧ deepest.Whole ∧
      (h.invoke now ⟨"a", "echo", [deepest.text]⟩).1 = .ok ⟨text⟩ ∧
      ∃ e, decodeArguments [text] = .error e := by
  intro m now h deepest text
  have decoded : decodeArguments [deepest.text] = .ok [deepest] :=
    decodeArguments_singleton (Value.parse_text_nested (by decide))
  have whole : deepest.Whole := Value.whole_nested 127
  let start : Instance := .start "a" none m.handler HostOptions.default.eventBuffer now.date
  have runs : h.running? "a" = some start := rfl
  have reaches : h.Reaches ⟨"a", "echo", [deepest.text]⟩ start :=
    ⟨by decide, runs, _, decoded⟩
  obtain ⟨fault, -, refused⟩ := Decode.array_of_deep (List.forall_mem_singleton.2 whole)
    List.mem_cons_self (Nat.le_of_eq (congrArg Nat.succ (Value.depth_nested 127).symm))
  exact ⟨decoded, whole, invoke_of_echo reaches rfl rfl decoded now, _, refused⟩

end Host
end AppHost
