import AppHost.Proofs.Wire.Concatenation

/-!
Bytes that are cut off. Whole fields that stand at the front of others end where one of those ends,
so what is sent as a single field is read as a whole or not at all. An update of a page's stream is
sent so, whatever it carries; the event inside it is not, whose arguments are fields of their own.
-/

set_option autoImplicit false
namespace AppHost.Wire
open Schema

variable {levels : Nat} {bytes front payload : List UInt8}

theorem Row.of_prefix {numbers others : List Nat} (row : Row levels numbers front)
    (whole : Row levels others bytes) (cut : front <+: bytes) :
    ∃ later rest, others = numbers ++ later ∧ bytes = front ++ rest ∧ Row levels later rest := by
  induction numbers generalizing front others bytes with
  | nil =>
    cases row
    exact ⟨others, bytes, rfl, rfl, whole⟩
  | cons number numbers ih =>
    obtain - | @⟨_, _, wireType, _, key, payload, rest, opens, stands, row⟩ := row
    obtain ⟨left, cut⟩ := cut
    simp only [List.append_assoc] at cut
    have taken := takeKey_append opens (payload ++ (rest ++ left))
    rw [cut] at taken
    cases whole with
    | nil => cases taken
    | @cons _ first _ others opening content after opensToo standsToo whole =>
      -- The keys agree, and for a given key there is one end that a field can have.
      rw [takeKey_append opensToo] at taken
      simp only [Except.ok.injEq, Prod.mk.injEq] at taken
      obtain ⟨rfl, rfl, same⟩ := taken
      obtain rfl : opening = key := by
        rw [same] at cut
        exact (List.append_cancel_right cut).symm
      obtain ⟨rfl, rfl⟩ := standsToo.unique stands same
      obtain ⟨later, rest, rfl, split, laterRow⟩ := ih row whole (List.prefix_append _ _)
      refine ⟨later, rest, rfl, ?_, laterRow⟩
      rw [split]
      simp only [List.append_assoc]

theorem row_delimited {number : Nat} (valid : IsFieldNumber number)
    (fits : payload.length < 2 ^ 64) : Row (levels + 1) [number] (delimited number payload) := by
  have opens := takeKey_key valid .lengthDelimited []
  have length := readVarint_varint fits []
  rw [List.append_nil] at opens length
  have row : Row (levels + 1) [number] _ := .cons opens (.lengthDelimited length) .nil
  rwa [List.append_nil, ← List.append_assoc] at row

/-- A message that is sent as one field is not read from a part of it, unless nothing is left. -/
theorem Schema.decode_of_cut {α : Type} {s : Schema α} {number : Nat} (isLocal : s.IsLocal)
    (whole : Row nestingLimit [number] bytes) (cut : front <+: bytes) (shorter : front ≠ bytes)
    (nonempty : front ≠ []) : ∃ fault, s.decode front = .error fault := by
  cases answer : s.decode front with
  | error fault => exact ⟨fault, rfl⟩
  | ok a =>
    obtain ⟨-, numbers, row⟩ := reads_of_decode isLocal answer
    obtain ⟨later, rest, split, same, laterRow⟩ := row.of_prefix whole cut
    cases numbers with
    | nil =>
      cases row
      exact (nonempty rfl).elim
    | cons first numbers =>
      obtain ⟨-, rfl⟩ := List.append_eq_nil_iff.1 (List.cons.inj split).2.symm
      cases laterRow
      rw [List.append_nil] at same
      exact (shorter same.symm).elim

def sent (u : StreamUpdate) : List UInt8 :=
  Kind.streamUpdate.schema.encode (Kind.streamUpdate.present u)

def variantNumber : StreamUpdate → Nat
  | .heartbeat => 1
  | .event _ => 2

theorem row_sent {u : StreamUpdate} (fits : (sent u).length < 2 ^ 64) :
    Row nestingLimit [variantNumber u] (sent u) := by
  cases u with
  | heartbeat =>
    have empty : ([] : List UInt8).length < 2 ^ 64 := by decide
    exact row_delimited (show IsFieldNumber 1 by decide) empty
  | event e =>
    have field : sent (.event e) = delimited 2 (event.encode (.ofEvent e)) := List.append_nil _
    have length := length_delimited_le 2 (event.encode (.ofEvent e))
    rw [field] at fits ⊢
    exact row_delimited (show IsFieldNumber 2 by decide) (by omega)

theorem decode_sent {u : StreamUpdate} (fits : (sent u).length < 2 ^ 64) :
    update.decode (sent u) = .ok (.ofStream u) :=
  decode_of_reads (Kind.streamUpdate.restores (.ofStream u) fits)

/-- An update that is cut off is never taken for another one. If nothing is left of it, it has no
variant, and anything else that is left is not decoded; nor do the bytes of an update go on as those
of a longer one. -/
theorem truncation (u : StreamUpdate) (fits : (sent u).length < 2 ^ 64) :
    (∀ front, front <+: sent u → front ≠ sent u →
      (front = [] → (update.decode front).map Update.stream = .ok (.error .missingUpdateType)) ∧
      (front ≠ [] → ∃ fault, update.decode front = .error fault)) ∧
    ∀ v, sent v <+: sent u → v = u := by
  have refused : ∀ front, front <+: sent u → front ≠ sent u → front ≠ [] →
      ∃ fault, update.decode front = .error fault :=
    fun front => decode_of_cut Kind.streamUpdate.isLocal (row_sent fits)
  refine ⟨fun front cut shorter => ⟨?_, refused front cut shorter⟩, fun v cut => ?_⟩
  · rintro rfl
    rfl
  · have decoded : update.decode (sent v) = .ok (.ofStream v) :=
      decode_sent (Nat.lt_of_le_of_lt cut.length_le fits)
    have nonempty : sent v ≠ [] := by
      intro nothing
      rw [nothing] at decoded
      cases v <;> cases decoded
    have same : sent v = sent u := by
      refine Decidable.not_not.1 fun shorter => ?_
      obtain ⟨fault, failed⟩ := refused _ cut shorter nonempty
      rw [decoded] at failed
      cases failed
    rw [same, decode_sent fits] at decoded
    have same := congrArg Update.stream (Except.ok.inj decoded)
    rw [Update.stream_ofStream, Update.stream_ofStream] at same
    exact (Except.ok.inj same).symm

-- What is left of the event within is an event of its own, with one argument less.
theorem truncation_between_arguments :
    let u : StreamUpdate := .event ⟨"a", ["x", "y"]⟩
    let front : List UInt8 := [18, 9, 10, 1, 97, 18, 1, 120]
    sent u = front ++ [18, 1, 121] ∧
      event.decode [10, 1, 97, 18, 1, 120] = .ok ⟨"a", ["x"]⟩ ∧
      ∃ fault, update.decode front = .error fault := by
  intro u front
  have split : sent u = front ++ [18, 1, 121] := by rfl
  have fits : (sent u).length < 2 ^ 64 := by decide
  have cut : front <+: sent u := ⟨[18, 1, 121], split.symm⟩
  exact ⟨split, by rfl, ((truncation u fits).1 front cut (by decide)).2 (by decide)⟩

end AppHost.Wire
