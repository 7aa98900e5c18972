import AppHost.Proofs.Wire.Merging
import AppHost.Proofs.Wire.Size

/-!
Every message of the contract is read back as it was written, and what was read can be written and
read again. Lengths are numbers of 64 bits, which no text in a memory of that width exceeds.
-/

set_option autoImplicit false
namespace AppHost.Wire
open Schema

variable {α : Type}

/-- What is written of a message is read back as that message. -/
def Schema.Restores (s : Schema α) (levels : Nat) : Prop :=
  ∀ a, (s.encode a).length < 2 ^ 64 → s.Reads levels (s.encode a) s.empty a

theorem Kind.restores (k : Kind) : k.schema.Restores nestingLimit := by
  intro m fits
  have reads := k.merges m k.schema.empty fits
  rwa [k.merge_empty] at reads

theorem restores_pageAnswer : pageAnswer.Restores nestingLimit := Kind.resolveResponse.restores

/-- A message is read back as it was written, and bytes that are read, however they put it, are
written anew as bytes that mean the same and are written so again. -/
theorem Kind.round_trip (k : Kind) :
    (∀ m, (k.schema.encode m).length < 2 ^ 64 → k.schema.decode (k.schema.encode m) = .ok m) ∧
    (∀ bytes m, bytes.length < 2 ^ 63 → k.schema.decode bytes = .ok m →
      k.schema.decode (k.schema.encode m) = .ok m ∧
        (k.schema.decode (k.schema.encode m)).map k.schema.encode = .ok (k.schema.encode m)) := by
  have restored : ∀ m, (k.schema.encode m).length < 2 ^ 64 →
      k.schema.decode (k.schema.encode m) = .ok m :=
    fun m fits => decode_of_reads (k.restores m fits)
  refine ⟨restored, fun bytes m fits decoded => ?_⟩
  obtain ⟨size, sized⟩ := k.sized
  have length := Schema.length_encode_of_decode sized decoded
  have again := restored m (by omega)
  exact ⟨again, by rw [again]; rfl⟩

-- The jumbled bytes have the version first, then an unknown field and a length of two bytes.
theorem Kind.round_trip_out_of_order :
    let before : PageAnswer := ⟨"", "a", some ⟨-1, 0⟩⟩
    let jumbled : List UInt8 := [26, 0, 32, 7, 18, 129, 0, 97]
    pageAnswer.decode (pageAnswer.encode before) = .ok before ∧
      pageAnswer.decode jumbled = .ok ⟨"", "a", some ⟨0, 0⟩⟩ ∧
      pageAnswer.encode ⟨"", "a", some ⟨0, 0⟩⟩ = [18, 1, 97, 26, 0] ∧
      pageAnswer.decode [18, 1, 97, 26, 0] = .ok ⟨"", "a", some ⟨0, 0⟩⟩ := by
  refine ⟨(Kind.resolveResponse.round_trip).1 _ (by decide), by rfl, by rfl, ?_⟩
  exact ((Kind.resolveResponse.round_trip).2 [26, 0, 32, 7, 18, 129, 0, 97] _ (by decide) rfl).1

end AppHost.Wire
