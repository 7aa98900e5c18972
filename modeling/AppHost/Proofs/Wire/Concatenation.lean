import AppHost.Proofs.Wire.RoundTrip
import AppHost.Proofs.Wire.Rows

/-!
Bytes that are put together from those of messages. Two messages one after the other are read as one
that has been merged from both, and fields that a message does not know, wherever they stand among
its own, leave no trace.
-/

set_option autoImplicit false
namespace AppHost.Wire
open Schema

theorem Kind.isLocal (k : Kind) : k.schema.IsLocal := by
  have timestamps : timestamp.IsLocal := by simp [IsLocal, timestamp]
  have nothings (name : String) : (nothing name).IsLocal := by simp [IsLocal, nothing]
  have events : event.IsLocal := by simp [IsLocal, event]
  cases k with
  | resolveRequest => simp [IsLocal, schema, pageRequest]
  | resolveResponse => simp [IsLocal, schema, pageAnswer, Field.isLocal_message timestamps]
  | consumeRequest => simp [IsLocal, schema, pageRequest]
  | streamUpdate =>
    simp [IsLocal, schema, update, heartbeat, Field.isLocal_message (nothings _),
      Field.isLocal_message events]
  | heartbeatEvent => exact nothings _
  | serverEvent => exact events
  | methodRequest => simp [IsLocal, schema, invocation]
  | methodResponse => simp [IsLocal, schema, result]
  | triggerRequest => simp [IsLocal, schema, trigger]
  | triggerResponse => exact nothings _

/-- Messages that are written one after the other are read as their merge, and unknown fields that
stand between known ones do not change what is read. -/
theorem Kind.concatenation (k : Kind) :
    (∀ m₁ m₂, (k.schema.encode m₁).length < 2 ^ 64 → (k.schema.encode m₂).length < 2 ^ 64 →
      k.schema.decode (k.schema.encode m₁ ++ k.schema.encode m₂) = .ok (k.merge m₁ m₂)) ∧
    (∀ numbers others known unknown rest, Row nestingLimit numbers known →
      Row nestingLimit others unknown → (∀ number ∈ others, k.schema.Lacks number) →
        ∀ m, k.schema.decode (known ++ (unknown ++ rest)) = .ok m ↔
          k.schema.decode (known ++ rest) = .ok m) := by
  constructor
  · intro m₁ m₂ firstFits secondFits
    apply decode_of_reads
    have first := k.restores m₁ firstFits
    have second := k.merges m₂ m₁ secondFits
    exact first.append second
  · intro numbers others known unknown rest knownRow unknownRow lacks m
    rw [decode_eq_ok_iff k.isLocal, decode_eq_ok_iff k.isLocal]
    constructor
    · intro reads
      obtain ⟨a, first, reads⟩ := reads.split k.isLocal knownRow
      obtain ⟨b, second, last⟩ := reads.split k.isLocal unknownRow
      obtain rfl := second.unique (reads_unknown unknownRow lacks a)
      exact first.append last
    · intro reads
      obtain ⟨a, first, last⟩ := reads.split k.isLocal knownRow
      exact first.append ((reads_unknown unknownRow lacks a).append last)

-- The versions are merged part by part. What is unknown is a group with a number in it.
theorem Kind.concatenation_of_versions :
    let first : PageAnswer := ⟨"a.html", "A", some ⟨5, 0⟩⟩
    let second : PageAnswer := ⟨"", "B", some ⟨0, 7⟩⟩
    pageAnswer.encode first = [10, 6, 97, 46, 104, 116, 109, 108, 18, 1, 65, 26, 2, 8, 5] ∧
      pageAnswer.encode second = [18, 1, 66, 26, 2, 16, 7] ∧
      pageAnswer.decode (pageAnswer.encode first ++ pageAnswer.encode second) =
        .ok ⟨"a.html", "B", some ⟨5, 7⟩⟩ ∧
      pageAnswer.decode (pageAnswer.encode first ++ ([35, 40, 9, 36] ++ pageAnswer.encode second)) =
        .ok ⟨"a.html", "B", some ⟨5, 7⟩⟩ := by
  intro first second
  have merged : pageAnswer.decode (pageAnswer.encode first ++ pageAnswer.encode second) =
      .ok ⟨"a.html", "B", some ⟨5, 7⟩⟩ :=
    (Kind.resolveResponse.concatenation).1 first second (by decide) (by decide)
  have opens : takeKey [35] = .ok (4, .startGroup, []) := rfl
  have inner : takeKey [40] = .ok (5, .varint, []) := rfl
  have nine : readVarint [9] = some (9, []) := rfl
  have closes : takeKey [36] = .ok (4, .endGroup, []) := rfl
  have within : Row 99 [5] ([40] ++ ([9] ++ [])) := .cons inner (.varint nine) .nil
  have unknown : Row nestingLimit [4] ([35] ++ ([40, 9] ++ [36] ++ [])) :=
    .cons opens (.group within closes) .nil
  obtain ⟨numbers, known⟩ := (reads_of_decode Kind.resolveResponse.isLocal
    (decode_of_reads (restores_pageAnswer first (by decide)))).2
  have lacks : ∀ number ∈ [4], pageAnswer.Lacks number := by
    simp [Lacks, pageAnswer, Field.text, Field.message]
  refine ⟨by rfl, by rfl, merged, ?_⟩
  exact ((Kind.resolveResponse.concatenation).2 numbers [4] _ _ _ known unknown lacks _).2 merged

end AppHost.Wire
