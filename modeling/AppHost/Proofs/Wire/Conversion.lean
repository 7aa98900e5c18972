import AppHost.Proofs.Calendar.Timestamp
import AppHost.Proofs.Wire.Concatenation

/-!
Messages that have been read, taken over into the contract's own types and back again. An update may
lack its variant and a version may be out of range; all else is kept as it was, but for a version
within a leap second, which comes back as the second after it.
-/

set_option autoImplicit false
namespace AppHost
open Calendar (Instant Representable nanosPerSecond)

namespace Timestamp

def InRange (t : Timestamp) : Prop :=
  0 ≤ t.nanos.toInt ∧ Representable t.seconds.toInt t.nanos.toInt.toNat

instance (t : Timestamp) : Decidable t.InRange := inferInstanceAs (Decidable (_ ∧ _))

def canonical (t : Timestamp) : Timestamp :=
  if t.nanos.toInt < nanosPerSecond then t
  else ⟨t.seconds + 1, t.nanos - Int32.ofNat nanosPerSecond⟩

theorem ofInstant_eq_canonical {t : Timestamp} (positive : 0 ≤ t.nanos.toInt)
    (representable : Representable t.seconds.toInt t.nanos.toInt.toNat) :
    ofInstant ⟨t.seconds.toInt, t.nanos.toInt.toNat, representable⟩ = t.canonical := by
  have nanos : Int32.ofNat t.nanos.toInt.toNat = t.nanos := by
    rw [← Int32.ofInt_eq_ofNat, Int.toNat_of_nonneg positive, Int32.ofInt_toInt]
  have bound : t.nanos.toInt.toNat < 2 * nanosPerSecond := by
    have inside := representable.2.2
    omega
  unfold ofInstant canonical
  split
  · rename_i small
    have below : t.nanos.toInt.toNat < nanosPerSecond := by omega
    simp only [Nat.div_eq_of_lt below, Nat.mod_eq_of_lt below, nanos, Int.ofNat_zero, Int.add_zero,
      Int64.ofInt_toInt]
  · rename_i large
    have carry : t.nanos.toInt.toNat / nanosPerSecond = 1 := by
      unfold nanosPerSecond at *
      omega
    have left : t.nanos.toInt.toNat % nanosPerSecond = t.nanos.toInt.toNat - nanosPerSecond := by
      unfold nanosPerSecond at *
      omega
    simp only [carry, left]
    rw [Int64.ofInt_add, Int64.ofInt_toInt, Int32.ofNat_sub _ _ (by omega), nanos]
    rfl

theorem toInstant_of_inRange {t : Timestamp} (inRange : t.InRange) :
    ∃ instant, t.toInstant = .ok instant ∧ ofInstant instant = t.canonical := by
  obtain ⟨positive, representable⟩ := inRange
  refine ⟨⟨_, _, representable⟩, ?_, ofInstant_eq_canonical positive representable⟩
  simp only [toInstant, if_neg (Int.not_lt.2 positive), Instant.of?, dif_pos representable]

theorem toInstant_of_not_inRange {t : Timestamp} (outside : ¬t.InRange) :
    t.toInstant = .error (.invalidTimestamp t) := by
  unfold toInstant
  split
  · rfl
  · rename_i positive
    have unrepresentable : ¬Representable t.seconds.toInt t.nanos.toInt.toNat :=
      fun representable => outside ⟨Int.not_lt.1 positive, representable⟩
    rw [Instant.of?, dif_neg unrepresentable]

end Timestamp

namespace Wire
open Schema

def PageAnswer.canonical (p : PageAnswer) : PageAnswer :=
  { p with version := p.version.map Timestamp.canonical }

namespace Kind

def version? : (k : Kind) → k.Content → Option Timestamp
  | .resolveResponse, p => p.version
  | _, _ => none

def IsUnset : (k : Kind) → k.Content → Prop
  | .streamUpdate, u => u.variant = none
  | _, _ => False

def canonical : (k : Kind) → k.Content → k.Content
  | .resolveResponse, p => p.canonical
  | _, m => m

/-- Field by field, the value says what the message says. -/
def Agrees : (k : Kind) → k.Content → k.Domain → Prop
  | .resolveRequest, m, d => d.applicationId = m.applicationId ∧ d.pageId = m.pageId
  | .resolveResponse, m, d => d.fileName = m.fileName ∧ d.title = m.title ∧
      d.version.map Timestamp.ofInstant = m.version.map Timestamp.canonical
  | .consumeRequest, m, d => d.applicationId = m.applicationId ∧ d.pageId = m.pageId
  | .streamUpdate, m, .heartbeat => m.variant = some (.heartbeat {})
  | .streamUpdate, m, .event e => m.variant = some (.event ⟨e.name, e.arguments⟩)
  | .heartbeatEvent, _, _ => True
  | .serverEvent, m, d => d.name = m.name ∧ d.arguments = m.arguments
  | .methodRequest, m, d =>
    d.applicationId = m.applicationId ∧ d.method = m.method ∧ d.arguments = m.arguments
  | .methodResponse, m, d => d.result = m.result
  | .triggerRequest, m, d => d.applicationId = m.applicationId ∧ d.pageId = m.pageId ∧
      d.name = m.name ∧ d.arguments = m.arguments
  | .triggerResponse, _, _ => True

end Kind

/-! ### Updates without a variant -/

section
variable {levels number : Nat} {wireType : WireType} {bytes rest : List UInt8}
  {u v : Update}

theorem isSome_of_mergeField_update (known : number = 1 ∨ number = 2)
    (merged : update.mergeField levels number wireType bytes u = .ok (v, rest)) :
    v.variant.isSome := by
  rcases known with rfl | rfl
  · obtain ⟨⟨content, left⟩, -, same⟩ := bind_eq_ok (merge_of_mergeField rfl merged)
    cases same
    rfl
  · obtain ⟨⟨content, left⟩, -, same⟩ := bind_eq_ok (merge_of_mergeField rfl merged)
    cases same
    rfl

theorem lacks_update (unknown : ¬(number = 1 ∨ number = 2)) : update.Lacks number := by
  obtain ⟨notFirst, notSecond⟩ := not_or.1 unknown
  simp [Lacks, update, Field.message, Ne.symm notFirst, Ne.symm notSecond]

theorem update_eq_none_iff {numbers : List Nat} (row : Row levels numbers bytes)
    (reads : update.Reads levels bytes u v) :
    v.variant = none ↔ u.variant = none ∧ 1 ∉ numbers ∧ 2 ∉ numbers := by
  induction numbers generalizing bytes u with
  | nil =>
    cases row
    obtain rfl := reads.unique (.nil update levels u)
    simp
  | cons number numbers ih =>
    obtain - | ⟨opens, stands, row⟩ := row
    obtain ⟨w, merges, later⟩ := reads.uncons (s := update) Kind.streamUpdate.isLocal opens stands
    rw [ih row later]
    have merged := merges []
    by_cases known : number = 1 ∨ number = 2
    · have set := isSome_of_mergeField_update known merged
      rcases known with rfl | rfl <;> grind
    · rw [mergeField_of_lacks (lacks_update known) stands] at merged
      cases merged
      grind

end

/-! ### What is accepted -/

-- A message that is not accepted is an update without a variant or has a version out of range.
theorem Kind.accept_cases (k : Kind) (m : k.Content) :
    (k.IsUnset m ∧ k.accept m = .error .missingUpdateType) ∨
    (∃ t, k.version? m = some t ∧ ¬t.InRange ∧ k.accept m = .error (.invalidTimestamp t)) ∨
    (¬k.IsUnset m ∧ (∀ t, k.version? m = some t → t.InRange) ∧
      ∃ d, k.accept m = .ok d ∧ k.Agrees m d ∧ k.present d = k.canonical m) := by
  cases k with
  | resolveRequest => exact .inr (.inr ⟨id, nofun, m.page, rfl, ⟨rfl, rfl⟩, rfl⟩)
  | resolveResponse =>
    obtain ⟨fileName, title, version⟩ := m
    cases version with
    | none => exact .inr (.inr ⟨id, nofun, ⟨fileName, title, none⟩, rfl, ⟨rfl, rfl, rfl⟩, rfl⟩)
    | some t =>
      by_cases inRange : t.InRange
      · obtain ⟨instant, taken, back⟩ := Timestamp.toInstant_of_inRange inRange
        refine .inr (.inr ⟨id, fun _ same => ?_, ⟨fileName, title, some instant⟩, ?_, ?_, ?_⟩)
        · cases same
          exact inRange
        · simp only [accept, PageAnswer.resolved, taken]
          rfl
        · exact ⟨rfl, rfl, congrArg some back⟩
        · simp only [present, PageAnswer.ofResolved, Option.map_some, back]
          rfl
      · refine .inr (.inl ⟨t, rfl, inRange, ?_⟩)
        simp only [accept, PageAnswer.resolved, Timestamp.toInstant_of_not_inRange inRange]
        rfl
  | consumeRequest => exact .inr (.inr ⟨id, nofun, m.page, rfl, ⟨rfl, rfl⟩, rfl⟩)
  | streamUpdate =>
    obtain ⟨_ | m | e⟩ := m
    · exact .inl ⟨rfl, rfl⟩
    · exact .inr (.inr ⟨nofun, nofun, .heartbeat, rfl, rfl, rfl⟩)
    · exact .inr (.inr ⟨nofun, nofun, .event e.event, rfl, rfl, rfl⟩)
  | heartbeatEvent => exact .inr (.inr ⟨id, nofun, (), rfl, trivial, rfl⟩)
  | serverEvent => exact .inr (.inr ⟨id, nofun, m.event, rfl, ⟨rfl, rfl⟩, rfl⟩)
  | methodRequest => exact .inr (.inr ⟨id, nofun, m.invocation, rfl, ⟨rfl, rfl, rfl⟩, rfl⟩)
  | methodResponse => exact .inr (.inr ⟨id, nofun, m.methodResult, rfl, rfl, rfl⟩)
  | triggerRequest => exact .inr (.inr ⟨id, nofun, m.trigger, rfl, ⟨rfl, rfl, rfl, rfl⟩, rfl⟩)
  | triggerResponse => exact .inr (.inr ⟨id, nofun, (), rfl, trivial, rfl⟩)

theorem Kind.canonical_of_small {k : Kind} {m : k.Content}
    (small : ∀ t, k.version? m = some t → t.nanos.toInt < nanosPerSecond) : k.canonical m = m := by
  cases k with
  | resolveResponse =>
    obtain ⟨fileName, title, version⟩ := m
    cases version with
    | none => rfl
    | some t =>
      have same : t.canonical = t := if_pos (small t rfl)
      simp only [canonical, PageAnswer.canonical, Option.map_some, same]
  | _ => rfl

theorem Kind.version?_canonical (k : Kind) (m : k.Content) :
    k.version? (k.canonical m) = (k.version? m).map Timestamp.canonical := by
  cases k <;> rfl

theorem Kind.version?_of_isUnset {k : Kind} {m : k.Content} (unset : k.IsUnset m) :
    k.version? m = none := by
  cases k <;> first | rfl | cases unset

theorem Kind.accept_eq_missing_iff {k : Kind} {m : k.Content} :
    k.accept m = .error .missingUpdateType ↔ k.IsUnset m := by
  obtain ⟨unset, refused⟩ | ⟨t, version, -, refused⟩ | ⟨set, -, d, accepted, -⟩ := k.accept_cases m
  · simp [refused, unset]
  · have set : ¬k.IsUnset m := fun unset => by simp [version?_of_isUnset unset] at version
    simp [refused, set]
  · simp [accepted, set]

theorem Kind.accept_eq_invalid_iff {k : Kind} {m : k.Content} {t : Timestamp} :
    k.accept m = .error (.invalidTimestamp t) ↔ k.version? m = some t ∧ ¬t.InRange := by
  obtain ⟨unset, refused⟩ | ⟨u, version, outside, refused⟩ | ⟨-, inside, d, accepted, -⟩ :=
    k.accept_cases m
  · simp [refused, version?_of_isUnset unset]
  · rw [refused, version]
    constructor
    · rintro ⟨⟩
      exact ⟨rfl, outside⟩
    · rintro ⟨⟨⟩, -⟩
      rfl
  · rw [accepted]
    exact ⟨nofun, fun ⟨version, outside⟩ => (outside (inside t version)).elim⟩

theorem Kind.isUnset_iff {k : Kind} {bytes : List UInt8} {m : k.Content} {numbers : List Nat}
    (reads : k.schema.Reads nestingLimit bytes k.schema.empty m)
    (row : Row nestingLimit numbers bytes) :
    k.IsUnset m ↔ k = .streamUpdate ∧ 1 ∉ numbers ∧ 2 ∉ numbers := by
  cases k with
  | streamUpdate =>
    have unset := update_eq_none_iff row reads
    simpa [IsUnset, schema, update] using unset
  | _ => simp [IsUnset]

/-- Messages that were read lose nothing when they are taken over into the contract's types and
back. Only an update without a variant and a version out of range are refused, and only a version
within a leap second is put differently. -/
theorem Kind.conversion (k : Kind) (bytes : List UInt8) (m : k.Content)
    (decoded : k.schema.decode bytes = .ok m) :
    (∃ numbers, Row nestingLimit numbers bytes) ∧
    (∀ numbers, Row nestingLimit numbers bytes →
      (k.accept m = .error .missingUpdateType ↔ k = .streamUpdate ∧ 1 ∉ numbers ∧ 2 ∉ numbers)) ∧
    (k.accept m = .error .missingUpdateType ↔ k.IsUnset m) ∧
    (∀ t, k.accept m = .error (.invalidTimestamp t) ↔ k.version? m = some t ∧ ¬t.InRange) ∧
    (∀ name, k.accept m ≠ .error (.emptyField name)) ∧
    ∀ d, k.accept m = .ok d →
      k.Agrees m d ∧ k.present d = k.canonical m ∧
      k.schema.encode (k.present d) = k.schema.encode (k.canonical m) ∧
      ((∀ t, k.version? m = some t → t.nanos.toInt < nanosPerSecond) →
        k.schema.encode (k.present d) = k.schema.encode m) ∧
      (k.version? (k.present d) = none ↔ k.version? m = none) := by
  obtain ⟨reads, row⟩ := reads_of_decode k.isLocal decoded
  refine ⟨row, fun numbers row => ?_, accept_eq_missing_iff, fun t => accept_eq_invalid_iff, ?_, ?_⟩
  · rw [accept_eq_missing_iff, isUnset_iff reads row]
  · intro name
    obtain ⟨-, refused⟩ | ⟨t, -, -, refused⟩ | ⟨-, -, d, accepted, -⟩ := k.accept_cases m
    · simp [refused]
    · simp [refused]
    · simp [accepted]
  · intro d accepted
    have ⟨agrees, back⟩ : k.Agrees m d ∧ k.present d = k.canonical m := by
      obtain ⟨-, refused⟩ | ⟨t, -, -, refused⟩ | ⟨-, -, d', accepted', taken⟩ := k.accept_cases m
      · rw [accepted] at refused
        cases refused
      · rw [accepted] at refused
        cases refused
      · rw [accepted] at accepted'
        cases accepted'
        exact taken
    refine ⟨agrees, back, congrArg _ back, fun small => ?_, ?_⟩
    · rw [back, canonical_of_small small]
    · rw [back, version?_canonical, Option.map_eq_none_iff]

-- The version is within a leap second, so it comes back as the second after it.
theorem Kind.conversion_of_leap_second :
    let answer : PageAnswer := ⟨"a.html", "", some ⟨59, 1000000007⟩⟩
    let resolved : ResolvedPage := ⟨"a.html", "", some ⟨59, 1000000007, by decide⟩⟩
    pageAnswer.decode [26, 8, 8, 59, 16, 135, 148, 235, 220, 3, 10, 6, 97, 46, 104, 116, 109, 108] =
        .ok answer ∧
      answer.resolved = .ok resolved ∧ PageAnswer.ofResolved resolved = ⟨"a.html", "", some ⟨60, 7⟩⟩ := by
  intro answer resolved
  have decoded : pageAnswer.decode
      [26, 8, 8, 59, 16, 135, 148, 235, 220, 3, 10, 6, 97, 46, 104, 116, 109, 108] = .ok answer := by
    rfl
  have accepted : answer.resolved = .ok resolved := by rfl
  exact ⟨decoded, accepted,
    (((Kind.resolveResponse.conversion _ _ decoded).2.2.2.2.2) resolved accepted).2.1⟩

end Wire
end AppHost
