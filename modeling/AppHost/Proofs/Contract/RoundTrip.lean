import AppHost.Proofs.Contract.Json
import AppHost.Proofs.Contract.Manifest

/-!
What is written as compact JSON is read back: everything that the contract speaks of, and manifests
whose fixed answers are without fractions. The objects of a fixed answer are in key order, as
reading leaves them (`Json.canonical_of_parse`).
-/

set_option autoImplicit false
namespace AppHost
open Json (Value readWhole readWhole_of_takes)
open Calendar (Instant dateChars nanosPerSecond)

theorem Manifest.ofValue?_parse {m : Manifest} (plain : ∀ e ∈ m.methods.entries, e.2.IsPlain) :
    (Json.parse m.toJson.text).toOption.bind ofValue? = some m := by
  have shallow : m.toJson.depth < Json.nestingLimit :=
    Nat.lt_of_le_of_lt (depth_toJson_le plain) (by decide)
  rw [Json.parse_text (whole_toJson plain) shallow]
  exact ofValue?_sorted plain

theorem json_round_trip :
    (∀ p : PageRef, readWhole PageRef.reading p.toJson.text = .ok p) ∧
    (∀ p : ResolvedPage, readWhole ResolvedPage.reading p.toJson.text = .ok p) ∧
    (∀ e : ApplicationEvent, readWhole ApplicationEvent.reading e.toJson.text = .ok e) ∧
    (∀ u : StreamUpdate, readWhole StreamUpdate.reading u.toJson.text = .ok u) ∧
    (∀ i : MethodInvocation, readWhole MethodInvocation.reading i.toJson.text = .ok i) ∧
    (∀ r : MethodResult, readWhole MethodResult.reading r.toJson.text = .ok r) ∧
    (∀ t : EventTrigger, readWhole EventTrigger.reading t.toJson.text = .ok t) ∧
    (∀ p : Page, readWhole Page.reading p.toJson.text = .ok p) ∧
    (∀ t : Instant, Instant.parse t.text = .ok t ∧
      t.text = String.ofList (dateChars t.date ++ 'T' :: (t.clock.chars ++ ['Z'])) ∧
      (-262143 ≤ t.date.year ∧ t.date.year ≤ 262142) ∧
      (t.clock.second = 60 ↔ nanosPerSecond ≤ t.nano)) ∧
    ∀ m : Manifest,
      (∀ name v, m.methods.find? name = some (.reply v) →
        v.Whole ∧ v.Canonical ∧ v.depth < 100) →
      (Json.parse m.toJson.text).toOption.bind Manifest.ofValue? = some m := by
  have flat : 1 < Json.nestingLimit := by decide
  have nested : 2 < Json.nestingLimit := by decide
  refine ⟨fun p => ?_, fun p => ?_, fun e => ?_, fun u => ?_, fun i => ?_, fun r => ?_,
    fun t => ?_, fun p => ?_, fun t => ?_, fun m answers => ?_⟩
  · exact readWhole_of_takes (p.takes_reading flat)
  · exact readWhole_of_takes (p.takes_reading flat)
  · exact readWhole_of_takes (e.takes_reading nested)
  · exact readWhole_of_takes (u.takes_reading nested)
  · exact readWhole_of_takes (i.takes_reading nested)
  · exact readWhole_of_takes (r.takes_reading flat)
  · exact readWhole_of_takes (t.takes_reading nested)
  · exact readWhole_of_takes (p.takes_reading flat)
  · exact ⟨t.parse_text, t.text_eq, t.year_date, t.second_eq_sixty_iff⟩
  · refine m.ofValue?_parse fun e member => ?_
    obtain ⟨name, spec⟩ := e
    cases spec with
    | reply v => exact answers name v ((m.methods.mem_entries name _).1 member)
    | echo => trivial
    | emit event => trivial

def quiz : Manifest where
  id := "quiz \"\x01\" 😀"
  allowLaunching := false
  autostart := true
  version := some ⟨1483228799, 1500000000, by decide⟩
  pages := ⟨[("main", ⟨"index.html", ""⟩)], by decide⟩
  methods := ⟨[
    ("all", .emit "sent"),
    ("echo", .echo),
    ("ping", .reply (.object [("max", .int 18446744073709551615),
      ("min", .array [.int (-9223372036854775808), .null])]))], by decide⟩
  listeners := ⟨[("answer", ⟨.all, some "answered"⟩), ("ready", ⟨.page, none⟩)], by decide⟩

theorem json_round_trip_of_quiz :
    (∀ name v, quiz.methods.find? name = some (.reply v) →
        v.Whole ∧ v.Canonical ∧ v.depth < 100) ∧
      (Json.parse quiz.toJson.text).toOption.bind Manifest.ofValue? = some quiz := by
  have answers : ∀ name v, quiz.methods.find? name = some (.reply v) →
      v.Whole ∧ v.Canonical ∧ v.depth < 100 := by
    intro name v found
    have member := (quiz.methods.mem_entries name _).2 found
    simp only [quiz, List.mem_cons, Prod.mk.injEq, reduceCtorEq, and_false, false_or,
      List.not_mem_nil, or_false, MethodSpec.reply.injEq] at member
    obtain ⟨-, rfl⟩ := member
    have ends : Json.Fits 18446744073709551615 ∧ Json.Fits (-9223372036854775808) := by decide
    have order : Entries.Ascending [("max", Value.int 18446744073709551615),
        ("min", .array [.int (-9223372036854775808), .null])] := by decide
    exact ⟨⟨ends.1, ⟨ends.2, trivial, trivial⟩, trivial⟩,
      ⟨order, trivial, ⟨trivial, trivial, trivial⟩, trivial⟩, by decide⟩
  exact ⟨answers, json_round_trip.2.2.2.2.2.2.2.2.2 quiz answers⟩

end AppHost
