import AppHost.Procedure
import AppHost.Proofs.Calendar.Timestamp
import AppHost.Proofs.Host.Serving
import AppHost.Proofs.Wire.RoundTrip

/-!
The answers to requests for pages, as whoever asked reads them. A host puts any version into its
answer, but not every timestamp is read as a point of time.
-/

set_option autoImplicit false
namespace AppHost
open Calendar (Instant)

namespace Wire.PageAnswer

theorem resolved_ofResolved (p : ResolvedPage) :
    (ofResolved p).resolved =
      match p.version with
      | none => .ok p
      | some v =>
        match v.folded with
        | some later => .ok { p with version := some later }
        | none => .error (.invalidTimestamp (.ofInstant v)) := by
  obtain ⟨fileName, title, version⟩ := p
  cases version with
  | none => rfl
  | some v =>
    simp only [ofResolved, resolved, Option.map_some, Timestamp.toInstant_ofInstant]
    cases v.folded <;> rfl

/-- An answer is read, its version as the same point of time, unless this has no timestamp. -/
theorem resolved_iff (p : ResolvedPage) :
    ((∃ read, (ofResolved p).resolved = .ok read) ↔ ∀ v, p.version = some v → v.folded ≠ none) ∧
      ∀ read, (ofResolved p).resolved = .ok read →
        read.fileName = p.fileName ∧ read.title = p.title ∧
          read.version.map (·.sinceEpoch) = p.version.map (·.sinceEpoch) := by
  rw [resolved_ofResolved]
  cases version : p.version with
  | none =>
    refine ⟨⟨fun _ v some => (by cases some), fun _ => ⟨p, rfl⟩⟩, ?_⟩
    rintro _ ⟨⟩
    exact ⟨rfl, rfl, by rw [version]⟩
  | some v =>
    dsimp only
    cases folds : v.folded with
    | none =>
      refine ⟨⟨fun ⟨read, failed⟩ => (by cases failed), fun all => (all v rfl folds).elim⟩, ?_⟩
      rintro _ ⟨⟩
    | some later =>
      refine ⟨⟨fun _ w same => ?_, fun _ => ⟨_, rfl⟩⟩, ?_⟩
      · cases same
        rw [folds]
        exact Option.some_ne_none later
      · rintro _ ⟨⟩
        exact ⟨rfl, rfl, congrArg some (Instant.sinceEpoch_of_folded folds)⟩

end Wire.PageAnswer

namespace Host
variable {h : Host} {now : Moment} {bytes answer : List UInt8}

theorem resolvePage_eq_ok {page : PageRef} {resolved : ResolvedPage}
    (found : (h.resolvePage page).1 = .ok resolved) :
    ∃ i p, h.running? page.applicationId = some i ∧ i.pages.pages.find? page.pageId = some p ∧
      resolved = ⟨p.fileName, p.title, i.version⟩ := by
  cases named : page.isNamed with
  | false =>
    obtain ⟨e, refused⟩ := h.pageTarget_of_refused named
    rw [resolvePage, refused] at found
    cases found
  | true =>
    cases runs : h.running? page.applicationId with
    | none =>
      rw [resolvePage_of_stopped named runs] at found
      cases found
    | some i =>
      rw [resolvePage_of_running named runs] at found
      cases served : i.pages.pages.find? page.pageId with
      | none =>
        rw [Instance.resolvePage_of_absent served] at found
        cases found
      | some p =>
        rw [Instance.resolvePage_of_found served] at found
        cases found
        exact ⟨i, p, rfl, served, rfl⟩

theorem call_resolvePage_eq_ok (answered : (Procedure.resolvePage.call h now bytes).1 = .ok answer) :
    ∃ (request : Wire.PageRequest) (resolved : ResolvedPage),
      Procedure.resolvePage.request.schema.decode bytes = .ok request ∧
      (h.resolvePage request.page).1 = .ok resolved ∧
      answer = Wire.pageAnswer.encode (.ofResolved resolved) := by
  unfold Procedure.call at answered
  cases read : Procedure.resolvePage.request.schema.decode bytes with
  | error fault =>
    rw [read] at answered
    cases answered
  | ok request =>
    rw [read] at answered
    simp only [Procedure.run] at answered
    rcases resolved : h.resolvePage request.page with ⟨e | p, after⟩
    · rw [resolved] at answered
      cases answered
    · rw [resolved] at answered
      cases answered
      exact ⟨request, p, rfl, by rw [resolved], rfl⟩

/-- Whatever a host answers to a request for a page, its message is read back. It is taken for an
answer exactly if the version that runs is not within the last leap second of the calendar, and then
it names the file, the title and the version of the page that was asked for. -/
theorem page_answer_is_read (answered : (Procedure.resolvePage.call h now bytes).1 = .ok answer)
    (fits : answer.length < 2 ^ 64) :
    ∃ (request : Wire.PageRequest) (i : Instance) (p : Page) (m : Wire.PageAnswer),
      Procedure.resolvePage.request.schema.decode bytes = .ok request ∧
      h.running? request.page.applicationId = some i ∧
      i.pages.pages.find? request.page.pageId = some p ∧
      Wire.pageAnswer.decode answer = .ok m ∧
      ((∃ read, m.resolved = .ok read) ↔
        ∀ v, i.version = some v →
          ¬ (v.second = Calendar.lastSecond ∧ Calendar.nanosPerSecond ≤ v.nano)) ∧
      ∀ read, m.resolved = .ok read →
        read.fileName = p.fileName ∧ read.title = p.title ∧
          read.version.map (·.sinceEpoch) = i.version.map (·.sinceEpoch) := by
  obtain ⟨request, resolved, asked, found, rfl⟩ := call_resolvePage_eq_ok answered
  obtain ⟨i, p, runs, served, rfl⟩ := resolvePage_eq_ok found
  have decoded := Wire.Schema.decode_of_reads (Wire.restores_pageAnswer _ fits)
  obtain ⟨readable, content⟩ := Wire.PageAnswer.resolved_iff ⟨p.fileName, p.title, i.version⟩
  refine ⟨request, i, p, _, asked, runs, served, decoded, readable.trans ?_, content⟩
  simp only [ne_eq, Instant.folded_eq_none_iff]

/-- A version within a leap second is read as one within the second after it. -/
theorem page_answer_is_read_folded :
    let now : Moment := ⟨⟨0, 0, by decide⟩, 0⟩
    let handler : Handler := ⟨fun _ _ _ => .done (.ok .null), Handler.ignoreEvent⟩
    let version : Instant := ⟨1483228799, 1500000000, by decide⟩
    let h := (new .default).run
      [(now, .launchWith ⟨"app", some version, [⟨"p", "a.html", "A"⟩]⟩ handler)]
    ∃ answer m read,
      (Procedure.resolvePage.call h now [10, 3, 97, 112, 112, 18, 1, 112]).1 = .ok answer ∧
      Wire.pageAnswer.decode answer = .ok m ∧ m.resolved = .ok read ∧
      read.fileName = "a.html" ∧ read.title = "A" ∧
      read.version.map (·.sinceEpoch) = some 1483228800500000000 := by
  intro now handler version h
  have answered : (Procedure.resolvePage.call h now [10, 3, 97, 112, 112, 18, 1, 112]).1 =
      .ok (Wire.pageAnswer.encode (.ofResolved ⟨"a.html", "A", some version⟩)) := rfl
  obtain ⟨request, i, p, m, asked, runs, served, decoded, readable, content⟩ :=
    page_answer_is_read answered (by decide)
  cases asked
  cases runs
  cases served
  obtain ⟨read, taken⟩ := readable.2 (by rintro v ⟨⟩; decide)
  obtain ⟨fileName, title, same⟩ := content read taken
  have moved : version.sinceEpoch = 1483228800500000000 := by decide
  exact ⟨_, m, read, answered, decoded, taken, fileName, title,
    same.trans (congrArg some moved)⟩

-- A manifest may name the last leap second as its version, since this has a text.
theorem last_leap_second_is_not_read :
    let now : Moment := ⟨⟨0, 0, by decide⟩, 0⟩
    let version : Instant := ⟨Calendar.lastSecond, Calendar.nanosPerSecond, by decide⟩
    let manifest : Manifest :=
      ⟨"app", true, false, some version, Dictionary.empty.insert "p" ⟨"a.html", "A"⟩, .empty, .empty⟩
    let h := (new .default).run [(now, .register manifest), (now, .launch "app" none)]
    Instant.parse "+262142-12-31T23:59:60Z" = .ok version ∧
      ∃ answer m,
        (Procedure.resolvePage.call h now [10, 3, 97, 112, 112, 18, 1, 112]).1 = .ok answer ∧
        Wire.pageAnswer.decode answer = .ok m ∧
        m.resolved = .error (.invalidTimestamp ⟨8210266876800, 0⟩) := by
  intro now version manifest h
  have answered : (Procedure.resolvePage.call h now [10, 3, 97, 112, 112, 18, 1, 112]).1 =
      .ok (Wire.pageAnswer.encode (.ofResolved ⟨"a.html", "A", some version⟩)) := rfl
  have decoded := Wire.Schema.decode_of_reads
    (Wire.restores_pageAnswer (.ofResolved ⟨"a.html", "A", some version⟩) (by decide))
  have moved : Timestamp.ofInstant version = ⟨8210266876800, 0⟩ := by decide
  have beyond : version.folded = none := (Instant.folded_eq_none_iff version).2 (by decide)
  refine ⟨by rfl, _, _, answered, decoded, ?_⟩
  rw [Wire.PageAnswer.resolved_ofResolved]
  simp only [beyond, moved]

end Host
end AppHost
