import AppHost.Admin.Service
import AppHost.Proofs.Host.Reactions
import AppHost.Proofs.Json.Results

/-!
Events that operators send. A request is answered with the number of streams only if its body was
read and the application runs, and then one event goes to the page that the body names, or to all.
-/

set_option autoImplicit false
namespace AppHost

namespace Host
variable {h after : Host} {event : ApplicationEvent} {reached : Nat}

theorem emitToPage_eq_ok {page : PageRef}
    (sent : h.emitToPage page event = (.ok reached, after)) :
    ∃ i, h.running? page.applicationId = some i ∧ after =
      h.setRunning page.applicationId { i with hub := i.hub.send (some page.pageId) event } := by
  obtain ⟨i, target, served, rfl⟩ := ask_eq_ok sent
  refine ⟨i, running?_of_pageTarget target, ?_⟩
  cases resolved : i.resolvePage page.pageId with
  | error e =>
    rw [Instance.emitToServed_of_failed resolved] at served
    cases served
  | ok p =>
    simp only [Instance.emitToServed, resolved]
    rfl

theorem emitToAll_eq_ok {id : String} (sent : h.emitToAll id event = (.ok reached, after)) :
    ∃ i, h.running? id = some i ∧
      after = h.setRunning id { i with hub := i.hub.send none event } := by
  obtain ⟨i, target, -, rfl⟩ := ask_eq_ok sent
  exact ⟨i, running?_of_running target, rfl⟩

end Host

namespace Admin
open Json (Reading)

/-! ### Bodies -/

/-- What a draft has as arguments so far may be written and read again. -/
def EventBody.Draft.IsRereadable (d : EventBody.Draft) : Prop :=
  ∀ items, d.arguments = some items → ∀ v ∈ items, v.Rereadable

theorem EventBody.keeps_isRereadable {levels : Nat} (limit : levels ≤ Json.nestingLimit) :
    EventBody.shape.Keeps levels EventBody.Draft.IsRereadable := by
  intro field known
  simp only [EventBody.shape, List.mem_cons, List.not_mem_nil, or_false] at known
  rcases known with rfl | rfl | rfl
  · intro cs set rest found
    obtain ⟨_, -, found⟩ := bind_eq_ok found
    cases found
    exact fun d before => before
  · intro cs set rest found
    obtain ⟨_, -, found⟩ := bind_eq_ok found
    cases found
    exact fun d before => before
  · intro cs set rest found
    obtain ⟨⟨items, more⟩, list, found⟩ := bind_eq_ok found
    cases found
    have item := Json.gives_readAny (Nat.le_trans (Nat.sub_le levels 1) limit)
    intro d before given same
    cases same
    exact Json.gives_readList item _ _ _ list

theorem EventBody.gives_rereadable :
    Json.Gives (EventBody.reading Json.nestingLimit) fun b => ∀ v ∈ b.arguments, v.Rereadable := by
  apply Json.Shape.Keeps.read (EventBody.keeps_isRereadable (Nat.sub_le _ 1))
  · intro items absent
    cases absent
  · intro d b kept finished
    obtain ⟨name, -, finished⟩ := bind_eq_ok finished
    cases finished
    cases given : d.arguments with
    | none => exact List.forall_mem_nil _
    | some items => exact kept items given

/-! ### Requests -/

section
variable {α : Type} {r : Request} {reading : Reading α}

theorem status_bodyRefusal (text : String) (fault : Json.Fault) :
    (bodyRefusal text fault).status ≠ 200 := by
  unfold bodyRefusal
  dsimp only
  split <;> simp [Response.refusal]

/-- A body is refused unread, or it is read. -/
theorem Request.read_cases (r : Request) (reading : Reading α) :
    (∃ refusal, r.read reading = .error refusal ∧ refusal.status ≠ 200) ∨
      r.read reading = (Json.readWhole reading r.body).mapError (bodyRefusal r.body) := by
  unfold Request.read
  split
  · exact .inl ⟨_, rfl, by simp [Response.refusal]⟩
  split
  · exact .inl ⟨_, rfl, by simp [Response.refusal]⟩
  · exact .inr rfl

theorem Request.read_eq_ok {a : α} (read : r.read reading = .ok a) :
    Json.readWhole reading r.body = .ok a := by
  obtain ⟨refusal, refused, -⟩ | same := r.read_cases reading
  · cases refused.symm.trans read
  rw [same] at read
  cases found : Json.readWhole reading r.body with
  | error fault =>
    rw [found] at read
    cases read
  | ok b =>
    rw [found] at read
    cases read
    rfl

theorem Request.status_of_unread {refusal : Response} (refused : r.read reading = .error refusal) :
    refusal.status ≠ 200 := by
  obtain ⟨other, unread, status⟩ | same := r.read_cases reading
  · cases unread.symm.trans refused
    exact status
  rw [same] at refused
  cases found : Json.readWhole reading r.body with
  | error fault =>
    rw [found] at refused
    cases refused
    exact status_bodyRefusal r.body fault
  | ok b =>
    rw [found] at refused
    cases refused

theorem status_of_unreadable_id {name written : String} {refusal : Response}
    (refused : idText name written = .error refusal) : refusal.status ≠ 200 := by
  unfold idText at refused
  split at refused
  · cases refused
  · cases refused
    simp [Response.refusal]

theorem status_failure (e : Error) : (Response.failure e).status ≠ 200 := by
  obtain ⟨kind, reason⟩ := e
  cases kind <;> simp [Response.failure, ErrorKind.status]

end

variable {h : Host} {now : Moment} {r : Request}

theorem answer_events_eq {written : String}
    (routed : Route.ofSegments? r.target.segments = some (.events written))
    (accepted : (answer h now r).1.status = 200) :
    ∃ id b, applicationId written = .ok id ∧ r.read EventBody.reading = .ok b ∧
      answer h now r = emit h id b := by
  unfold answer at accepted ⊢
  simp only [routed] at accepted ⊢
  split at accepted
  · rename_i known
    rw [if_pos known]
    simp only [perform] at accepted ⊢
    cases named : applicationId written with
    | error refusal =>
      rw [named] at accepted
      exact absurd accepted (status_of_unreadable_id named)
    | ok id =>
      cases read : r.read EventBody.reading with
      | error refusal =>
        rw [named, read] at accepted
        exact absurd accepted (Request.status_of_unread read)
      | ok b => exact ⟨id, b, rfl, rfl, rfl⟩
  · simp [Response.wrongMethod] at accepted

theorem emit_eq {id : String} {b : EventBody} (accepted : (emit h id b).1.status = 200) :
    ∃ i, h.running? id = some i ∧ (emit h id b).2 = h.setRunning id
      { i with hub := i.hub.send b.pageId (.ofValues b.name b.arguments) } := by
  unfold emit at accepted ⊢
  split at accepted
  · exact absurd accepted (status_failure _)
  · rename_i given
    rw [if_neg given]
    cases addressed : b.pageId with
    | some page =>
      rcases sent : h.emitToPage ⟨id, page⟩ (.ofValues b.name b.arguments) with ⟨e | reached, made⟩
      · simp only [addressed, sent] at accepted
        exact absurd accepted (status_failure _)
      · simp only [sent]
        exact Host.emitToPage_eq_ok sent
    | none =>
      rcases sent : h.emitToAll id (.ofValues b.name b.arguments) with ⟨e | reached, made⟩
      · simp only [addressed, sent] at accepted
        exact absurd accepted (status_failure _)
      · simp only [sent]
        exact Host.emitToAll_eq_ok sent

theorem status_answer_events {written id : String} {b : EventBody} {i : Instance}
    (routed : Route.ofSegments? r.target.segments = some (.events written))
    (posted : r.method = "POST") (named : applicationId written = .ok id)
    (read : r.read EventBody.reading = .ok b) (event : b.name.isEmpty = false)
    (runs : h.running? id = some i)
    (served : ∀ page, b.pageId = some page → PageRef.isNamed ⟨id, page⟩ = true ∧
      (i.pages.pages.find? page).isSome = true) (now : Moment) :
    (answer h now r).1.status = 200 := by
  have answered : answer h now r = emit h id b := by
    simp only [answer, routed, Route.methods, posted, perform, named, read]
    rfl
  rw [answered, emit, event]
  cases addressed : b.pageId with
  | some page =>
    obtain ⟨pageNamed, found⟩ := served page addressed
    obtain ⟨p, found⟩ := Option.isSome_iff_exists.1 found
    have sent := Host.emitToPage_of_running pageNamed runs (.ofValues b.name b.arguments)
    simp only [sent, Instance.emitToServed, Instance.resolvePage_of_found found]
    rfl
  | none =>
    have sent := Host.emitToAll_of_running runs (.ofValues b.name b.arguments)
    simp only [sent]
    rfl

/-- What an accepted request sends comes once to every open stream that it is for. Its arguments may
be written and read again. -/
theorem answer_delivers (orderly : h.Orderly) {written : String}
    (routed : Route.ofSegments? r.target.segments = some (.events written))
    (accepted : (answer h now r).1.status = 200) :
    ∃ id b i, applicationId written = .ok id ∧ r.read EventBody.reading = .ok b ∧
      (∀ v ∈ b.arguments, v.Rereadable) ∧ h.running? id = some i ∧
      h.Delivers id i.hub.capacity b.pageId (.ofValues b.name b.arguments) (answer h now r).2 := by
  obtain ⟨id, b, named, read, sends⟩ := answer_events_eq routed accepted
  rw [sends] at accepted ⊢
  obtain ⟨i, runs, left⟩ := emit_eq accepted
  refine ⟨id, b, i, named, read, ?_, runs, ?_⟩
  · exact EventBody.gives_rereadable.readWhole (Request.read_eq_ok read)
  · rw [left]
    exact Host.delivers_send orderly runs b.pageId _ i.log

end Admin
end AppHost
