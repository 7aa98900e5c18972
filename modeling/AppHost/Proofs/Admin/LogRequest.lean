import AppHost.Admin.Service
import AppHost.Proofs.Host.LogLookup

/-!
A request for the log of an application, where others come between its steps. It looks for the log,
then asks whether the application runs, and reads what the log has last of all. Its word on the
running is that of its second step, while the log may be of an instance that was stopped before the
first.
-/

set_option autoImplicit false
namespace AppHost.Admin

/-- A request for a log, as far as it has come. -/
inductive LogRequest
  | asking
  -- The log of this instance is in hand,
  | holding (target : InstanceRef)
  -- and it is known whether the application runs.
  | knowing (target : InstanceRef) (running : Bool)
  | answered (running : Bool) (entries : List LogEntry)
  | refused (e : RuntimeError)
  deriving DecidableEq

namespace LogRequest

def step (h : Host) (now : Moment) (id : String) : LogRequest → LogRequest × Host
  | .asking =>
    match h.findLog now id with
    | (.ok target, after) => (.holding target, after)
    | (.error e, after) => (.refused e, after)
  | .holding target => (.knowing target (h.isRunning id), h)
  | .knowing target running =>
    match h.instance? target with
    | some i => (.answered running i.log.entries, h)
    | none => (.refused (.applicationLogNotFound id), h)
  | .answered running entries => (.answered running entries, h)
  | .refused e => (.refused e, h)

def response? (id : String) : LogRequest → Option Response
  | .answered running entries =>
    some (.json (.object [("application_id", .string id), ("running", .bool running),
      ("entries", .array (entries.map (·.toJson)))]))
  | .refused e => some (.failure (.ofRuntime e))
  | _ => none

/-- A request to which nobody comes between. -/
def alone (h : Host) (now : Moment) (id : String) : LogRequest × Host :=
  let (second, h) := step h now id .asking
  let (third, h) := second.step h now id
  third.step h now id

theorem step_asking (h : Host) (now : Moment) (id : String) :
    step h now id .asking =
      (match (h.findLog now id).1 with
        | .ok target => .holding target
        | .error e => .refused e,
        h.perform now (.findLog id)) := by
  have performed : h.perform now (.findLog id) = (h.findLog now id).2 := rfl
  rw [performed]
  unfold step
  rcases h.findLog now id with ⟨_ | target, after⟩ <;> rfl

theorem alone_eq (h : Host) (now : Moment) (id : String) :
    ((alone h now id).1.response? id, (alone h now id).2) =
      (some (log h now id).1, (log h now id).2) := by
  unfold alone log step
  rcases h.findLog now id with ⟨_ | target, after⟩
  · rfl
  · dsimp only
    cases after.instance? target <;> rfl

/-- At its own turns the request takes its next step, at the others an operation is performed. -/
def turn (id : String) (s : LogRequest × Host) : Moment × Option Operation → LogRequest × Host
  | (now, none) => s.1.step s.2 now id
  | (now, some op) => (s.1, s.2.perform now op)

def run (id : String) (s : LogRequest × Host) (turns : List (Moment × Option Operation)) :
    LogRequest × Host :=
  turns.foldl (turn id) s

def others (operations : List (Moment × Operation)) : List (Moment × Option Operation) :=
  operations.map fun o => (o.1, some o.2)

/-- The three turns of a request, with what is done before, between and after them. -/
structure Schedule where
  before : List (Moment × Operation)
  fetch : Moment
  between : List (Moment × Operation)
  check : Moment
  meanwhile : List (Moment × Operation)
  read : Moment
  after : List (Moment × Option Operation)

def Schedule.turns (s : Schedule) : List (Moment × Option Operation) :=
  others s.before ++ (s.fetch, none) :: (others s.between ++ (s.check, none) ::
    (others s.meanwhile ++ (s.read, none) :: s.after))

variable {id : String} {h : Host} {r : LogRequest} {running : Bool} {entries : List LogEntry}
  {turns : List (Moment × Option Operation)}

theorem run_others (id : String) (s : LogRequest × Host) (operations : List (Moment × Operation)) :
    run id s (others operations) = (s.1, s.2.run operations) := by
  induction operations generalizing s with
  | nil => rfl
  | cons o rest ih => exact ih (s.1, s.2.perform o.1 o.2)

theorem run_turn (id : String) (s : LogRequest × Host) (operations : List (Moment × Operation))
    (now : Moment) (rest : List (Moment × Option Operation)) :
    run id s (others operations ++ (now, none) :: rest) =
      run id (s.1.step (s.2.run operations) now id) rest := by
  have reached : (others operations).foldl (turn id) s = (s.1, s.2.run operations) :=
    run_others id s operations
  rw [run, List.foldl_append, reached]
  rfl

theorem run_refused (id : String) (e : RuntimeError) (h : Host)
    (turns : List (Moment × Option Operation)) : (run id (.refused e, h) turns).1 = .refused e := by
  induction turns generalizing h with
  | nil => rfl
  | cons t rest ih => rcases t with ⟨now, _ | op⟩ <;> exact ih _

theorem run_answered (id : String) (running : Bool) (entries : List LogEntry) (h : Host)
    (turns : List (Moment × Option Operation)) :
    (run id (.answered running entries, h) turns).1 = .answered running entries := by
  induction turns generalizing h with
  | nil => rfl
  | cons t rest ih => rcases t with ⟨now, _ | op⟩ <;> exact ih _

/-! ### Every request that is answered had three turns -/

theorem others_or_turn (turns : List (Moment × Option Operation)) :
    (∃ operations, turns = others operations) ∨
      ∃ operations now rest, turns = others operations ++ (now, none) :: rest := by
  induction turns with
  | nil => exact .inl ⟨[], rfl⟩
  | cons t rest ih =>
    obtain ⟨now, op | op⟩ := t
    · exact .inr ⟨[], now, rest, rfl⟩
    · rcases ih with ⟨operations, rfl⟩ | ⟨operations, next, later, rfl⟩
      · exact .inl ⟨(now, op) :: operations, rfl⟩
      · exact .inr ⟨(now, op) :: operations, next, later, rfl⟩

theorem next_turn (answered : (run id (r, h) turns).1 = .answered running entries)
    (open? : r ≠ .answered running entries) :
    ∃ operations now rest, turns = others operations ++ (now, none) :: rest ∧
      (run id (r.step (h.run operations) now id) rest).1 = .answered running entries := by
  rcases others_or_turn turns with ⟨operations, rfl⟩ | ⟨operations, now, rest, rfl⟩
  · rw [run_others] at answered
    exact absurd answered open?
  · rw [run_turn] at answered
    exact ⟨operations, now, rest, rfl, answered⟩

theorem exists_schedule (answered : (run id (.asking, h) turns).1 = .answered running entries) :
    ∃ s : Schedule, turns = s.turns := by
  obtain ⟨before, fetch, rest, rfl, next⟩ := next_turn answered (by simp)
  rw [step_asking] at next
  cases found : ((h.run before).findLog fetch id).1 with
  | error e =>
    rw [found, run_refused] at next
    cases next
  | ok target =>
    rw [found] at next
    obtain ⟨between, check, rest, rfl, later⟩ := next_turn next (by simp)
    obtain ⟨meanwhile, read, after, rfl, -⟩ := next_turn later (by simp)
    exact ⟨⟨before, fetch, between, check, meanwhile, read, after⟩, rfl⟩

/-! ### What the answer says -/

theorem remembers_before (options : HostOptions) (id : String) (s : Schedule)
    (forward : s.turns.Pairwise fun a b => a.1.elapsed ≤ b.1.elapsed) :
    ((Host.new options).run s.before).Remembers id s.fetch.elapsed
      ((Host.new options).lastRetirement? id none s.before) := by
  obtain ⟨earlier, -, follows⟩ := List.pairwise_append.1 forward
  rw [others, List.pairwise_map] at earlier
  refine (Host.remembers_new options id).run (fun _ _ => Nat.zero_le _) earlier (Nat.zero_le _) ?_
  exact fun o member => follows _ (List.mem_map_of_mem member) _ List.mem_cons_self

/-- A request that is answered has had three turns. If there is a log at the first of them it is
answered, and otherwise it is refused, while time does not go back. If the application did not run
at the first turn, what is returned is the log that its stopped instance had already. It is said to
run then just if it was launched between the first turn and the second and not stopped again. -/
theorem answer_of_stopped (options : HostOptions) (id : String) :
    (∀ turns running entries,
      (run id (.asking, .new options) turns).1 = .answered running entries →
      ∃ s : Schedule, turns = s.turns) ∧
    ∀ s : Schedule, s.turns.Pairwise (fun a b => a.1.elapsed ≤ b.1.elapsed) →
      let h := (Host.new options).run s.before
      let request := (run id (.asking, .new options) s.turns).1
      match (h.findLog s.fetch id).1 with
      | .error e => request = .refused e
      | .ok target => ∃ i running entries, h.instance? target = some i ∧
        request = .answered running entries ∧
        (h.running? id = none → entries = i.log.entries ∧
          let held := h.perform s.fetch (.findLog id)
          (running = true ↔ ∃ d, Deed.launch? id (held.history [] s.between) = some d)) := by
  refine ⟨fun turns running entries => exists_schedule, fun s forward => ?_⟩
  intro h request
  have known := remembers_before options id s forward
  have asked : request = (run id (step h s.fetch id .asking) (others s.between ++
      (s.check, none) :: (others s.meanwhile ++ (s.read, none) :: s.after))).1 :=
    congrArg Prod.fst (run_turn id _ s.before s.fetch _)
  rw [step_asking] at asked
  split
  · rename_i e failed
    rw [asked, failed]
    exact run_refused ..
  · rename_i target found
    obtain ⟨here, i, present, retired⟩ := known.present_of_findLog found
    let held := h.perform s.fetch (.findLog id)
    let operations := (s.fetch, .findLog id) :: (s.between ++ s.meanwhile)
    have whole : (held.run s.between).run s.meanwhile = h.run operations := List.foldl_append.symm
    obtain ⟨j, later, -⟩ := Host.instance?_run present operations
    have answered : request = .answered ((held.run s.between).isRunning id) j.log.entries := by
      rw [asked, found]
      change (run id (.holding target, held) _).1 = _
      rw [run_turn]
      change (run id (.knowing target _, held.run s.between) _).1 = _
      rw [run_turn]
      dsimp only
      rw [whole, step, later]
      exact run_answered ..
    refine ⟨i, _, _, present, answered, fun stopped => ?_⟩
    have past : target ≠ h.runningRef target.applicationId := here.symm ▸ retired stopped
    obtain ⟨last, same, kept⟩ := Host.log_run_of_retired present past operations
    cases later.symm.trans same
    have unlaunched : held.running? id = none :=
      (Host.running?_congr (Host.application_perform_of_none h s.fetch rfl rfl id)).trans stopped
    exact ⟨congrArg Log.entries kept, Host.isRunning_run_iff unlaunched s.between⟩

/-- An application is launched again only when it is known already that it does not run. -/
theorem answer_of_stopped_relaunched :
    let m : Manifest := ⟨"a", true, false, none, .empty, .empty, .empty⟩
    let now : Moment := ⟨⟨0, 0, by decide⟩, 0⟩
    let s : Schedule := ⟨[(now, .register m), (now, .launch "a" none), (now, .stop "a")], now, [],
      now, [(now, .launch "a" none)], now, []⟩
    let entries : List LogEntry := [⟨now.date, .runtime, "application instance started"⟩,
      ⟨now.date, .runtime, "application instance stopped"⟩]
    (run "a" (.asking, .new .default) s.turns).1 = .answered false entries := by
  intro m now s entries
  have forward : s.turns.Pairwise fun a b => a.1.elapsed ≤ b.1.elapsed := by decide
  have answer := (answer_of_stopped .default "a").2 s forward
  have found : (((Host.new .default).run s.before).findLog s.fetch "a").1 = .ok ⟨"a", 0⟩ := by
    decide +kernel
  have log : (((Host.new .default).run s.before).instance? ⟨"a", 0⟩).map (·.log.entries) =
      some entries := by decide +kernel
  have stopped : ((Host.new .default).run s.before).running? "a" = none :=
    Option.isNone_iff_eq_none.1 (by decide +kernel)
  dsimp only at answer
  rw [found] at answer
  obtain ⟨i, running, _, present, answered, idle⟩ := answer
  obtain ⟨rfl, launched⟩ := idle stopped
  have log : i.log.entries = entries := by
    rw [present] at log
    exact Option.some.inj log
  have same : running = false := by
    rw [← Bool.not_eq_true, launched]
    rintro ⟨d, none⟩
    cases none
  rw [answered, same, log]

/-- Here it is launched again before that, and the log of the stopped instance comes with the word
that it runs. -/
theorem stopped_log_is_said_to_run :
    let m : Manifest := ⟨"a", true, false, none, .empty, .empty, .empty⟩
    let now : Moment := ⟨⟨0, 0, by decide⟩, 0⟩
    let s : Schedule := ⟨[(now, .register m), (now, .launch "a" none), (now, .stop "a")], now,
      [(now, .launch "a" none)], now, [], now, []⟩
    ((Host.new .default).run s.before).isRunning "a" = false ∧
      (run "a" (.asking, .new .default) s.turns).1 = .answered true
        [⟨now.date, .runtime, "application instance started"⟩,
          ⟨now.date, .runtime, "application instance stopped"⟩] := by
  decide +kernel

end LogRequest
end AppHost.Admin
