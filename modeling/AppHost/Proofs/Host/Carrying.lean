import AppHost.Proofs.Admin.Events

/-!
What events carry. Arguments reach an application as values and are written anew for an event, so
that spelling and the order of keys may change, but no value does. What was written once is handed
on as it is.
-/

set_option autoImplicit false
namespace AppHost
open Json (Value)

/-- The texts in which an application hands on the arguments that are given to it. -/
def forwarded (arguments : List String) : Except RuntimeError (List String) :=
  (decodeArguments arguments).map fun values => values.map (·.text)

/-- These texts stand for the values, one by one, and would be handed on as they are. -/
structure Carries (sent : List String) (values : List Value) : Prop where
  same : Decode sent values
  again : forwarded sent = .ok sent

theorem forwarded_of_decode {arguments : List String} {values : List Value}
    (decoded : Decode arguments values) : forwarded arguments = .ok (values.map (·.text)) := by
  rw [forwarded, decodeArguments_eq_ok_iff.2 decoded]
  rfl

theorem Decode.rereadable {arguments : List String} {values : List Value}
    (decoded : Decode arguments values) : ∀ v ∈ values, v.Rereadable := by
  induction decoded with
  | nil => exact List.forall_mem_nil _
  | cons parsed rest ih => exact List.forall_mem_cons.2 ⟨Json.rereadable_of_parse parsed, ih⟩

theorem carries_texts {values : List Value} (rereadable : ∀ v ∈ values, v.Rereadable)
    (whole : ∀ v ∈ values, v.Whole) : Carries (values.map (·.text)) values := by
  have same : Decode (values.map (·.text)) values := by
    rw [Decode, List.forall₂_map_left_iff]
    exact List.forall₂_same.2 fun v member => (rereadable v member).parse_text (whole v member)
  exact ⟨same, forwarded_of_decode same⟩

namespace Host

/-- How the arguments of an event go through a host, on each way that an event can take. Those of
a page or of a caller are handed on; an operator's are values already. -/
structure HandsOn (h : Host) (now : Moment) : Prop where
  listener : ∀ {t : EventTrigger} {i : Instance} {m : Manifest} {l : ListenerSpec}
    {values : List Value}, h.running? t.applicationId = some i → i.handler = m.handler →
    m.listeners.find? t.name = some l → decodeArguments t.arguments = .ok values →
    (∀ v ∈ values, v.Whole) →
    ∃ sent, forwarded t.arguments = .ok sent ∧ Carries sent values ∧
      (t.page.isNamed = true → t.name.isEmpty = false →
        (i.pages.pages.find? t.pageId).isSome = true → (h.trigger now t).1 = .ok ()) ∧
      ((h.trigger now t).1 = .ok () →
        h.Delivers t.applicationId i.hub.capacity (l.audience t.pageId)
          ⟨l.emit.getD t.name, sent⟩ (h.trigger now t).2)
  method : ∀ {call : MethodInvocation} {i : Instance} {m : Manifest} {event : String}
    {values : List Value}, h.running? call.applicationId = some i → i.handler = m.handler →
    m.methods.find? call.method = some (.emit event) →
    decodeArguments call.arguments = .ok values → (∀ v ∈ values, v.Whole) →
    ∃ sent, forwarded call.arguments = .ok sent ∧ Carries sent values ∧
      (call.applicationId.isEmpty = false → call.method.isEmpty = false →
        ∃ result, (h.invoke now call).1 = .ok result) ∧
      ∀ result, (h.invoke now call).1 = .ok result →
        h.Delivers call.applicationId i.hub.capacity none ⟨event, sent⟩ (h.invoke now call).2
  operator : ∀ {r : Admin.Request} {written : String},
    Admin.Route.ofSegments? r.target.segments = some (.events written) →
    (Admin.answer h now r).1.status = 200 →
    ∃ id b i, Admin.applicationId written = .ok id ∧ r.read Admin.EventBody.reading = .ok b ∧
      h.running? id = some i ∧
      ((∀ v ∈ b.arguments, v.Whole) → ∃ sent, Carries sent b.arguments ∧
        h.Delivers id i.hub.capacity b.pageId ⟨b.name, sent⟩ (Admin.answer h now r).2)
  accepted : ∀ {r : Admin.Request} {written id : String} {b : Admin.EventBody} {i : Instance},
    Admin.Route.ofSegments? r.target.segments = some (.events written) → r.method = "POST" →
    Admin.applicationId written = .ok id → r.read Admin.EventBody.reading = .ok b →
    b.name.isEmpty = false → h.running? id = some i →
    (∀ page, b.pageId = some page → PageRef.isNamed ⟨id, page⟩ = true ∧
      (i.pages.pages.find? page).isSome = true) →
    (Admin.answer h now r).1.status = 200

theorem handsOn_of_orderly {h : Host} (orderly : h.Orderly) (now : Moment) : h.HandsOn now where
  listener := by
    intro t i m l values runs behaves listens accepted whole
    have decoded := decodeArguments_eq_ok_iff.1 accepted
    refine ⟨_, forwarded_of_decode decoded, carries_texts decoded.rereadable whole, ?_, ?_⟩
    · intro named event found
      obtain ⟨page, served⟩ := Option.isSome_iff_exists.1 found
      exact trigger_of_served named event runs behaves served accepted now
    · intro triggered
      obtain ⟨-, given, again, delivers⟩ :=
        trigger_delivers orderly runs behaves (Prod.ext triggered rfl)
      rw [listens] at delivers
      cases (decodeArguments_eq_ok_iff.2 again).symm.trans accepted
      exact delivers
  method := by
    intro call i m event values runs behaves declared accepted whole
    have decoded := decodeArguments_eq_ok_iff.1 accepted
    refine ⟨_, forwarded_of_decode decoded, carries_texts decoded.rereadable whole, ?_, ?_⟩
    · intro application method
      exact invoke_of_declared application method runs behaves declared accepted now
    · intro result invoked
      obtain ⟨-, spec, given, found, again, does⟩ :=
        invoke_delivers orderly runs behaves (Prod.ext invoked rfl)
      cases declared.symm.trans found
      cases (decodeArguments_eq_ok_iff.2 again).symm.trans accepted
      exact does.2
  operator := by
    intro r written routed accepted
    obtain ⟨id, b, i, named, read, rereadable, runs, delivers⟩ :=
      Admin.answer_delivers orderly routed accepted
    exact ⟨id, b, i, named, read, runs, fun whole =>
      ⟨_, carries_texts rereadable whole, delivers⟩⟩
  accepted := by
    intro r written id b i routed posted named read event runs served
    exact Admin.status_answer_events routed posted named read event runs served now

/-- After any run, arguments with no numbers but whole ones come through a host unchanged. An event
that a listener or a method sends on, and one that an operator sends, has as many arguments as were
given, in their order, and each is read as the value that was given. To hand them on a second time
would give the same texts. Arguments are refused exactly if one is not JSON, and then the first such
is named. -/
theorem carrying (options : HostOptions) (operations : List (Moment × Operation)) (now : Moment) :
    ((new options).run operations).HandsOn now ∧
      ∀ arguments,
        ((∃ e, decodeArguments arguments = .error e) ↔
          ∃ text ∈ arguments, ∃ fault, Json.parse text = .error fault) ∧
        ∀ e, decodeArguments arguments = .error e →
          ∃ position text fault, FirstUndecoded arguments position text fault ∧
            e = undecoded position text fault := by
  have orderly : ((new options).run operations).Orderly :=
    orderly_run (orderly_new options) operations
  refine ⟨handsOn_of_orderly orderly now, fun arguments => ⟨decodeArguments_fails_iff, ?_⟩⟩
  intro e failed
  exact decodeArguments_eq_error_iff.1 failed

/-- Keys that a page and an operator give out of order come in order. -/
theorem carrying_keys_in_order :
    let m : Manifest :=
      ⟨"app", true, false, none, .empty, .empty, Dictionary.empty.insert "hello" ⟨.all, none⟩⟩
    let now : Moment := ⟨⟨0, 0, by decide⟩, 0⟩
    let h := (new ⟨1, 0⟩).run [
      (now, .launchWith ⟨"app", none, [⟨"p", "p.html", "P"⟩]⟩ m.handler),
      (now, .subscribe ⟨"app", "p"⟩)]
    let given := "\x7b\"b\": 1, \"a\": [2]\x7d"
    let sent := "\x7b\"a\":[2],\"b\":1\x7d"
    let t : EventTrigger := ⟨"app", "p", "hello", [given]⟩
    let body := "\x7b\"name\": \"hello\", \"arguments\": [\x7b\"b\": 1, \"a\": [2]\x7d]\x7d"
    let r : Admin.Request :=
      ⟨"POST", ⟨["applications", "app", "events"], []⟩, some "application/json", body⟩
    (h.trigger now t).1 = .ok () ∧
      h.Delivers "app" 1 none ⟨"hello", [sent]⟩ (h.trigger now t).2 ∧
      (Admin.answer h now r).1.status = 200 ∧
      h.Delivers "app" 1 none ⟨"hello", [sent]⟩ (Admin.answer h now r).2 ∧
      forwarded [sent] = .ok [sent] := by
  intro m now h given sent t body r
  have triggered : (h.trigger now t).1 = .ok () := by decide +kernel
  have accepted : (Admin.answer h now r).1.status = 200 := by decide +kernel
  have capacity : (h.running? "app").map (·.hub.capacity) = some 1 := by decide +kernel
  have handler : (h.running? "app").map (·.handler) = some m.handler := rfl
  obtain ⟨i, runs, capacity⟩ := Option.map_eq_some_iff.1 capacity
  rw [runs] at handler
  obtain ⟨values, decoded, whole⟩ : ∃ values, decodeArguments [given] = .ok values ∧
    ∀ v ∈ values, v.Whole := by decide +kernel
  obtain ⟨⟨page, name, others⟩, read, rfl, rfl, texts, wholeOthers⟩ : ∃ b,
    Json.readWhole Admin.EventBody.reading body = .ok b ∧ b.pageId = none ∧ b.name = "hello" ∧
      b.arguments.map (·.text) = [sent] ∧ ∀ v ∈ b.arguments, v.Whole := by decide +kernel
  have again : forwarded [given] = .ok [sent] := by decide +kernel
  have named : Admin.applicationId "app" = .ok "app" := rfl
  obtain ⟨hands, -⟩ := carrying ⟨1, 0⟩ _ now
  obtain ⟨_, handed, -, -, delivers⟩ :=
    hands.listener (t := t) runs (Option.some.inj handler) rfl decoded whole
  cases again.symm.trans handed
  have delivers := delivers triggered
  obtain ⟨id, _, j, found, taken, same, law⟩ := hands.operator rfl accepted
  cases named.symm.trans found
  cases runs.symm.trans same
  cases read.symm.trans (Admin.Request.read_eq_ok taken)
  obtain ⟨_, carries, reaches⟩ := law wholeOthers
  cases (forwarded_of_decode carries.same).symm.trans carries.again
  rw [texts] at carries reaches
  rw [capacity] at delivers reaches
  exact ⟨triggered, delivers, accepted, reaches, carries.again⟩

end Host
end AppHost
