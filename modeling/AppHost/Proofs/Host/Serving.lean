import AppHost.Proofs.Host.History
import AppHost.Proofs.Hub.Readers

/-!
All ways to a page agree. Whether a page can be resolved, subscribed to, sent to and triggered on is
the same question, and what was done to pages before answers it: the registry and the hub of every
running instance say what the history says.
-/

set_option autoImplicit false
namespace AppHost

/-- What is known of an application's running instance is what was done. -/
structure Records (id : String) (deeds : List Deed) (i? : Option Instance) : Prop where
  sound : ∀ i, i? = some i → i.Sound id
  version : i?.map (·.version) = (Deed.launch? id deeds).map (·.version)
  page : ∀ page, (i?.bind fun i => i.pages.pages.find? page) = Deed.page? ⟨id, page⟩ deeds

theorem Page.fileName_of_valid {page : Page} (valid : page.validate = .ok ()) :
    page.fileName.isEmpty = false :=
  ((validate_eq_ok_iff page).1 valid).2

namespace Instance

theorem version_publishPages {pages : List Page} {i after : Instance}
    (served : i.publishPages pages = (.ok (), after)) : after.version = i.version := by
  induction pages generalizing i with
  | nil =>
    cases served
    rfl
  | cons page rest ih =>
    rw [ih (publishPages_cons_eq_ok served).2]
    rfl

theorem pages_publishPages {pages : List Page} {i after : Instance}
    (served : i.publishPages pages = (.ok (), after)) (id : String) :
    after.pages.pages.find? id =
      (pages.reverse.find? (·.id = id)).or (i.pages.pages.find? id) := by
  induction pages generalizing i with
  | nil =>
    cases served
    rfl
  | cons page rest ih =>
    rw [ih (publishPages_cons_eq_ok served).2, List.reverse_cons, List.find?_append, Option.or_assoc]
    congr 1
    simp only [serve, Dictionary.find?_insert]
    by_cases same : page.id = id <;> simp [same]

theorem subscribe_of_found {id page : String} {i : Instance} (sound : i.Sound id) {p : Page}
    (found : i.pages.pages.find? page = some p) :
    ∃ number hub, i.subscribe page = (.ok number, { i with hub }) ∧
      hub.standing? number = some ⟨page, .empty, true⟩ := by
  have isOpen := (agrees_iff_isSome i).1 sound.agrees page
  rw [found, Option.isSome_some] at isOpen
  obtain ⟨feed, opened⟩ := Option.isSome_iff_exists.1 isOpen.symm
  have subscribed : i.hub.subscribe page =
      (some i.hub.subscriptions.length, i.hub.add ⟨page, feed.sent, .live⟩) := by
    rw [Hub.subscribe, sound.up, if_neg Bool.false_ne_true, Hub.attach, opened]
    rfl
  refine ⟨_, _, ?_, Hub.standing?_subscribe_self subscribed⟩
  simp only [subscribe, resolvePage_of_found found, subscribed]

theorem subscribe_of_failed {i : Instance} {page : String} {e : RuntimeError}
    (failed : i.resolvePage page = .error e) : i.subscribe page = (.error e, i) := by
  simp only [subscribe, failed]

theorem emitToServed_of_failed {i : Instance} {page : String} {e : RuntimeError}
    (failed : i.resolvePage page = .error e) (event : ApplicationEvent) :
    i.emitToServed page event = (.error e, i) := by
  simp only [emitToServed, failed]

theorem emitToServed_of_found {i : Instance} {page : String} {p : Page}
    (found : i.pages.pages.find? page = some p) (event : ApplicationEvent) :
    i.emitToServed page event =
      (.ok (i.hub.subscriberCount page), (i.emitToPage page event).2) := by
  simp only [emitToServed, resolvePage_of_found found, emitToPage, Hub.reached_emitToPage]

theorem handleEvent_of_failed {i : Instance} {page : String} {e : RuntimeError}
    (failed : i.resolvePage page = .error e) (time : Calendar.Instant) (event : String)
    (arguments : List String) (isTrusted : Bool) :
    i.handleEvent time page event arguments isTrusted = (.error e, i) := by
  simp only [handleEvent, failed]

theorem run_of_answered {α : Type} {i : Instance} {time : Calendar.Instant}
    {activity : Activity (Except RuntimeError α)} {answer : α}
    (answered : (activity.run time ⟨i.hub, i.log⟩).1 = .ok answer) (heading : String) :
    (i.run time heading activity).1 = .ok answer := by
  simp only [run]
  rw [answered]

end Instance

namespace Records
variable {id : String} {deeds : List Deed} {before after : Option Instance} {deed? : Option Deed}

theorem none (id : String) : Records id [] none where
  sound i none := by cases none
  version := rfl
  page _ := rfl

theorem elsewhere (records : Records id deeds before)
    (elsewhere : ∀ deed ∈ deed?, deed.concerns id = false) :
    Records id (deed?.toList ++ deeds) before where
  sound := records.sound
  version := by
    cases deed? with
    | none => exact records.version
    | some deed =>
      rw [records.version]
      exact congrArg _ (Deed.launch?_cons (elsewhere deed rfl) deeds).symm
  page page := by
    cases deed? with
    | none => exact records.page page
    | some deed =>
      rw [records.page page]
      exact (Deed.page?_cons (elsewhere deed rfl) deeds).symm

theorem turn (records : Records id deeds before) (turn : Turn id deed? before after) :
    Records id (deed?.toList ++ deeds) after := by
  cases turn with
  | @launched d handler buffer time i here served =>
    refine ⟨?_, ?_, ?_⟩
    · rintro _ ⟨⟩
      exact Instance.sound_publishPages (Instance.sound_start ..) served
    · simp [Deed.launch?, here, Instance.version_publishPages served, Instance.start]
    · intro page
      simp [Deed.page?, here, Instance.pages_publishPages served, Instance.start, PageRegistry.empty]
  | stopped => exact ⟨by simp, by simp [Deed.launch?], by simp [Deed.page?]⟩
  | allStopped => exact ⟨by simp, by simp [Deed.launch?], by simp [Deed.page?]⟩
  | @published i page valid =>
    refine ⟨?_, ?_, ?_⟩
    · rintro _ ⟨⟩
      exact Instance.sound_serve (records.sound i rfl) valid
    · exact records.version
    · intro other
      have known := records.page other
      simp only [Option.bind_some] at known
      simp only [Option.bind_some, Instance.serve, Dictionary.find?_insert, Option.toList_some,
        List.singleton_append, Deed.page?, true_and, known]
  | @unpublished i page =>
    refine ⟨?_, ?_, ?_⟩
    · rintro _ ⟨⟩
      exact Instance.sound_withdraw (records.sound i rfl) page
    · exact records.version
    · intro other
      have known := records.page other
      simp only [Option.bind_some] at known
      simp [Instance.withdraw, Dictionary.find?_erase, Deed.page?, known]
  | @quiet _ i steps log elsewhere quiet =>
    have same := records.elsewhere elsewhere
    refine ⟨?_, same.version, same.page⟩
    rintro _ ⟨⟩
    exact Instance.sound_run_quiet (records.sound i rfl) quiet log
  | idle elsewhere => exact records.elsewhere elsewhere

theorem run {h : Host} (records : Records id deeds (h.running? id))
    (operations : List (Moment × Operation)) :
    Records id (h.history deeds operations) ((h.run operations).running? id) := by
  induction operations generalizing h deeds with
  | nil => exact records
  | cons o rest ih => exact ih (records.turn (h.turn o.1 o.2 id))

end Records

namespace Host

/-- The arguments of an event are JSON, and the code of its application does not fail on it. -/
def Answers (h : Host) (now : Moment) (t : EventTrigger) : Prop :=
  ∃ i values, h.running? t.applicationId = some i ∧ decodeArguments t.arguments = .ok values ∧
    ((i.handler.handleEvent ⟨i.applicationId, t.pageId, false⟩ t.name values).run now.date
      ⟨i.hub, i.log⟩).1 = .ok ()

/-- All ways to a page lead there. -/
structure Serves (h : Host) (page : PageRef) (answer : ResolvedPage) : Prop where
  resolved : h.resolvePage page = (.ok answer, h)
  -- A new stream reads the page, and has nothing to read yet.
  subscribed : ∃ number i,
    h.subscribe page = (.ok ⟨h.runningRef page.applicationId, number⟩,
      h.setRunning page.applicationId i) ∧
    i.hub.standing? number = some ⟨page.pageId, .empty, true⟩
  -- An event reaches all streams of the page.
  sent : ∀ event, ∃ after, h.emitToPage page event = (.ok (h.subscriberCount page), after)
  triggered : ∀ now t, t.page = page → t.name.isEmpty = false → h.Answers now t →
    (h.trigger now t).1 = .ok ()

/-- All ways to a page end with the answer that it is not there. -/
structure Lacks (h : Host) (page : PageRef) : Prop where
  resolved : h.resolvePage page = (.error (.pageNotFound page), h)
  subscribed : h.subscribe page = (.error (.pageNotFound page), h)
  sent : ∀ event, h.emitToPage page event = (.error (.pageNotFound page), h)
  triggered : ∀ now t, t.page = page → t.name.isEmpty = false →
    h.trigger now t = (.error (.pageNotFound page), h)

variable {h : Host} {page : PageRef} {i : Instance}

theorem lacks_of_stopped (named : page.isNamed = true)
    (stopped : h.running? page.applicationId = none) : h.Lacks page where
  resolved := resolvePage_of_stopped named stopped
  subscribed := subscribe_of_stopped named stopped
  sent := emitToPage_of_stopped named stopped
  triggered now t same event := by
    subst same
    exact trigger_of_stopped named event stopped now

theorem lacks_of_absent (named : page.isNamed = true)
    (runs : h.running? page.applicationId = some i) (sound : i.Sound page.applicationId)
    (absent : i.pages.pages.find? page.pageId = none) : h.Lacks page := by
  have failed : i.resolvePage page.pageId = .error (.pageNotFound page) := by
    rw [Instance.resolvePage_of_absent absent, Instance.pageRef, sound.applicationId]
  refine ⟨?_, ?_, fun event => ?_, fun now t same event => ?_⟩
  · rw [resolvePage_of_running named runs, failed]
  · rw [subscribe_of_running named runs, Instance.subscribe_of_failed failed, setRunning_self runs]
    rfl
  · rw [emitToPage_of_running named runs, Instance.emitToServed_of_failed failed,
      setRunning_self runs]
  · subst same
    have unheard : i.handleEvent now.date t.pageId t.name t.arguments false =
        (.error (.pageNotFound t.page), i) := Instance.handleEvent_of_failed failed ..
    have runs : h.running? t.applicationId = some i := runs
    rw [trigger_of_running named event runs, unheard, setRunning_self runs]

theorem serves_of_found (named : page.isNamed = true)
    (runs : h.running? page.applicationId = some i) (sound : i.Sound page.applicationId) {p : Page}
    (found : i.pages.pages.find? page.pageId = some p) :
    h.Serves page ⟨p.fileName, p.title, i.version⟩ := by
  have resolved := Instance.resolvePage_of_found found
  refine ⟨?_, ?_, fun event => ?_, ?_⟩
  · rw [resolvePage_of_running named runs, resolved]
  · obtain ⟨number, hub, subscribed, fresh⟩ := Instance.subscribe_of_found sound found
    refine ⟨number, { i with hub }, ?_, fresh⟩
    rw [subscribe_of_running named runs, subscribed]
    rfl
  · refine ⟨h.setRunning page.applicationId (i.emitToPage page.pageId event).2, ?_⟩
    rw [emitToPage_of_running named runs, Instance.emitToServed_of_found found, subscriberCount, runs]
  · rintro now t rfl event ⟨same, values, runsToo, decoded, answered⟩
    cases runs.symm.trans runsToo
    rw [trigger_of_running named event runs]
    change (i.handleEvent now.date t.page.pageId t.name t.arguments false).1 = .ok ()
    simp only [Instance.handleEvent, resolved, decoded]
    exact Instance.run_of_answered answered _

theorem handleEvent_manifest (m : Manifest) (context : EventContext) (event : String)
    (values : List Json.Value) (time : Calendar.Instant) (o : Outlets) :
    ((m.handler.handleEvent context event values).run time o).1 = .ok () := by
  simp only [Manifest.handler]
  split
  · rename_i listener found
    simp only [ListenerSpec.answer]
    cases listener.target <;> rfl
  · rfl

/-- After any run, for every application: what runs, what it serves and what is open are as the
history says. And for every page: where the history has it, all ways lead there, else none does. -/
theorem serving (options : HostOptions) (operations : List (Moment × Operation)) :
    let h := (new options).run operations
    let deeds := (new options).history [] operations
    (∀ id i, h.running? id = some i →
      i.pages.pages.keys = i.hub.pages.keys ∧
      (Deed.launch? id deeds).map (·.version) = some i.version ∧
      ∀ page, i.pages.pages.find? page = Deed.page? ⟨id, page⟩ deeds) ∧
    (∀ page : PageRef, page.isNamed = true →
      (∀ p, Deed.page? page deeds = some p →
        ∃ d, Deed.launch? page.applicationId deeds = some d ∧ p.fileName.isEmpty = false ∧
          h.Serves page ⟨p.fileName, p.title, d.version⟩) ∧
      (Deed.page? page deeds = none → h.Lacks page)) ∧
    (∀ (m : Manifest) context event values time o,
      ((m.handler.handleEvent context event values).run time o).1 = .ok ()) := by
  intro h deeds
  have records (id : String) : Records id deeds (h.running? id) :=
    Records.run (Records.none id) operations
  refine ⟨fun id i runs => ?_, fun page named => ?_, handleEvent_manifest⟩
  · have known := records id
    rw [runs] at known
    exact ⟨(known.sound i rfl).agrees, known.version.symm, known.page⟩
  · have known := records page.applicationId
    have answer := known.page page.pageId
    cases runs : h.running? page.applicationId with
    | none =>
      rw [runs] at answer
      refine ⟨fun p published => ?_, fun _ => lacks_of_stopped named runs⟩
      cases answer.trans published
    | some i =>
      rw [runs] at known answer
      have sound := known.sound i rfl
      refine ⟨fun p published => ?_, fun absent => ?_⟩
      · have found : i.pages.pages.find? page.pageId = some p := answer.trans published
        obtain ⟨d, launched, version⟩ := Option.map_eq_some_iff.1 known.version.symm
        refine ⟨d, launched, Page.fileName_of_valid (sound.valid _ _ found).2, ?_⟩
        rw [version]
        exact serves_of_found named runs sound found
      · exact lacks_of_absent named runs sound (answer.trans absent)

/-- A page that is there twice in a launch, and one that is published and unpublished. -/
theorem serving_last_published :
    let handler : Handler := ⟨fun _ _ _ => .done (.ok .null), Handler.ignoreEvent⟩
    let now : Moment := ⟨⟨0, 0, by decide⟩, 0⟩
    let h := (new .default).run
      [(now, .launchWith ⟨"app", none, [⟨"p", "a.html", "A"⟩, ⟨"p", "b.html", "B"⟩]⟩ handler),
        (now, .publishPage "app" ⟨"q", "q.html", "Q"⟩), (now, .unpublishPage ⟨"app", "q"⟩)]
    h.resolvePage ⟨"app", "p"⟩ = (.ok ⟨"b.html", "B", none⟩, h) ∧ h.Lacks ⟨"app", "q"⟩ := by
  intro handler now h
  have pages := (serving .default
    [(now, .launchWith ⟨"app", none, [⟨"p", "a.html", "A"⟩, ⟨"p", "b.html", "B"⟩]⟩ handler),
      (now, .publishPage "app" ⟨"q", "q.html", "Q"⟩), (now, .unpublishPage ⟨"app", "q"⟩)]).2.1
  obtain ⟨d, launched, -, serves⟩ := (pages ⟨"app", "p"⟩ (by decide)).1 ⟨"p", "b.html", "B"⟩ rfl
  cases launched
  exact ⟨serves.resolved, (pages ⟨"app", "q"⟩ (by decide)).2 rfl⟩

end Host

end AppHost
