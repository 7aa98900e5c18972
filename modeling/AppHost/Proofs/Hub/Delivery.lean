import AppHost.Proofs.Hub.Readers
import AppHost.Proofs.Hub.Runs
import Mathlib.Order.Bounds.Defs

/-!
What a subscription receives, against what was sent to it: its page's events from the subscription
to the closing of the page. The events that it receives and the gaps that it is told make up a
prefix of what was sent, and the newest unread events up to the capacity are still to be had.
-/

set_option autoImplicit false
namespace AppHost

theorem Feed.capacityFor_least (buffer : Nat) :
    IsLeast {c | c.isPowerOfTwo ∧ max buffer 1 ≤ c} (capacityFor buffer) := by
  simp only [capacityFor]
  split
  · rename_i one
    exact ⟨⟨⟨0, rfl⟩, Nat.le_of_eq one⟩, fun c bound => one ▸ bound.2⟩
  · refine ⟨⟨⟨_, rfl⟩, ?_⟩, ?_⟩
    · have below := Nat.lt_log2_self (n := max buffer 1 - 1)
      omega
    · rintro c ⟨⟨k, rfl⟩, bound⟩
      refine Nat.pow_le_pow_right (by decide) ?_
      have below : max buffer 1 - 1 < 2 ^ k := by omega
      exact (Nat.log2_lt (by omega)).2 below

namespace HubStep

def sends (page : String) : HubStep → List ApplicationEvent
  | .emitToPage other event => if other = page then [event] else []
  | .emitToAll event => [event]
  | _ => []

/-- The events that are sent to a page until it is closed. -/
def sentUntilClosed (page : String) (steps : List HubStep) : List ApplicationEvent :=
  (steps.takeWhile (· ≠ .closePage page)).flatMap (sends page)

/-- The events that a subscription to a page is still to get. -/
def coming (page : String) (isOpen : Bool) (steps : List HubStep) : List ApplicationEvent :=
  if isOpen then sentUntilClosed page steps else []

theorem coming_cons (page : String) (isOpen : Bool) (a : HubStep) (rest : List HubStep) :
    coming page isOpen (a :: rest) =
      (if isOpen then a.sends page else []) ++
        coming page (isOpen && decide (a ≠ .closePage page)) rest := by
  cases isOpen with
  | false => rfl
  | true =>
    by_cases closing : a = .closePage page
    · simp [coming, sentUntilClosed, closing, sends]
    · simp [coming, sentUntilClosed, closing]

/-- An operation that a subscription to a page can notice, or that is its own. -/
def concerns (page : String) (number : Nat) : HubStep → Bool
  | .closePage other => other = page
  | .emitToPage other _ => other = page
  | .emitToAll _ => true
  | .receive other => other = number
  | .unsubscribe other => other = number
  | .closeAll => true
  | _ => false

end HubStep

/-- What a reader finds that has these messages before it, where so many are kept. -/
def Received.due {α : Type} (capacity : Nat) (isOpen : Bool) : List α → Received α
  | [] => if isOpen then .pending else .closed
  | oldest :: rest =>
    if rest.length < capacity then .message oldest else .lagged (rest.length + 1 - capacity)

/-- How many messages are behind a reader that has found something. -/
def Received.consumed {α : Type} : Received α → Nat
  | .message _ => 1
  | .lagged missed => missed
  | .pending => 0
  | .closed => 0

/-- What was found accounts for these messages: each was received in its turn, or is one of a gap. -/
inductive Accounts {α : Type} : List (Received α) → List α → Prop
  | nothing : Accounts [] []
  | message {found : List (Received α)} {read : List α} (content : α) :
      Accounts found read → Accounts (.message content :: found) (content :: read)
  | lagged {found : List (Received α)} {read : List α} (gap : List α) :
      Accounts found read → Accounts (.lagged gap.length :: found) (gap ++ read)
  | pending {found : List (Received α)} {read : List α} :
      Accounts found read → Accounts (.pending :: found) read
  | closed {found : List (Received α)} {read : List α} :
      Accounts found read → Accounts (.closed :: found) read

theorem Accounts.length {α : Type} {found : List (Received α)} {read : List α}
    (accounts : Accounts found read) : read.length = (found.map Received.consumed).sum := by
  induction accounts with
  | nothing => rfl
  | message content _ ih => simp [Received.consumed, ih, Nat.add_comm]
  | lagged gap _ ih => simp [Received.consumed, ih]
  | pending _ ih => simpa [Received.consumed] using ih
  | closed _ ih => simpa [Received.consumed] using ih

theorem Accounts.append {α : Type} {found later : List (Received α)} {read readLater : List α}
    (accounts : Accounts found read) (accountsLater : Accounts later readLater) :
    Accounts (found ++ later) (read ++ readLater) := by
  induction accounts with
  | nothing => exact accountsLater
  | message content _ ih => exact .message content ih
  | lagged gap _ ih =>
    rw [List.append_assoc]
    exact .lagged gap ih
  | pending _ ih => exact .pending ih
  | closed _ ih => exact .closed ih

namespace Standing

/-- A subscription to a page with all these events before it, of which so many are kept. -/
def ofUnread (capacity : Nat) (page : String) (unread : List ApplicationEvent) (isOpen : Bool) :
    Standing :=
  ⟨page, .ofUnread capacity unread, isOpen⟩

def foundBy (number : Nat) (s : Standing) (a : HubStep) : List (Received ApplicationEvent) :=
  if a = .receive number then [s.read.1] else []

def found (capacity number : Nat) : Standing → List HubStep → List (Received ApplicationEvent)
  | _, [] => []
  | s, a :: rest => s.foundBy number a ++ found capacity number (s.after capacity number a) rest

theorem after_of_not_concerns {capacity number : Nat} {s : Standing} {a : HubStep}
    (elsewhere : a.concerns s.page number = false) : s.after capacity number a = s := by
  cases a <;> simp_all [HubStep.concerns, after, close, eq_comm]

theorem found_filter (capacity number : Nat) (s : Standing) (steps : List HubStep) :
    s.found capacity number (steps.filter (·.concerns s.page number)) =
      s.found capacity number steps := by
  induction steps generalizing s with
  | nil => rfl
  | cons a rest ih =>
    cases concerned : a.concerns s.page number with
    | true =>
      rw [List.filter_cons_of_pos concerned]
      have next := ih (s.after capacity number a)
      rw [after_page] at next
      simp only [found, next]
    | false =>
      have other : a ≠ .receive number := by
        rintro rfl
        simp [HubStep.concerns] at concerned
      rw [List.filter_cons_of_neg (by simp [concerned]), ih]
      simp [found, foundBy, other, after_of_not_concerns concerned]

theorem read_ofUnread (capacity : Nat) (page : String) (unread : List ApplicationEvent)
    (isOpen : Bool) :
    (ofUnread capacity page unread isOpen).read =
      (.due capacity isOpen unread,
        ofUnread capacity page (unread.drop (Received.due capacity isOpen unread).consumed) isOpen) := by
  cases unread with
  | nil =>
    simp only [read, ofUnread, Backlog.ofUnread_nil, Backlog.take_empty, List.drop_nil]
    cases isOpen <;> rfl
  | cons oldest rest =>
    rcases Nat.lt_or_ge rest.length capacity with fits | behind
    · simp only [read, ofUnread, Received.due, if_pos fits, Backlog.take_ofUnread_cons fits]
      rfl
    · have more : capacity < (oldest :: rest).length := Nat.lt_succ_of_le behind
      simp only [read, ofUnread, Received.due, if_neg (Nat.not_lt.2 behind),
        Backlog.take_ofUnread_of_lt more]
      rfl

theorem accounts_due (capacity : Nat) (isOpen : Bool) (unread : List ApplicationEvent) :
    Accounts [.due capacity isOpen unread]
      (unread.take (Received.due capacity isOpen unread).consumed) := by
  cases unread with
  | nil =>
    cases isOpen with
    | true => exact .pending .nothing
    | false => exact .closed .nothing
  | cons oldest rest =>
    rcases Nat.lt_or_ge rest.length capacity with fits | behind
    · simp only [Received.due, if_pos fits]
      exact .message oldest .nothing
    · simp only [Received.due, if_neg (Nat.not_lt.2 behind), Received.consumed]
      have gap := Accounts.lagged ((oldest :: rest).take (rest.length + 1 - capacity)) .nothing
      rwa [List.length_take, List.length_cons, Nat.min_eq_left (Nat.sub_le _ _),
        List.append_nil] at gap

theorem accounts_foundBy (capacity number : Nat) (page : String) (unread : List ApplicationEvent)
    (isOpen : Bool) (a : HubStep) :
    Accounts ((ofUnread capacity page unread isOpen).foundBy number a)
      (unread.take
        (((ofUnread capacity page unread isOpen).foundBy number a).map Received.consumed).sum) := by
  by_cases own : a = .receive number
  · simpa [foundBy, own, read_ofUnread] using accounts_due capacity isOpen unread
  · simpa [foundBy, own] using Accounts.nothing

theorem after_ofUnread (capacity number : Nat) (page : String) (unread : List ApplicationEvent)
    (isOpen : Bool) {a : HubStep} (running : a ≠ .closeAll) :
    (ofUnread capacity page unread isOpen).after capacity number a =
      ofUnread capacity page
        (unread.drop
            (((ofUnread capacity page unread isOpen).foundBy number a).map Received.consumed).sum ++
          if isOpen then a.sends page else [])
        (isOpen && decide (a ≠ .closePage page)) := by
  cases a with
  | closePage other =>
    by_cases here : page = other
    · simp [after, close, ofUnread, foundBy, HubStep.sends, here]
    · simp [after, close, ofUnread, foundBy, HubStep.sends, here, Ne.symm here]
  | emitToPage other event =>
    by_cases here : page = other
    · cases isOpen <;>
        simp [after, accept, ofUnread, foundBy, HubStep.sends, here, Backlog.push_ofUnread]
    · simp [after, ofUnread, foundBy, HubStep.sends, here, Ne.symm here]
  | emitToAll event =>
    cases isOpen <;> simp [after, accept, ofUnread, foundBy, HubStep.sends, Backlog.push_ofUnread]
  | receive other =>
    by_cases own : other = number
    · simp [after, foundBy, HubStep.sends, own, read_ofUnread]
    · simp [after, foundBy, HubStep.sends, own]
  | closeAll => exact absurd rfl running
  | _ => simp [after, foundBy, HubStep.sends]

theorem found_ofUnread (capacity number : Nat) (page : String) (unread : List ApplicationEvent)
    (isOpen : Bool) {steps : List HubStep} (running : .closeAll ∉ steps) :
    ∃ read rest,
      unread ++ HubStep.coming page isOpen steps = read ++ rest ∧
      Accounts ((ofUnread capacity page unread isOpen).found capacity number steps) read ∧
      steps.foldl (·.after capacity number) (ofUnread capacity page unread isOpen) =
        ofUnread capacity page rest (isOpen && decide (.closePage page ∉ steps)) := by
  -- The subscription always stands as if it had just been made and all that is unread had come.
  induction steps generalizing unread isOpen with
  | nil => exact ⟨[], unread, by simp [HubStep.coming, HubStep.sentUntilClosed], .nothing, by simp⟩
  | cons a steps ih =>
    obtain ⟨notAll, runningLater⟩ := not_or.1 (mt List.mem_cons.2 running)
    have next := after_ofUnread capacity number page unread isOpen (Ne.symm notAll)
    have foundNow := accounts_foundBy capacity number page unread isOpen a
    generalize (((ofUnread capacity page unread isOpen).foundBy number a).map
      Received.consumed).sum = consumed at next foundNow
    obtain ⟨read, rest, split, accounts, last⟩ := ih (unread.drop consumed ++
      if isOpen then a.sends page else []) (isOpen && decide (a ≠ .closePage page)) runningLater
    refine ⟨unread.take consumed ++ read, rest, ?_, ?_, ?_⟩
    · rw [HubStep.coming_cons, List.append_assoc, ← split]
      simp only [← List.append_assoc, List.take_append_drop]
    · have later := foundNow.append accounts
      rwa [← next] at later
    · rw [List.foldl_cons, next, last]
      congr 1
      by_cases closing : a = .closePage page
      · simp [closing]
      · simp [closing, Ne.symm closing]

end Standing

namespace Hub

def found (number : Nat) : Hub → List HubStep → List (Received ApplicationEvent)
  | _, [] => []
  | h, a :: rest =>
    let later := found number (h.step a) rest
    if a = .receive number then (h.receive number).1 :: later else later

theorem found_eq {h : Hub} (coherent : h.Coherent) {number : Nat} {s : Standing}
    (present : h.standing? number = some s) {steps : List HubStep}
    (kept : .unsubscribe number ∉ steps) :
    h.found number steps = s.found h.capacity number steps := by
  induction steps generalizing h s with
  | nil => rfl
  | cons a rest ih =>
    obtain ⟨different, keptLater⟩ := not_or.1 (mt List.mem_cons.2 kept)
    have next := standing?_step coherent present (Ne.symm different)
    have later := ih (coherent_step coherent a) next keptLater
    rw [capacity_step] at later
    simp only [found, Standing.found, Standing.foundBy, later, (receive_eq coherent present).1]
    split <;> rfl

theorem found_congr {h : Hub} (coherent : h.Coherent) {number : Nat} {s : Standing}
    (present : h.standing? number = some s) {steps others : List HubStep}
    (kept : .unsubscribe number ∉ steps)
    (same : others.filter (·.concerns s.page number) = steps.filter (·.concerns s.page number)) :
    h.found number others = h.found number steps := by
  have keptToo : .unsubscribe number ∉ others := by
    intro dropped
    have concerned : HubStep.unsubscribe number ∈ others.filter (·.concerns s.page number) :=
      List.mem_filter.2 ⟨dropped, decide_eq_true rfl⟩
    rw [same] at concerned
    exact kept (List.mem_of_mem_filter concerned)
  rw [found_eq coherent present kept, found_eq coherent present keptToo,
    ← Standing.found_filter, same, Standing.found_filter]

theorem found_sent {h : Hub} (coherent : h.Coherent) {number : Nat} {page : String}
    (fresh : h.standing? number = some ⟨page, .empty, true⟩) {steps : List HubStep}
    (running : .closeAll ∉ steps) (kept : .unsubscribe number ∉ steps) :
    ∃ read rest,
      HubStep.sentUntilClosed page steps = read ++ rest ∧
      Accounts (h.found number steps) read ∧
      (h.run steps).standing? number =
        some (.ofUnread h.capacity page rest (decide (.closePage page ∉ steps))) := by
  rw [← Backlog.ofUnread_nil h.capacity] at fresh
  obtain ⟨read, rest, split, accounts, last⟩ :=
    Standing.found_ofUnread h.capacity number page [] true running
  refine ⟨read, rest, split, ?_, ?_⟩
  · rw [found_eq coherent fresh kept]
    exact accounts
  · rw [standing?_run coherent fresh kept]
    exact congrArg some (last.trans (by rw [Bool.true_and]))

/-- The law of delivery. A feed keeps the least power of two of events that is as many as were asked
for. What a subscription has found accounts for the first so many of the events that were sent
since it was made until its page was closed, the rest of them is before it, and no operation on
other pages or of other subscriptions makes a difference. Who sends is told how many readers there
are. -/
theorem delivery (applicationId : String) (buffer : Nat) :
    let capacity := Feed.capacityFor buffer
    IsLeast {c | c.isPowerOfTwo ∧ max buffer 1 ≤ c} capacity ∧
    (∀ before page number subscribed after,
      ((new applicationId buffer).run before).subscribe page = (some number, subscribed) →
      .closeAll ∉ after → .unsubscribe number ∉ after →
        let h := subscribed.run after
        let found := subscribed.found number after
        let consumed := (found.map Received.consumed).sum
        let sent := HubStep.sentUntilClosed page after
        (consumed ≤ sent.length ∧ Accounts found (sent.take consumed)) ∧
        (h.receive number).1 =
          .due capacity (decide (.closePage page ∉ after)) (sent.drop consumed) ∧
        (∀ others,
          others.filter (·.concerns page number) = after.filter (·.concerns page number) →
          subscribed.found number others = found) ∧
        (number ∈ h.readers page ↔ .closePage page ∉ after)) ∧
    (∀ steps, .closeAll ∉ steps →
      let h := (new applicationId buffer).run steps
      (∀ page event, (h.emitToPage page event).1 = h.subscriberCount page ∧
        h.subscriberCount page = (h.readers page).length) ∧
      (∀ event, (h.emitToAll event).1 = (h.pages.keys.map h.subscriberCount).sum ∧
        (h.emitToAll event).1 = h.listeners.length)) := by
  intro capacity
  refine ⟨Feed.capacityFor_least buffer, ?_, ?_⟩
  · intro before page number subscribed after attached running kept h found consumed sent
    have made : subscribed = ((new applicationId buffer).run before).step (.subscribe page) := by
      simp only [step, attached]
    have coherent : subscribed.Coherent :=
      made ▸ coherent_step (coherent_run (coherent_new _ _) before) _
    have size : subscribed.capacity = capacity := by
      rw [made, capacity_step, capacity_run]
      rfl
    have fresh := standing?_subscribe_self attached
    obtain ⟨read, rest, split, accounts, last⟩ := found_sent coherent fresh running kept
    have length : read.length = consumed := accounts.length
    have taken : sent.take consumed = read := by
      rw [← length]
      exact (congrArg _ split).trans List.take_left
    have left : sent.drop consumed = rest := by
      rw [← length]
      exact (congrArg _ split).trans List.drop_left
    refine ⟨⟨?_, taken ▸ accounts⟩, ?_, ?_, ?_⟩
    · have total := congrArg List.length split
      rw [List.length_append, length] at total
      exact Nat.le.intro total.symm
    · rw [(receive_eq (coherent_run coherent after) last).1, Standing.read_ofUnread, left, size]
    · intro others same
      exact found_congr coherent fresh kept same
    · rw [mem_readers, last]
      simp [Standing.ofUnread]
  · intro steps running h
    have up : h.isShutDown = false := isShutDown_run _ running
    exact ⟨fun page event => ⟨h.reached_emitToPage page event, subscriberCount_eq up page⟩,
      fun event => ⟨h.reached_emitToAll event, reached_emitToAll_of_up up event⟩⟩

/-- Where two are kept and five were sent, three are missed. -/
theorem delivery_behind :
    let before := [HubStep.openPage "p"]
    let sent : List ApplicationEvent := [⟨"1", []⟩, ⟨"2", []⟩, ⟨"3", []⟩, ⟨"4", []⟩, ⟨"5", []⟩]
    let after := sent.map (HubStep.emitToPage "p") ++ [.receive 0, .receive 0]
    let subscribed := ((new "app" 2).run before).step (.subscribe "p")
    ((new "app" 2).run before).subscribe "p" = (some 0, subscribed) ∧
      subscribed.found 0 after = [.lagged 3, .message ⟨"4", []⟩] ∧
      ((subscribed.run after).receive 0).1 = .message ⟨"5", []⟩ := by
  intro before sent after subscribed
  have attached : ((new "app" 2).run before).subscribe "p" = (some 0, subscribed) := rfl
  have law := (delivery "app" 2).2.1 before "p" 0 subscribed after attached (by decide) (by decide)
  exact ⟨attached, by decide +kernel, law.2.1.trans (by decide +kernel)⟩

end Hub

end AppHost
