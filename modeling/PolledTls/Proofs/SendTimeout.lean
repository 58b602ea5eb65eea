import PolledTls.Proofs.OpenTimeout
import PolledTls.Proofs.Servicing

/-!
The deadline of a send. It runs from the poll that first serviced the send as the head of the queue,
so what a send waits behind others is not counted, and where it has passed the send is given up
before anything is written for it.
-/
namespace PolledTls

variable {P : Platform}

/-- What a timeout of a send is reported with: the time gone by and the bytes that are left. -/
def Callback.sendTimeout? : Callback → Option (Duration × Nat)
  | .failed _ (.sendTimeout elapsed unsent) => some (elapsed, unsent)
  | _ => none

namespace Event

def sendTimeouts (events : List Event) : List (Duration × Nat) :=
  (callbacks events).filterMap Callback.sendTimeout?

@[simp] theorem sendTimeouts_append (first second : List Event) :
    sendTimeouts (first ++ second) = sendTimeouts first ++ sendTimeouts second := by
  rw [sendTimeouts, callbacks_append, List.filterMap_append]
  rfl

theorem sendTimeouts_of_unserviced {events : List Event}
    (unseen : events.all unserviced = true) : sendTimeouts events = [] := by
  apply List.filterMap_eq_nil_iff.mpr
  intro fired member
  have alone := List.all_eq_true.mp unseen _ (mem_callbacks.mp member)
  unfold Callback.sendTimeout?
  split
  · cases alone
  · rfl

theorem map_settled_results (events : List Event) :
    (settled events).map (·.2) = completions events := by
  rw [settled, callbacks, completions, List.map_filterMap, List.filterMap_filterMap]
  congr 1
  funext event
  cases event with
  | callback fired => cases fired <;> rfl
  | _ => rfl

/-- A completion is one of a send that is named. -/
theorem length_completions (events : List Event) :
    (completions events).length = (sends events).length := by
  rw [← map_settled_results, ← map_settled, List.length_map, List.length_map]

end Event

namespace Entry

/-- A call gives a send up: it only reads, and after the read the send completes with an error and
the owner is told why. The connection stays open on the same session, and the sends behind are left
as they were. -/
structure GivesUp (e : Entry P) (ticket owner : Ticket) (error : Error) : Prop where
  unwritten : ∃ room stored answer, e.calls = [.read room stored answer]
  reported : ∃ earlier, e.events = earlier ++ [.log (.sendTimedOut e.before.host error),
      .callback (.sent ticket .error), .callback (.failed owner error)] ∧
    ∀ fired ∈ Event.callbacks earlier, ∃ bytes, fired = .received owner bytes
  kept : ∀ resource, .release resource ∉ e.events
  stays : ∃ channel session, e.before.phase = .opened channel ∧
    e.after.phase = .opened { channel with session }
  behind : e.after.outbox.messages = e.before.outbox.messages.tail

end Entry

namespace Connection

variable {c left last : Connection P} {now : Instant} {owner : Ticket} {es : List Event}
  {request : Option Request} {result : Except Error Unit} {calls : List (Entry P)}
  {channel : Channel P} {m : Message} {rest : List Message}

/-! What becomes of the head when it is serviced. -/

/-- A head whose deadline has passed is given up before a write. -/
theorem Serves.of_late (h : c.Serves now owner channel es left)
    (head : c.outbox.messages = m :: rest) {elapsed : Duration}
    (late : (m.deadlineAt now c.config.sendTimeout).passed? now = some elapsed) :
    es = [.log (.sendTimedOut c.host (.sendTimeout elapsed m.unsent)),
        .callback (.sent m.ticket .error),
        .callback (.failed owner (.sendTimeout elapsed m.unsent))] ∧
      left = { c with phase := .opened channel, outbox := ⟨rest⟩ } := by
  cases h with
  | rests nothing =>
      rw [nothing] at head
      cases head
  | expires same passed =>
      obtain ⟨rfl, rfl⟩ := List.cons.inj (head.symm.trans same)
      obtain rfl := Option.some.inj (late.symm.trans passed)
      exact ⟨rfl, rfl⟩
  | passes same inTime | stalls same inTime | writes same inTime | finishes same inTime
  | breaks same inTime =>
      obtain ⟨rfl, rfl⟩ := List.cons.inj (head.symm.trans same)
      rw [late] at inTime
      cases inTime

/-- A head whose deadline has not passed is offered for what is left of it, if anything is. -/
theorem Serves.of_inTime (h : c.Serves now owner channel es left)
    (head : c.outbox.messages = m :: rest)
    (inTime : (m.deadlineAt now c.config.sendTimeout).passed? now = none) :
    Event.sendTimeouts es = [] ∧
      (∀ offered answer, .call (.write offered answer) ∈ es → offered = m.rest.toList) ∧
      (m.unsent = 0 → es = [.callback (.sent m.ticket .ok)]) := by
  cases h with
  | rests nothing =>
      rw [nothing] at head
      cases head
  | expires same passed =>
      obtain ⟨rfl, rfl⟩ := List.cons.inj (head.symm.trans same)
      rw [inTime] at passed
      cases passed
  | passes same =>
      obtain ⟨rfl, rfl⟩ := List.cons.inj (head.symm.trans same)
      exact ⟨rfl, by simp, fun _ => rfl⟩
  | stalls same _ some | finishes same _ some | breaks same _ some =>
      obtain ⟨rfl, rfl⟩ := List.cons.inj (head.symm.trans same)
      refine ⟨?_, ?_, fun none => absurd none some⟩
      · simp [Event.sendTimeouts, Callback.sendTimeout?]
      · simp [Channel.releases]
  | writes same _ notices session some part =>
      obtain ⟨rfl, rfl⟩ := List.cons.inj (head.symm.trans same)
      refine ⟨?_, ?_, fun none => absurd none (by omega)⟩
      · simp [Event.sendTimeouts]
      · simp

/-- The head is the oldest send that has not completed; what is left of it is what was not accepted
yet, and its deadline runs from the first call that serviced it. -/
theorem Linked.oldest (h : Linked c calls last) (sound : c.Sound) (empty : c.outbox.messages = [])
    (head : last.outbox.messages = m :: rest) :
    let i := (Entry.completedBy calls).length
    (Entry.messages calls)[i]? = some m.payload.toList ∧
      Event.share i (Entry.eventsOf calls) ++ m.rest.toList = m.payload.toList ∧
      ∀ now, m.deadlineAt now c.config.sendTimeout =
        ⟨(Entry.servings i calls).head?.getD now, c.config.sendTimeout⟩ := by
  intro i
  have flow : Flow ([] ++ Entry.messages calls) ([] ++ Entry.eventsOf calls) last.outbox :=
    h.flow sound (.start empty)
  have completed : (Event.completions (Entry.eventsOf calls)).length = i :=
    Event.length_completions _
  rw [List.nil_append, List.nil_append,
    show last.outbox = ⟨m :: rest⟩ from congrArg Outbox.mk head] at flow
  have payload := flow.head
  have cut := flow.begun m rest rfl
  rw [completed] at payload cut
  exact ⟨payload, cut, Outbox.deadlineAt_head head (h.armed? sound empty)⟩

namespace Services

theorem of_late (h : c.Services now owner channel m rest es left)
    (phase : c.phase = .opened channel) {elapsed : Duration}
    (late : (m.deadlineAt now c.config.sendTimeout).passed? now = some elapsed) :
    Entry.GivesUp ⟨c, now, request, result, es, left⟩ m.ticket owner
        (.sendTimeout elapsed m.unsent) ∧
      Event.sendTimeouts es = [(elapsed, m.unsent)] := by
  cases h with
  | @mk first served _ answer head read stored asked session serves =>
      obtain ⟨rfl, rfl⟩ := serves.of_late head late
      have silent : Event.sendTimeouts first = [] := Event.filterMap_of_reading read fun _ => rfl
      refine ⟨⟨?_, ⟨first, rfl, Event.callbacks_of_reading read⟩, ?_, ?_, ?_⟩, ?_⟩
      · refine ⟨c.buffer.room, stored.take c.buffer.room, answer, ?_⟩
        rw [Entry.calls, Event.calls_append, asked]
        rfl
      · intro resource freed
        rcases List.mem_append.mp freed with among | among
        · cases List.all_eq_true.mp read _ among
        · simp at among
      · exact ⟨channel, session, phase, rfl⟩
      · exact (congrArg List.tail head).symm
      · rw [Event.sendTimeouts_append, silent]
        rfl

theorem of_inTime (h : c.Services now owner channel m rest es left)
    (inTime : (m.deadlineAt now c.config.sendTimeout).passed? now = none) :
    Event.sendTimeouts es = [] ∧
      (∀ offered answer, .call (.write offered answer) ∈ es → offered = m.rest.toList) ∧
      (m.unsent = 0 → Event.settled es = [(m.ticket, .ok)]) := by
  cases h with
  | @mk first served _ answer head read stored asked session serves =>
      obtain ⟨timeouts, writes, empty⟩ := serves.of_inTime head inTime
      have silent : Event.sendTimeouts first = [] := Event.filterMap_of_reading read fun _ => rfl
      have unsettled : Event.settled first = [] := Event.filterMap_of_reading read fun _ => rfl
      refine ⟨?_, ?_, ?_⟩
      · rw [Event.sendTimeouts_append, silent, timeouts]
        rfl
      · intro offered answer wrote
        rcases List.mem_append.mp wrote with among | among
        · cases List.all_eq_true.mp read _ among
        · exact writes offered answer among
      · intro nothing
        rw [Event.settled_append, unsettled, empty nothing]
        rfl

/-- The call that services a send first is never late, and it is done with an empty one. -/
theorem of_first (h : c.Services now owner channel m rest es left) (sound : m.Sound)
    (deadline : m.deadlineAt now c.config.sendTimeout = ⟨now, c.config.sendTimeout⟩) :
    Event.sendTimeouts es = [] ∧
      (m.payload.toList = [] → Event.settled es = [(m.ticket, .ok)]) := by
  have inTime : (m.deadlineAt now c.config.sendTimeout).passed? now = none := by
    rw [deadline, Deadline.passed?_eq_none_iff, Deadline.elapsed_eq, Nat.sub_self]
    exact Nat.zero_le _
  obtain ⟨timeouts, -, settled⟩ := h.of_inTime inTime
  refine ⟨timeouts, fun empty => settled ?_⟩
  have none : m.size = 0 := by
    rw [Message.size, Bytes.size_eq, empty]
    rfl
  exact Nat.le_zero.mp (none ▸ sound.unsent_le)

/-- The same in terms of the readings of the clock. -/
theorem timed_out (h : c.Services now owner channel m rest es left)
    (phase : c.phase = .opened channel) {first : Instant} {window : Duration}
    (same : c.config.sendTimeout = window) (deadline : m.deadlineAt now window = ⟨first, window⟩) :
    Event.sendTimeouts es =
        (if first < now ∧ window < now - first then [(now - first, m.unsent)] else []) ∧
      (first < now ∧ window < now - first →
        Entry.GivesUp ⟨c, now, request, result, es, left⟩ m.ticket owner
          (.sendTimeout (now - first) m.unsent)) ∧
      ∀ offered answer, .write offered answer ∈ Event.calls es →
        offered = m.rest.toList ∧ (now ≤ first ∨ now - first ≤ window) := by
  subst same
  by_cases late : first < now ∧ c.config.sendTimeout < now - first
  · have passed : (m.deadlineAt now c.config.sendTimeout).passed? now = some (now - first) := by
      rw [deadline, Deadline.passed?_eq_some_iff, Deadline.elapsed_eq]
      exact ⟨rfl, late.2⟩
    obtain ⟨givesUp, timeouts⟩ := h.of_late phase passed
    refine ⟨timeouts.trans (if_pos late).symm, fun _ => givesUp, ?_⟩
    intro offered answer wrote
    obtain ⟨room, stored, read, only⟩ := givesUp.unwritten
    rw [Entry.calls] at only
    rw [only, List.mem_singleton] at wrote
    cases wrote
  · have inTime : (m.deadlineAt now c.config.sendTimeout).passed? now = none := by
      rw [deadline, Deadline.passed?_eq_none_iff]
      exact Nat.le_of_not_lt fun beyond => late (Deadline.late_iff.mp beyond)
    obtain ⟨timeouts, writes, -⟩ := h.of_inTime inTime
    refine ⟨timeouts.trans (if_neg late).symm, fun passed => absurd passed late, ?_⟩
    intro offered answer wrote
    refine ⟨writes offered answer (Event.mem_calls.mp wrote), ?_⟩
    rcases Nat.lt_or_ge first now with begun | early
    · exact .inr (Nat.le_of_not_lt fun beyond => late ⟨begun, beyond⟩)
    · exact .inl early

end Services

/-- For every history, with any clock and any window. The deadline of a send runs from the reading of
the first call that services it as the head of the queue. That call is never late, and it completes
an empty send. A later one gives the send up if its reading is later by more than the window, with
the time gone by and the bytes not accepted; else it reports no timeout. What is written for a send
is therefore written in time, and no other call writes or reports a timeout of a send. -/
theorem sends_time_out (config : Config) (s : P.State) (turns : List (Turn P)) :
    let calls := (idle config : Connection P).history s turns
    (∀ past e later, calls = past ++ e :: later → e.services = true →
      let i := (Entry.completedBy past).length
      ∃ bytes ticket owner first,
        (Entry.messages past)[i]? = some bytes ∧ (Entry.acceptedBy past)[i]? = some ticket ∧
        Entry.attempt past = some owner ∧
        (Entry.servings i (past ++ [e])).head? = some first ∧
        (Entry.servings i past = [] → Event.sendTimeouts e.events = [] ∧
          (bytes = [] → Event.settled e.events = [(ticket, .ok)])) ∧
        let late := first < e.now ∧ config.sendTimeout < e.now - first
        let accepted := Event.share i (Entry.eventsOf past)
        let unsent := bytes.length - accepted.length
        Event.sendTimeouts e.events = (if late then [(e.now - first, unsent)] else []) ∧
        (late → e.GivesUp ticket owner (.sendTimeout (e.now - first) unsent)) ∧
        ∀ offered answer, .write offered answer ∈ e.calls →
          bytes = accepted ++ offered ∧ (e.now ≤ first ∨ e.now - first ≤ config.sendTimeout)) ∧
    ∀ e ∈ calls, e.services = false → Event.sendTimeouts e.events = [] ∧
      ∀ offered answer, .write offered answer ∉ e.calls := by
  have fresh : (idle config : Connection P).Sound := sound_idle config
  intro calls
  constructor
  · intro past e later split serviced i
    obtain ⟨before, step⟩ := history_at split
    obtain ⟨owner, channel, m, rest, listener, phase, services⟩ := step.services serviced
    have head := services.head
    have sound : m.Sound := ((before.sound fresh).outbox.spelled head).head
    obtain ⟨payload, cut, deadline⟩ := before.oldest fresh rfl head
    have under : e.before.listener.map (·.ticket) = Entry.attempt past := before.attempt fresh
    have window : e.before.config = config := before.config
    refine ⟨m.payload.toList, m.ticket, owner, (Entry.servings i past).head?.getD e.now, payload,
      before.head_ticket rfl head, ?_, ?_, ?_, ?_⟩
    · rw [← under, listener]
      rfl
    · rw [Entry.servings_concat, if_pos ⟨serviced, rfl⟩, List.head?_append, List.head?_cons,
        Option.or_some]
    · intro unseen
      have now := deadline e.now
      rw [show Entry.servings _ past = [] from unseen] at now
      exact services.of_first sound (by rw [window]; exact now)
    · intro late accepted unsent
      have same : unsent = m.unsent := by
        change m.payload.toList.length - _ = _
        rw [← cut, List.length_append, Nat.add_sub_cancel_left]
        exact (Bytes.size_eq _).symm
      rw [same]
      obtain ⟨timeouts, givesUp, writes⟩ :=
        services.timed_out phase (congrArg Config.sendTimeout window) (deadline e.now)
      refine ⟨timeouts, givesUp, ?_⟩
      intro offered answer wrote
      obtain ⟨rfl, inTime⟩ := writes offered answer wrote
      exact ⟨cut.symm, inTime⟩
  · intro e member unserviced
    obtain ⟨past, later, split⟩ := List.append_of_mem member
    obtain ⟨-, step⟩ := history_at split
    have unseen := step.unserviced unserviced
    refine ⟨Event.sendTimeouts_of_unserviced unseen, ?_⟩
    intro offered answer wrote
    cases List.all_eq_true.mp unseen _ (Event.mem_calls.mp wrote)

/-- Two sends with a window of 10. The first is serviced at 5 and in vain; at 15 its deadline has not
passed, at 16 it is given up. The second is serviced from then on, and at 26 it is still in time. -/
theorem sends_time_out_blocked :
    let config : Config := { host := "h", port := 1, sendTimeout := 10 }
    let s : Script := { write := [.count 0, .count 0, .count 0] }
    let calls := (idle config : Connection Script.platform).history s
      [⟨id, 0, .start 1⟩, ⟨id, 0, .poll⟩, ⟨id, 0, .poll⟩, ⟨id, 0, .poll⟩, ⟨id, 0, .send [7, 8] 2⟩,
        ⟨id, 0, .send [9] 3⟩, ⟨id, 5, .poll⟩, ⟨id, 15, .poll⟩, ⟨id, 16, .poll⟩, ⟨id, 16, .poll⟩,
        ⟨id, 26, .poll⟩]
    Entry.servings 0 calls = [5, 15, 16] ∧ Entry.servings 1 calls = [16, 26] ∧
      Event.settled (Entry.eventsOf calls) = [(2, .error), (3, .ok)] ∧
      ∃ past e later, calls = past ++ e :: later ∧ e.services = true ∧
        Event.sendTimeouts e.events = [(11, 2)] ∧ e.GivesUp 2 1 (.sendTimeout 11 2) := by
  intro config s calls
  let e := calls[8]
  have split : calls = calls.take 8 ++ e :: calls.drop 9 := rfl
  have serviced : e.services = true := by decide +kernel
  obtain ⟨bytes, ticket, owner, first, payload, named, owned, began, -, timeouts, givesUp, -⟩ :=
    (sends_time_out config s _).1 _ _ _ split serviced
  have message : (Entry.messages (calls.take 8))[(Entry.completedBy (calls.take 8)).length]? =
      some [7, 8] := by decide +kernel
  have head : (Entry.acceptedBy (calls.take 8))[(Entry.completedBy (calls.take 8)).length]? =
      some 2 := by decide +kernel
  have under : Entry.attempt (calls.take 8) = some 1 := by decide +kernel
  have since : (Entry.servings (Entry.completedBy (calls.take 8)).length
      (calls.take 8 ++ [e])).head? = some 5 := by decide +kernel
  obtain rfl : [7, 8] = bytes := Option.some.inj (message.symm.trans payload)
  obtain rfl : 2 = ticket := Option.some.inj (head.symm.trans named)
  obtain rfl : 1 = owner := Option.some.inj (under.symm.trans owned)
  obtain rfl : 5 = first := Option.some.inj (since.symm.trans began)
  have late : 5 < e.now ∧ config.sendTimeout < e.now - 5 := by decide +kernel
  have givenUp := givesUp late
  have elapsed : e.now - 5 = 11 := by decide +kernel
  have unsent : ([7, 8] : List UInt8).length - (Event.share (Entry.completedBy (calls.take 8)).length
      (Entry.eventsOf (calls.take 8))).length = 2 := by decide +kernel
  rw [if_pos late, elapsed, unsent] at timeouts
  rw [elapsed, unsent] at givenUp
  exact ⟨by decide +kernel, by decide +kernel, by decide +kernel, _, _, _, split, serviced, timeouts,
    givenUp⟩

end Connection
end PolledTls
