import PolledTls.Proofs.Reception
import PolledTls.Proofs.Sends
import PolledTls.Proofs.Stream.Step
import PolledTls.Scripted

/-!
A session may report any count for a read or a write. What it reports is cut to what it was given, so
no rule of the connection's own is broken: what is handed out is the front of the buffer as the read
left it, and a write counts for the message it was offered from and for no other.
-/
namespace PolledTls

variable {P : Platform}

def Callback.chunk? : Callback → Option (List UInt8)
  | .received _ bytes => some bytes
  | _ => none

/-- What a call makes the connection hand out, by the count it reports and the buffer it leaves. -/
def Call.handsOut (left : Buffer) : Call → List (List UInt8)
  | .read room _ (.ok count) => if count = 0 then [] else [left.toList.take (min count room)]
  | _ => []

theorem Call.handsOut_bounds {left : Buffer} {room : Nat} {stored chunk : List UInt8}
    {answer : Except IoError Nat} (whole : left.room = room) (roomy : 1 ≤ room)
    (out : chunk ∈ handsOut left (.read room stored answer)) : chunk ≠ [] ∧ chunk.length ≤ room := by
  cases answer with
  | error e => cases out
  | ok count =>
      by_cases none : count = 0
      · rw [handsOut, if_pos none] at out
        cases out
      · rw [handsOut, if_neg none, List.mem_singleton] at out
        have size : chunk.length = min count room := by
          rw [out, List.length_take, Buffer.length_toList, whole]
          omega
        refine ⟨?_, by omega⟩
        rintro rfl
        rw [List.length_nil] at size
        omega

namespace Event

/-- Whether an event can be seen outside the polls of an open connection. -/
def aside : Event → Bool
  | .call (.read ..) | .call (.write ..) | .callback (.received ..) | .callback (.failed ..) => false
  | _ => true

theorem spans_aside : Spans aside where
  setup event making := by
    unfold aside
    split
    · cases making
    · cases making
    · cases making
    · cases making
    · rfl
  opened _ _ := rfl
  sent _ _ := rfl
  closed _ := rfl
  shutdown := rfl

/-- The bytes handed out, chunk by chunk. -/
def chunks (events : List Event) : List (List UInt8) :=
  (callbacks events).filterMap Callback.chunk?

@[simp] theorem chunks_append (first second : List Event) :
    chunks (first ++ second) = chunks first ++ chunks second := by
  rw [chunks, callbacks_append, List.filterMap_append]
  rfl

@[simp] theorem chunks_call (made : Call) (rest : List Event) :
    chunks (.call made :: rest) = chunks rest := rfl

@[simp] theorem chunks_log (event : LogEvent) (rest : List Event) :
    chunks (.log event :: rest) = chunks rest := rfl

@[simp] theorem chunks_received (ticket : Ticket) (bytes : List UInt8) (rest : List Event) :
    chunks (.callback (.received ticket bytes) :: rest) = bytes :: chunks rest := rfl

theorem chunks_of_still {events : List Event} (silent : events.all still = true) :
    chunks events = [] := by
  apply List.filterMap_eq_nil_iff.mpr
  intro fired member
  have alone := List.all_eq_true.mp silent _ (mem_callbacks.mp member)
  cases fired with
  | received ticket bytes => cases alone
  | _ => rfl

theorem read_not_mem_of_still {events : List Event} (silent : events.all still = true) {room : Nat}
    {stored : List UInt8} {answer : Except IoError Nat} :
    .call (.read room stored answer) ∉ events := by
  intro member
  cases List.all_eq_true.mp silent _ member

/-- Only reads hand anything out. -/
theorem handsOut_of_unread {events : List Event} (left : Buffer)
    (unread : ∀ room stored answer, .call (.read room stored answer) ∉ events) :
    (calls events).flatMap (Call.handsOut left) = [] := by
  apply List.flatMap_eq_nil_iff.mpr
  intro made member
  cases made with
  | read room stored answer => exact absurd (mem_calls.mp member) (unread room stored answer)
  | _ => rfl

end Event

namespace Connection

variable {c left last : Connection P} {now : Instant} {ticket : Ticket} {es : List Event}
  {request : Option Request} {result : Except Error Unit} {calls : List (Entry P)}

/-! Reads. -/

theorem Serves.buffer {channel : Channel P} (h : c.Serves now ticket channel es left) :
    left.buffer = c.buffer := by
  cases h <;> rfl

/-- A poll of an open connection reads once, into all of the buffer. -/
theorem Transfers.read {channel : Channel P} (h : c.Transfers now ticket channel es left) :
    ∃ stored answer rest, left.buffer = c.buffer.store stored ∧
      es = .call (.read c.buffer.room (stored.take c.buffer.room) answer) :: rest ∧
      (∀ room stored answer, .call (.read room stored answer) ∉ rest) ∧
      Event.chunks rest =
        Call.handsOut left.buffer (.read c.buffer.room (stored.take c.buffer.room) answer) := by
  cases h with
  | @receives count served _ stored notices session some serves =>
      have silent := Event.chunks_of_still (Event.covers_still.remarks notices)
      have still := serves.all Event.covers_still
      refine ⟨stored, .ok count, Event.remarks notices ++ (_ :: _ :: []) ++ served, serves.buffer,
        rfl, ?_, ?_⟩
      · simp [Event.read_not_mem_of_still still]
      · rw [Call.handsOut, if_neg some, serves.buffer, ← Buffer.take_eq]
        simp [silent, Event.chunks_of_still still]
  | @listens answer served _ stored notices session stalled serves =>
      have silent := Event.chunks_of_still (Event.covers_still.remarks notices)
      have still := serves.all Event.covers_still
      refine ⟨stored, answer, Event.remarks notices ++ served, serves.buffer, rfl, ?_, ?_⟩
      · simp [Event.read_not_mem_of_still still]
      · rw [Event.chunks_append, silent, Event.chunks_of_still still]
        cases answer with
        | ok count =>
            have zero : count = 0 := stalled
            rw [Call.handsOut, if_pos zero, List.append_nil]
        | error e => rfl
  | @breaks e stored notices hard =>
      have silent := Event.chunks_of_still (Event.covers_still.remarks notices)
      refine ⟨stored, .error e, Event.remarks notices ++ Channel.releases ++ (_ :: _ :: []), rfl,
        rfl, ?_, ?_⟩
      · simp [Channel.releases]
      · rw [Event.chunks_append, Event.chunks_append, silent]
        rfl

/-- What a call hands out is what the read it makes reports, of the buffer as that read left it. -/
theorem Step.chunks (h : c.Step now request result es left) :
    Event.chunks es = (Event.calls es).flatMap (Call.handsOut left.buffer) := by
  rcases h.transfers_or_spans with ⟨ticket, channel, -, -, -, transferred⟩ | spans
  · obtain ⟨stored, answer, rest, -, rfl, unread, chunks⟩ := transferred.read
    have none := Event.handsOut_of_unread left.buffer unread
    change Event.chunks rest = _ ++ (Event.calls rest).flatMap _
    rw [chunks, none, List.append_nil]
  · have still := spans _ Event.covers_still.toSpans
    rw [Event.chunks_of_still still, Event.handsOut_of_unread]
    exact fun _ _ _ => Event.read_not_mem_of_still still

theorem Step.read_into (h : c.Step now request result es left) {room : Nat} {stored : List UInt8}
    {answer : Except IoError Nat} (read : .call (.read room stored answer) ∈ es) :
    room = c.buffer.room ∧ stored.length ≤ room ∧
      left.buffer.toList = stored ++ c.buffer.toList.drop stored.length := by
  rcases h.transfers_or_spans with ⟨ticket, channel, -, -, -, transferred⟩ | spans
  · obtain ⟨bytes, answer, rest, buffer, rfl, unread, -⟩ := transferred.read
    rcases List.mem_cons.mp read with same | other
    · cases same
      refine ⟨rfl, ?_, ?_⟩
      · rw [List.length_take]
        exact Nat.min_le_left _ _
      · rw [buffer, Buffer.toList_store]
    · exact absurd other (unread _ _ _)
  · exact absurd read (Event.read_not_mem_of_still (spans _ Event.covers_still.toSpans))

/-! Writes. -/

/-- A write that reports all it was offered, or more, completes the head and nothing else. -/
theorem Serves.of_overrun {channel : Channel P} {offered : List UInt8} {count : Nat}
    (h : c.Serves now ticket channel es left) (wrote : .call (.write offered (.ok count)) ∈ es)
    (all : offered.length ≤ count) :
    ∃ m, c.outbox.messages = m :: left.outbox.messages ∧ left.status = .opened ∧
      Event.settled es = [(m.ticket, .ok)] := by
  cases h with
  | @stalls m rest answer head inTime some notices session stalled =>
      obtain ⟨rfl, rfl⟩ : offered = m.rest.toList ∧ .ok count = answer := by simpa using wrote
      -- A count of zero is not all of what is left.
      cases stalled
      rw [← Bytes.size_eq] at all
      exact absurd (Nat.le_zero.mp all) some
  | @writes m rest accepted head inTime notices session some part =>
      obtain ⟨rfl, rfl⟩ : offered = m.rest.toList ∧ count = accepted := by simpa using wrote
      rw [← Bytes.size_eq] at all
      exact absurd all (Nat.not_le.mpr part)
  | @finishes m rest accepted head inTime some notices session whole =>
      exact ⟨m, head, rfl, by simp [Event.settled, Callback.settles?]⟩
  | _ => simp [Channel.releases] at wrote

theorem Transfers.of_overrun {channel : Channel P} {offered : List UInt8} {count : Nat}
    (h : c.Transfers now ticket channel es left) (wrote : .call (.write offered (.ok count)) ∈ es)
    (all : offered.length ≤ count) :
    ∃ m, c.outbox.messages = m :: left.outbox.messages ∧ left.status = .opened ∧
      Event.settled es = [(m.ticket, .ok)] := by
  cases h with
  | @receives _ served _ stored notices session some serves =>
      have there : .call (.write offered (.ok count)) ∈ served := by simpa using wrote
      obtain ⟨m, head, opened, settled⟩ := serves.of_overrun there all
      refine ⟨m, head, opened, ?_⟩
      rw [Event.settled_append, settled]
      simp [Event.settled, Callback.settles?]
  | @listens _ served _ stored notices session stalled serves =>
      have there : .call (.write offered (.ok count)) ∈ served := by simpa using wrote
      obtain ⟨m, head, opened, settled⟩ := serves.of_overrun there all
      refine ⟨m, head, opened, ?_⟩
      rw [Event.settled_append, settled]
      simp [Event.settled]
  | breaks stored notices hard => simp [Channel.releases] at wrote

theorem Step.of_overrun {offered : List UInt8} {count : Nat}
    (h : c.Step now request result es left) (wrote : .call (.write offered (.ok count)) ∈ es)
    (all : offered.length ≤ count) :
    ∃ m, c.outbox.messages = m :: left.outbox.messages ∧ left.status = .opened ∧
      Event.settled es = [(m.ticket, .ok)] := by
  rcases h.transfers_or_spans with ⟨ticket, channel, -, -, -, transferred⟩ | spans
  · exact transferred.of_overrun wrote all
  · cases List.all_eq_true.mp (spans _ Event.spans_aside) _ wrote

/-- Whatever counts the sessions report, in every history of a connection that could be created no
rule of its own is broken. A read is given the whole buffer and what it reports is handed out as one
chunk: the first bytes of the buffer as it was left, as many as reported but no more than there is
room for, and at least one. A write that reports all it was offered, or more than that, completes the
oldest send and leaves the ones behind it as they were queued. -/
theorem counts_stay_within (config : Config) (s : P.State) (c : Connection P)
    (created : (create config s).value = .ok c) (turns : List (Turn P)) :
    let calls := c.history (create config s).state turns
    (∀ e ∈ calls, ∀ fault, .fault fault ∉ e.events) ∧
    (∀ e ∈ calls, ∀ room stored answer, .read room stored answer ∈ e.calls →
      room = config.readChunkSize ∧ stored.length ≤ room ∧
        e.after.buffer.toList = stored ++ e.before.buffer.toList.drop stored.length) ∧
    (∀ e ∈ calls, Event.chunks e.events = e.calls.flatMap (Call.handsOut e.after.buffer) ∧
      ∀ chunk ∈ Event.chunks e.events, chunk ≠ [] ∧ chunk.length ≤ config.readChunkSize) ∧
    ∀ past e later, calls = past ++ e :: later →
      ∀ offered count, .write offered (.ok count) ∈ e.calls → offered.length ≤ count →
        (∃ ticket, (Entry.acceptedBy past)[(Entry.completedBy past).length]? = some ticket ∧
          Event.settled e.events = [(ticket, .ok)]) ∧
        e.after.status = .opened ∧
        e.after.outbox.messages = e.before.outbox.messages.tail ∧
        ∀ m ∈ e.after.outbox.messages, m.deadline = none ∧ m.unsent = m.size := by
  obtain ⟨rfl, checked⟩ := eq_idle_of_created created
  have fresh : (idle config : Connection P).Sound := sound_idle config
  have roomy := Config.readChunkSize_of_check checked
  intro calls
  have reads {e : Entry P} (member : e ∈ calls) {room : Nat} {stored : List UInt8}
      {answer : Except IoError Nat} (read : .read room stored answer ∈ e.calls) :
      room = config.readChunkSize ∧ stored.length ≤ room ∧
        e.after.buffer.toList = stored ++ e.before.buffer.toList.drop stored.length := by
    obtain ⟨past, later, split⟩ := List.append_of_mem member
    obtain ⟨before, step⟩ := history_at split
    obtain ⟨whole, most, left⟩ := step.read_into (Event.mem_calls.mp read)
    have same : e.before.config = config := before.config
    rw [(before.sound fresh).room, same] at whole
    exact ⟨whole, most, left⟩
  refine ⟨?_, fun e member room stored answer => reads member, ?_, ?_⟩
  · intro e member fault broken
    obtain ⟨past, later, split⟩ := List.append_of_mem member
    obtain ⟨-, step⟩ := history_at split
    have faultless := step.all Event.covers_faultless (fun _ _ _ => rfl) fun _ _ => rfl
    cases List.all_eq_true.mp faultless _ broken
  · intro e member
    obtain ⟨past, later, split⟩ := List.append_of_mem member
    obtain ⟨before, step⟩ := history_at split
    have room := (step.sound (before.sound fresh)).room
    have same : e.after.config = config := step.config.trans before.config
    rw [same] at room
    refine ⟨step.chunks, ?_⟩
    intro chunk out
    rw [step.chunks, List.mem_flatMap] at out
    obtain ⟨made, asked, out⟩ := out
    cases made with
    | read given stored answer =>
        obtain ⟨rfl, -⟩ := reads member asked
        exact Call.handsOut_bounds room roomy out
    | _ => cases out
  · intro past e later split offered count wrote all
    obtain ⟨before, step⟩ := history_at split
    obtain ⟨m, head, opened, settled⟩ := step.of_overrun (Event.mem_calls.mp wrote) all
    refine ⟨⟨m.ticket, before.head_ticket rfl head, settled⟩, opened, ?_, ?_⟩
    · rw [head]
      rfl
    · intro n member
      have behind : n.Fresh := (before.sound fresh).outbox.behind n (by rw [head]; exact member)
      exact ⟨behind.unarmed, behind.unsent_eq⟩

/-- A read that stores two bytes and claims a thousand, and a write that claims 99 of two: what is
handed out is filled up with the zeros of the buffer, and the second message waits on. -/
theorem counts_stay_within_boasting :
    let new : Connection Script.platform := idle { host := "h", port := 1, readChunkSize := 4 }
    let s : Script := { read := [.claim 1000 [1, 2]], write := [.count 99] }
    let calls := new.history s
      [⟨id, 0, .start 1⟩, ⟨id, 0, .poll⟩, ⟨id, 0, .poll⟩, ⟨id, 0, .poll⟩, ⟨id, 0, .send [5, 6] 2⟩,
        ⟨id, 0, .send [7] 3⟩, ⟨id, 0, .poll⟩]
    (create new.config s).value = .ok new ∧
      ∃ past e later, calls = past ++ e :: later ∧ .write [5, 6] (.ok 99) ∈ e.calls ∧
        .read 4 [1, 2] (.ok 1000) ∈ e.calls ∧ Event.chunks e.events = [[1, 2, 0, 0]] ∧
        Event.settled e.events = [(2, .ok)] ∧ e.after.pendingSends = 1 ∧
        ∀ m ∈ e.after.outbox.messages, m.deadline = none ∧ m.unsent = m.size := by
  intro new s calls
  have checked : Config.check { host := "h", port := 1, readChunkSize := 4 } = .ok () := rfl
  have made : create new.config s = ⟨.ok new, s, [.log (.created "h" 1)]⟩ := create_ok checked rfl
  have created : (create new.config s).value = .ok new := congrArg Traced.value made
  have bounds := counts_stay_within new.config s new created
  rw [made] at bounds
  obtain ⟨-, -, -, writes⟩ := bounds
    [⟨id, 0, .start 1⟩, ⟨id, 0, .poll⟩, ⟨id, 0, .poll⟩, ⟨id, 0, .poll⟩, ⟨id, 0, .send [5, 6] 2⟩,
      ⟨id, 0, .send [7] 3⟩, ⟨id, 0, .poll⟩]
  let e := calls[6]
  have split : calls = calls.take 6 ++ e :: calls.drop 7 := rfl
  have asked : e.calls = [.read 4 [1, 2] (.ok 1000), .write [5, 6] (.ok 99)] := by
    dsimp only [e, calls, new, s]
    rfl
  have wrote : .write [5, 6] (.ok 99) ∈ e.calls := by simp [asked]
  have head : (Entry.acceptedBy (calls.take 6))[(Entry.completedBy (calls.take 6)).length]? =
      some 2 := by decide +kernel
  have pending : e.before.outbox.messages.tail.length = 1 := by decide +kernel
  have out : Event.chunks e.events = [[1, 2, 0, 0]] := by decide +kernel
  obtain ⟨⟨ticket, sent, settled⟩, -, rest, fresh⟩ :=
    writes _ _ _ split [5, 6] 99 wrote (by decide)
  obtain rfl : 2 = ticket := Option.some.inj (head.symm.trans sent)
  refine ⟨created, _, _, _, split, wrote, by simp [asked], out, settled, ?_, fresh⟩
  rw [pendingSends, Outbox.size, rest, pending]

end Connection
end PolledTls
