import Mathlib.Data.List.Induction
import PolledTls.Proofs.Bounds

/-!
The calls that service the head of the queue, numbered by the sends that have completed before. The
head is given its deadline by the first of them and keeps it until it completes; nothing behind the
head has one.
-/
namespace PolledTls

variable {P : Platform}

/-- Whether the answer to a read ends the connection, so that nothing is sent after it. -/
def Call.readFails : Call → Bool
  | .read _ _ (.error e) => !e.kind.isNotReady
  | _ => false

namespace Event

/-- Whether an event can be part of a read for that owner. -/
def reading (owner : Ticket) : Event → Bool
  | .call (.read ..) | .log _ => true
  | .callback (.received ticket _) => ticket == owner
  | _ => false

theorem callbacks_of_reading {owner : Ticket} {events : List Event}
    (read : events.all (reading owner) = true) :
    ∀ fired ∈ callbacks events, ∃ bytes, fired = .received owner bytes := by
  intro fired member
  have alone := List.all_eq_true.mp read _ (mem_callbacks.mp member)
  cases fired with
  | received ticket bytes =>
      obtain rfl := eq_of_beq alone
      exact ⟨bytes, rfl⟩
  | _ => cases alone

theorem filterMap_of_reading {α : Type} {pick : Callback → Option α} {owner : Ticket}
    {events : List Event} (read : events.all (reading owner) = true)
    (other : ∀ bytes, pick (.received owner bytes) = none) :
    (callbacks events).filterMap pick = [] := by
  apply List.filterMap_eq_nil_iff.mpr
  intro fired member
  obtain ⟨bytes, rfl⟩ := callbacks_of_reading read fired member
  exact other bytes

theorem reading_remarks (owner : Ticket) (notices : List Notice) :
    (remarks notices).all (reading owner) = true := by
  induction notices with
  | nil => rfl
  | cons notice rest ih => exact ih

/-- Whether an event can be seen where no send is serviced: it is no write and reports no timeout of
a send. -/
def unserviced : Event → Bool
  | .call (.write ..) | .callback (.failed _ (.sendTimeout ..)) => false
  | _ => true

theorem spans_unserviced : Spans unserviced where
  setup event making := by
    unfold unserviced
    split
    · cases making
    · cases making
    · rfl
  opened _ _ := rfl
  sent _ _ := rfl
  closed _ := rfl
  shutdown := rfl

theorem unserviced_of_reading {owner : Ticket} {events : List Event}
    (read : events.all (reading owner) = true) : events.all unserviced = true := by
  apply List.all_eq_true.mpr
  intro event member
  have alone := List.all_eq_true.mp read event member
  unfold unserviced
  split
  · cases alone
  · cases alone
  · rfl

end Event

namespace Entry

/-- Whether a call services the head of the queue: it polls an open connection that has a send
waiting, and the read that comes first does not fail. -/
def services (e : Entry P) : Bool :=
  match e.request with
  | some .poll =>
    e.before.status = .opened && e.before.pendingSends ≠ 0 && !e.calls.any Call.readFails
  | _ => false

theorem services_iff {e : Entry P} : e.services = true ↔
    e.request = some .poll ∧ e.before.status = .opened ∧ e.before.outbox.messages ≠ [] ∧
      e.calls.any Call.readFails = false := by
  unfold services
  split
  · rename_i polls
    simp [polls, Connection.pendingSends, Outbox.size, and_assoc]
  · rename_i other
    exact iff_of_false Bool.false_ne_true fun serviced => other serviced.1

/-- The readings of the calls that serviced the send of that number, if `done` had completed. -/
def servingsFrom (i : Nat) : Nat → List (Entry P) → List Instant
  | _, [] => []
  | done, e :: rest =>
    (if e.services ∧ done = i then [e.now] else []) ++
      servingsFrom i (done + (Event.sends e.events).length) rest

def servings (i : Nat) (calls : List (Entry P)) : List Instant :=
  servingsFrom i 0 calls

theorem servingsFrom_append (i done : Nat) (first second : List (Entry P)) :
    servingsFrom i done (first ++ second) =
      servingsFrom i done first ++ servingsFrom i (done + (completedBy first).length) second := by
  induction first generalizing done with
  | nil => rfl
  | cons e rest ih =>
      rw [List.cons_append, servingsFrom, ih, servingsFrom, completedBy_cons, List.length_append,
        List.append_assoc, Nat.add_assoc]

theorem servings_concat (i : Nat) (calls : List (Entry P)) (e : Entry P) :
    servings i (calls ++ [e]) =
      servings i calls ++ if e.services ∧ (completedBy calls).length = i then [e.now] else [] := by
  rw [servings, servingsFrom_append, Nat.zero_add]
  exact congrArg _ (List.append_nil _)

/-- No send is serviced before all earlier ones have completed. -/
theorem servingsFrom_of_gt {i done : Nat} {calls : List (Entry P)}
    (after : done + (completedBy calls).length < i) : servingsFrom i done calls = [] := by
  induction calls generalizing done with
  | nil => rfl
  | cons e rest ih =>
      rw [completedBy_cons, List.length_append] at after
      rw [servingsFrom, if_neg (by omega), ih (by omega)]
      rfl

theorem servings_of_gt {i : Nat} {calls : List (Entry P)} (after : (completedBy calls).length < i) :
    servings i calls = [] :=
  servingsFrom_of_gt (by omega)

end Entry

namespace Outbox

/-- The deadline of the head, once it has been serviced. -/
def armed? (o : Outbox) : Option Deadline :=
  o.head?.bind (·.deadline)

/-- What has not been serviced has no deadline yet. -/
theorem armed?_rest {m : Message} {rest : List Message} (sound : Sound ⟨m :: rest⟩) :
    armed? ⟨rest⟩ = none := by
  cases rest with
  | nil => rfl
  | cons next others =>
      have fresh : next.Fresh := sound.behind next List.mem_cons_self
      exact fresh.unarmed

theorem armed?_push {o : Outbox} {next : Message} (fresh : next.Fresh) :
    armed? ⟨o.messages ++ [next]⟩ = o.armed? := by
  obtain ⟨_ | ⟨head, others⟩⟩ := o
  · exact fresh.unarmed
  · rfl

theorem deadlineAt_head {o : Outbox} {m : Message} {rest : List Message}
    (head : o.messages = m :: rest) {first : Option Instant} {window : Duration}
    (armed : o.armed? = first.map (⟨·, window⟩)) (now : Instant) :
    m.deadlineAt now window = ⟨first.getD now, window⟩ := by
  have own : m.deadline = first.map (⟨·, window⟩) := by
    rw [← armed, armed?, head?, head]
    rfl
  rw [Message.deadlineAt, own]
  exact Option.getD_map _ _ _

end Outbox

namespace Connection

variable {c left last : Connection P} {now : Instant} {owner : Ticket} {es : List Event}
  {request : Option Request} {result : Except Error Unit} {calls : List (Entry P)}
  {channel : Channel P} {m : Message} {rest : List Message}

theorem Serves.of_empty (h : c.Serves now owner channel es left)
    (nothing : c.outbox.messages = []) : es = [] ∧ left.outbox = c.outbox := by
  cases h with
  | rests _ => exact ⟨rfl, rfl⟩
  | expires head | passes head | stalls head | writes head | finishes head | breaks head =>
      rw [nothing] at head
      cases head

/-- As long as it does not complete, the head keeps the deadline that it was given when it was
serviced first. -/
theorem Serves.armed? (h : c.Serves now owner channel es left) (sound : c.outbox.Sound)
    (head : c.outbox.messages = m :: rest) :
    left.outbox.armed? = if Event.sends es = [] then some (m.deadlineAt now c.config.sendTimeout)
      else none := by
  have behind : Outbox.armed? ⟨rest⟩ = none := Outbox.armed?_rest (sound.spelled head)
  cases h with
  | rests nothing =>
      rw [nothing] at head
      cases head
  | stalls same | writes same =>
      obtain ⟨rfl, rfl⟩ := List.cons.inj (head.symm.trans same)
      rw [if_pos (by simp [Event.sends])]
      rfl
  | expires same | passes same | finishes same | breaks same =>
      obtain ⟨rfl, rfl⟩ := List.cons.inj (head.symm.trans same)
      rw [if_neg (by simp [Event.sends, Callback.sent?])]
      exact behind

/-! How a poll services the head. -/

/-- After a read that does not fail comes one step for the head. -/
inductive Services (c : Connection P) (now : Instant) (owner : Ticket) (channel : Channel P)
    (m : Message) (rest : List Message) : List Event → Connection P → Prop
  | mk {first served : List Event} {left : Connection P} {answer : Except IoError Nat}
      (head : c.outbox.messages = m :: rest) (read : first.all (Event.reading owner) = true)
      (stored : List UInt8)
      (asked : Event.calls first = [.read c.buffer.room (stored.take c.buffer.room) answer])
      (session : P.Session)
      (serves : Serves { c with buffer := c.buffer.store stored } now owner
        { channel with session } served left) :
      Services c now owner channel m rest (first ++ served) left

/-- The step for the head never reads. -/
theorem Serves.readFails (h : c.Serves now owner channel es left) :
    (Event.calls es).any Call.readFails = false := by
  apply List.any_eq_false.mpr
  intro made member fails
  have still := h.all Event.covers_still
  cases made with
  | read room stored answer =>
      exact Event.read_not_mem_of_still still (Event.mem_calls.mp member)
  | _ => cases fails

theorem services_of_read {first served : List Event} {stored : List UInt8} {session : P.Session}
    (answer : Except IoError Nat) (phase : c.phase = .opened channel)
    (read : first.all (Event.reading owner) = true)
    (asked : Event.calls first = [.read c.buffer.room (stored.take c.buffer.room) answer])
    (heard : (Call.read c.buffer.room (stored.take c.buffer.room) answer).readFails = false)
    (serves : Serves { c with buffer := c.buffer.store stored } now owner
      { channel with session } served left) :
    Entry.services ⟨c, now, some .poll, result, first ++ served, left⟩ = true ∧
        (∃ m rest, c.Services now owner channel m rest (first ++ served) left) ∨
      Entry.services ⟨c, now, some .poll, result, first ++ served, left⟩ = false ∧
        (first ++ served).all Event.unserviced = true ∧ left.outbox = c.outbox := by
  cases head : c.outbox.messages with
  | nil =>
      obtain ⟨rfl, outbox⟩ := serves.of_empty head
      refine .inr ⟨?_, ?_, outbox⟩
      · rw [← Bool.not_eq_true, Entry.services_iff]
        exact fun serviced => serviced.2.2.1 head
      · rw [List.append_nil]
        exact Event.unserviced_of_reading read
  | cons m rest =>
      refine .inl ⟨Entry.services_iff.mpr ⟨rfl, ?_, ?_, ?_⟩, m, rest, ?_⟩
      · rw [status, phase]
        rfl
      · simp [head]
      · rw [Entry.calls, Event.calls_append, asked, List.any_append, serves.readFails, Bool.or_false,
          List.any_cons, heard]
        rfl
      · exact .mk head read stored asked session serves

/-- A poll of an open connection services the head, or it shows nothing of a send. -/
theorem Transfers.services (h : c.Transfers now owner channel es left)
    (phase : c.phase = .opened channel) :
    Entry.services ⟨c, now, some .poll, result, es, left⟩ = true ∧
        (∃ m rest, c.Services now owner channel m rest es left) ∨
      Entry.services ⟨c, now, some .poll, result, es, left⟩ = false ∧
        es.all Event.unserviced = true ∧ left.outbox = c.outbox := by
  cases h with
  | @receives count served _ stored notices session some serves =>
      refine services_of_read (.ok count) phase ?_ ?_ ?_ serves
      · simp [Event.reading, Event.reading_remarks]
      · simp [Event.calls, Event.call?, Event.remarks]
      · rfl
  | @listens answer served _ stored notices session stalled serves =>
      refine services_of_read answer phase ?_ ?_ ?_ serves
      · simp [Event.reading, Event.reading_remarks]
      · simp [Event.calls, Event.call?, Event.remarks]
      · cases answer with
        | ok count => rfl
        | error e =>
            have notReady : e.kind.isNotReady = true := stalled
            rw [Call.readFails, notReady]
            rfl
  | @breaks e stored notices hard =>
      refine .inr ⟨?_, ?_, rfl⟩
      · rw [← Bool.not_eq_true, Entry.services_iff]
        rintro ⟨-, -, -, unfailed⟩
        simp [Entry.calls, Event.calls, Event.call?, Call.readFails, hard] at unfailed
      · simp [Event.spans_unserviced.remarks, Event.unserviced, Channel.releases]

theorem Services.armed? (h : c.Services now owner channel m rest es left) (sound : c.outbox.Sound) :
    left.outbox.armed? = if Event.sends es = [] then some (m.deadlineAt now c.config.sendTimeout)
      else none := by
  cases h with
  | @mk first served _ answer head read stored asked session serves =>
      have silent : Event.sends first = [] := Event.filterMap_of_reading read fun _ => rfl
      rw [serves.armed? sound head, Event.sends_append, silent]
      rfl

theorem Services.head (h : c.Services now owner channel m rest es left) :
    c.outbox.messages = m :: rest := by
  cases h with
  | mk head => exact head

theorem Step.services (h : c.Step now request result es left)
    (serviced : Entry.services ⟨c, now, request, result, es, left⟩ = true) :
    ∃ owner channel m rest, c.listener = some ⟨owner, false⟩ ∧ c.phase = .opened channel ∧
      c.Services now owner channel m rest es left := by
  obtain ⟨asked, opened, -, -⟩ := Entry.services_iff.mp serviced
  cases asked
  cases h with
  | rests still => rcases still with idle | failed <;> simp_all
  | opens owner polled =>
      have opening := polled.opening
      rw [opened] at opening
      cases opening
  | @transfers owner channel _ _ listener phase transferred =>
      rcases transferred.services phase with ⟨-, m, rest, services⟩ | ⟨unserviced, -⟩
      · exact ⟨owner, channel, m, rest, listener, phase, services⟩
      · rw [serviced] at unserviced
        cases unserviced

theorem Step.unserviced (h : c.Step now request result es left)
    (unserviced : Entry.services ⟨c, now, request, result, es, left⟩ = false) :
    es.all Event.unserviced = true := by
  rcases h.transfers_or_spans with ⟨owner, channel, rfl, -, phase, transferred⟩ | spans
  · rcases transferred.services phase with ⟨serviced, -⟩ | ⟨-, unseen, -⟩
    · rw [serviced] at unserviced
      cases unserviced
    · exact unseen
  · exact spans _ Event.spans_unserviced

/-- Nothing else arms a deadline, and what is queued has none. -/
theorem Step.armed?_of_unserviced (h : c.Step now request result es left)
    (unserviced : Entry.services ⟨c, now, request, result, es, left⟩ = false) :
    left.outbox.armed? = if Event.sends es = [] then c.outbox.armed? else none := by
  have law := h.sends
  cases h with
  | closes live | abandons live =>
      split
      · rename_i none
        rw [none] at law
        have empty : c.outbox.messages = [] :=
          List.map_eq_nil_iff.mp (List.append_eq_nil_iff.mp law.symm).1
        rw [Outbox.armed?, Outbox.armed?, Outbox.head?, Outbox.head?, empty]
        rfl
      · rfl
  | queues opened =>
      rw [if_pos (by simp [Event.sends])]
      exact Outbox.armed?_push (Message.fresh_fresh _ _)
  | opens owner polled => rw [if_pos polled.sends, polled.outbox]
  | transfers owner phase transferred =>
      rcases transferred.services phase with ⟨serviced, -⟩ | ⟨-, -, same⟩
      · rw [serviced] at unserviced
        cases unserviced
      · have none := transferred.sends
        rw [same, List.append_left_eq_self] at none
        rw [if_pos none, same]
  | _ => exact (if_pos rfl).symm

/-- The deadline of the head runs from the reading of the first call that serviced it. -/
theorem Step.armed? (h : c.Step now request result es left) (sound : c.Sound)
    {first : Option Instant} (armed : c.outbox.armed? = first.map (⟨·, c.config.sendTimeout⟩)) :
    left.outbox.armed? =
      (if Event.sends es ≠ [] then none
        else if Entry.services ⟨c, now, request, result, es, left⟩ then some (first.getD now)
        else first).map (⟨·, c.config.sendTimeout⟩) := by
  by_cases serviced : Entry.services ⟨c, now, request, result, es, left⟩ = true
  · obtain ⟨owner, channel, m, rest, -, -, services⟩ := h.services serviced
    rw [services.armed? sound.outbox, Outbox.deadlineAt_head services.head armed, if_pos serviced]
    by_cases completes : Event.sends es = [] <;> simp [completes]
  · rw [if_neg serviced]
    rw [Bool.not_eq_true] at serviced
    rw [h.armed?_of_unserviced serviced, armed]
    by_cases completes : Event.sends es = [] <;> simp [completes]

theorem Linked.armed? (h : Linked c calls last) (sound : c.Sound)
    (empty : c.outbox.messages = []) :
    last.outbox.armed? = (Entry.servings (Entry.completedBy calls).length calls).head?.map
      (⟨·, c.config.sendTimeout⟩) := by
  induction calls using List.reverseRecOn generalizing last with
  | nil =>
      cases h
      rw [Outbox.armed?, Outbox.head?, empty]
      rfl
  | append_singleton calls e ih =>
      obtain ⟨before, step, after⟩ := h.at_
      cases after
      have window : e.before.config = c.config := before.config
      have armed := ih before
      rw [← window] at armed ⊢
      rw [step.armed? (before.sound sound) armed, Entry.servings_concat, Entry.completedBy_concat,
        List.length_append]
      congr 1
      by_cases completes : Event.sends e.events = []
      · rw [completes, List.length_nil, Nat.add_zero, if_neg (not_not_intro rfl)]
        by_cases serviced : e.services = true
        · rw [if_pos serviced, if_pos ⟨serviced, rfl⟩, List.head?_append, List.head?_cons,
            Option.or_some]
        · rw [if_neg serviced, if_neg fun both => serviced both.1, List.append_nil]
      -- The next send is not serviced before the call in which this one completes.
      · have later : 0 < (Event.sends e.events).length := List.length_pos_iff.mpr completes
        rw [if_pos completes, Entry.servings_of_gt (by omega), if_neg (by omega)]
        rfl

end Connection
end PolledTls
