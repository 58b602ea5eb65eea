import PolledTls.Proofs.Paired

/-!
Connections that differ at most in the origin of their clocks and in what is left in their read
buffers. Whatever is asked of them they do the same, call by call and so over any calls, as long as
the reads are fine.
-/
namespace PolledTls

variable {P : Platform} {fine : Event → Bool} {shift : Duration}

namespace Connection

variable {c d : Connection P} {now : Instant}

/-- The connection with a clock that began earlier and reads more, and with another buffer. -/
def later (c : Connection P) (shift : Duration) (other : Buffer) : Connection P :=
  { c with
    openDeadline := c.openDeadline.map (·.later shift)
    outbox := c.outbox.later shift
    buffer := other }

/-- Connections that differ at most in the origin of their clocks and in what their buffers hold. -/
inductive Alike (fine : Event → Bool) (shift : Duration) (c : Connection P) : Connection P → Prop
  | mk {other : Buffer} (alike : c.buffer.Alike fine other) : Alike fine shift c (c.later shift other)

variable (alike : c.Alike fine shift d)
include alike

namespace Alike

theorem eq_later : ∃ other, c.buffer.Alike fine other ∧ d = c.later shift other := by
  obtain ⟨alike⟩ := alike
  exact ⟨_, alike, rfl⟩

theorem status_eq : d.status = c.status := by
  obtain ⟨other, -, rfl⟩ := alike.eq_later
  rfl

theorem pendingSends_eq : d.pendingSends = c.pendingSends := by
  obtain ⟨other, -, rfl⟩ := alike.eq_later
  exact List.length_map _

theorem rephase (phase : Phase P) : Alike fine shift { c with phase } { d with phase } := by
  obtain ⟨other, buffer, rfl⟩ := alike.eq_later
  exact .mk (c := { c with phase }) buffer

theorem decided (phase : Phase P) :
    Alike fine shift { c with phase, openDeadline := none }
      { d with phase, openDeadline := none } := by
  obtain ⟨other, buffer, rfl⟩ := alike.eq_later
  exact .mk (c := { c with phase, openDeadline := none }) buffer

theorem requeue (outbox : Outbox) :
    Alike fine shift { c with outbox } { d with outbox := outbox.later shift } := by
  obtain ⟨other, buffer, rfl⟩ := alike.eq_later
  exact .mk (c := { c with outbox }) buffer

theorem refill {buffer other : Buffer} (refilled : buffer.Alike fine other) :
    Alike fine shift { c with buffer } { d with buffer := other } := by
  obtain ⟨-, -, rfl⟩ := alike.eq_later
  exact .mk (c := { c with buffer }) refilled

theorem cleared : Alike fine shift c.cleared d.cleared := by
  obtain ⟨other, buffer, rfl⟩ := alike.eq_later
  exact .mk (c := c.cleared) buffer

end Alike

theorem settleOpen_paired (result : Completion) :
    (c.settleOpen result).Paired fine (Alike fine shift) (d.settleOpen result) := by
  obtain ⟨other, buffer, rfl⟩ := alike.eq_later
  unfold settleOpen later
  dsimp only
  split
  · apply Act.Paired.same
    intro _
    exact .pure (.mk (c := { c with listener := some ⟨_, false⟩ }) buffer)
  · exact .pure alike

theorem failOpen_paired (status : Status) (e : Error) :
    (c.failOpen status e).Paired fine (Alike fine shift) (d.failOpen status e) := by
  obtain ⟨other, -, rfl⟩ := alike.eq_later
  apply Act.Paired.same
  intro _
  exact settleOpen_paired (alike.decided .failed) .error

theorem checkDeadline_paired :
    (c.checkDeadline now).Paired fine (Alike fine shift) (d.checkDeadline (now + shift)) := by
  obtain ⟨other, -, rfl⟩ := alike.eq_later
  have passed : (c.later shift other).openDeadline.bind (·.passed? (now + shift)) =
      c.openDeadline.bind (·.passed? now) := by
    rw [later, Option.bind_map]
    simp only [Function.comp_def, Deadline.passed?_later]
  unfold checkDeadline
  rw [passed]
  split
  · exact .pure alike
  · apply Act.Paired.same
    intro _
    exact failOpen_paired alike _ _

theorem pollQuery_paired (query : Query P) :
    (c.pollQuery now query).Paired fine (Alike fine shift)
      (d.pollQuery (now + shift) query) := by
  obtain ⟨other, -, rfl⟩ := alike.eq_later
  apply Act.Paired.same
  rintro ⟨_ | _ | ip, query⟩
  · exact checkDeadline_paired (alike.rephase (.resolving query))
  · apply Act.Paired.same
    intro _
    exact failOpen_paired alike _ _
  · apply Act.Paired.same
    intro _
    apply Act.Paired.same
    rintro (e | dial)
    · exact failOpen_paired alike _ e
    · apply Act.Paired.same
      intro _
      exact .pure (alike.rephase (.connecting dial))

theorem pollDial_paired (dial : Dial P) :
    (c.pollDial now dial).Paired fine (Alike fine shift) (d.pollDial (now + shift) dial) := by
  obtain ⟨other, -, rfl⟩ := alike.eq_later
  apply Act.Paired.same
  rintro ⟨_ | socket | e, dial⟩
  · exact checkDeadline_paired (alike.rephase (.connecting dial))
  · apply Act.Paired.same
    rintro (e | channel)
    · exact failOpen_paired alike _ e
    · apply Act.Paired.same
      intro _
      exact .pure (alike.rephase (.handshaking channel))
  · apply Act.Paired.same
    intro _
    exact failOpen_paired alike _ e

theorem pollHandshake_paired (channel : Channel P) :
    (c.pollHandshake now channel).Paired fine (Alike fine shift)
      (d.pollHandshake (now + shift) channel) := by
  obtain ⟨other, -, rfl⟩ := alike.eq_later
  apply Act.Paired.same
  rintro ⟨_ | _ | e, channel⟩
  · apply Act.Paired.same
    intro _
    exact settleOpen_paired (alike.decided (.opened channel)) .ok
  · exact checkDeadline_paired (alike.rephase (.handshaking channel))
  · apply Act.Paired.same
    intro _
    exact failOpen_paired alike _ e

theorem completeHead_paired (result : Completion) :
    (c.completeHead result).Paired fine (Alike fine shift) (d.completeHead result) := by
  obtain ⟨other, -, rfl⟩ := alike.eq_later
  have popped : (c.later shift other).outbox.pop result = _ := c.outbox.pop_later result
  unfold completeHead
  rw [popped]
  apply Act.Paired.same
  intro _
  exact .pure (alike.requeue _)

/-- A failure that is reported leaves the connection as it is. -/
theorem reportFailure_paired (e : Error) :
    (c.reportFailure e >>= fun _ => pure c).Paired fine (Alike fine shift)
      (d.reportFailure e >>= fun _ => pure d) := by
  obtain ⟨other, -, rfl⟩ := alike.eq_later
  apply Act.Paired.same
  intro _
  exact .pure alike

theorem writeHead_paired (channel : Channel P) (head : Message) :
    (c.writeHead channel head).Paired fine (Alike fine shift)
      (d.writeHead channel (head.later shift)) := by
  obtain ⟨other, -, rfl⟩ := alike.eq_later
  apply Act.Paired.same
  intro _
  apply Act.Paired.same
  rintro ⟨count | _ | e, channel⟩
  · have kept : ((c.later shift other).outbox.mapHead fun _ => (head.later shift).accept count) =
        _ := c.outbox.mapHead_later (head.accept count)
    apply Act.Paired.same
    intro _
    apply Act.Paired.same
    intro _
    have advanced := (alike.rephase (.opened channel)).requeue
      (c.outbox.mapHead fun _ => head.accept count)
    simp only [kept, Message.unsent_accept, Message.unsent_later]
    by_cases finished : head.unsent - count = 0
    · simp only [finished, if_true]
      exact completeHead_paired advanced .ok
    · simp only [finished, if_false]
      exact .pure advanced
  · exact .pure (alike.rephase (.opened channel))
  · apply Act.Paired.same
    intro _
    apply Act.Paired.same
    intro _
    apply (completeHead_paired (alike.rephase .failed) .error).bind
    intro c d alike
    exact reportFailure_paired alike e

theorem serviceHead_paired (channel : Channel P) :
    (c.serviceHead now channel).Paired fine (Alike fine shift)
      (d.serviceHead (now + shift) channel) := by
  obtain ⟨other, -, rfl⟩ := alike.eq_later
  have head : (c.later shift other).outbox.head? = _ := c.outbox.head?_later
  have opened := alike.rephase (.opened channel)
  unfold serviceHead
  rw [head]
  cases c.outbox.head? with
  | none => exact .pure opened
  | some head =>
      have config : (c.later shift other).config = c.config := rfl
      have late : ((head.later shift).deadlineAt (now + shift) c.config.sendTimeout).passed?
          (now + shift) = (head.deadlineAt now c.config.sendTimeout).passed? now := by
        rw [Message.deadlineAt_later, Deadline.passed?_later]
      have armed := opened.requeue (c.outbox.mapHead fun _ => head.arm now c.config.sendTimeout)
      rw [← Outbox.mapHead_later] at armed
      simp only [Option.map_some, config, late, Message.arm_later, Message.unsent_later]
      split
      · apply Act.Paired.same
        intro _
        apply (completeHead_paired armed .error).bind
        intro c d alike
        exact reportFailure_paired alike _
      · split
        · exact completeHead_paired armed .ok
        · exact writeHead_paired armed channel _

theorem transfer_paired (channel : Channel P) :
    (c.transfer now channel).Paired fine (Alike fine shift)
      (d.transfer (now + shift) channel) := by
  obtain ⟨other, buffer, rfl⟩ := alike.eq_later
  apply (channel.read_paired buffer).bind
  rintro _ _ ⟨buffer, content⟩
  rename_i outcome channel left right
  have refilled := alike.refill buffer
  cases outcome with
  | done count =>
      apply Act.Paired.same
      intro _
      dsimp only
      rw [content count rfl, buffer.room]
      apply Act.Paired.same
      intro _
      apply Act.Paired.same
      intro _
      exact serviceHead_paired refilled channel
  | wouldBlock => exact serviceHead_paired refilled channel
  | failed e =>
      apply Act.Paired.same
      intro _
      apply Act.Paired.same
      intro _
      exact reportFailure_paired (refilled.rephase .failed) e

theorem windDown_paired : c.windDown.Paired fine (Alike fine shift) d.windDown := by
  have settled : (if c.status.isOpening then c.settleOpen .cancelled else pure c).Paired fine
      (Alike fine shift) (if d.status.isOpening then d.settleOpen .cancelled else pure d) := by
    rw [alike.status_eq]
    split
    · exact settleOpen_paired alike .cancelled
    · exact .pure alike
  rw [windDown_eq, windDown_eq]
  apply settled.bind
  intro c d alike
  obtain ⟨other, -, rfl⟩ := alike.eq_later
  apply Act.Paired.same
  intro _
  have completions : (c.later shift other).outbox.messages.map _ = _ :=
    c.outbox.completions_later .cancelled
  have size : (c.later shift other).outbox.size = _ := c.outbox.size_later
  rw [completions, size]
  apply Act.Paired.same
  intro _
  apply Act.Paired.same
  intro _
  exact .pure alike.cleared

/-- What two requests come to: the same answer, and connections that are alike. -/
inductive Answered (fine : Event → Bool) (shift : Duration) {ρ : Type} :
    ρ × Connection P → ρ × Connection P → Prop
  | mk {answer : ρ} {c d : Connection P} (alike : c.Alike fine shift d) :
      Answered fine shift (answer, c) (answer, d)

theorem start_paired (ticket : Ticket) :
    (c.start now ticket).Paired fine (Answered fine shift) (d.start (now + shift) ticket) := by
  obtain ⟨other, buffer, rfl⟩ := alike.eq_later
  have phase : (c.later shift other).phase = c.phase := rfl
  unfold start
  rw [phase]
  cases c.phase with
  | notOpen =>
      apply Act.Paired.same
      rintro (e | query)
      · apply Act.Paired.same
        intro _
        apply Act.Paired.same
        intro _
        exact .pure (.mk alike)
      · apply Act.Paired.same
        intro _
        exact .pure (.mk (.mk (c := { c with
          phase := .resolving query
          listener := some ⟨ticket, true⟩
          openDeadline := some ⟨now, c.config.operationTimeout⟩ }) buffer))
  | _ =>
      apply Act.Paired.same
      intro _
      apply Act.Paired.same
      intro _
      exact .pure (.mk alike)

theorem close_paired (ticket : Ticket) :
    (c.close ticket).Paired fine (Answered fine shift) (d.close ticket) := by
  obtain ⟨other, -, rfl⟩ := alike.eq_later
  have phase : (c.later shift other).phase = c.phase := rfl
  unfold close
  rw [phase]
  cases c.phase with
  | notOpen =>
      apply Act.Paired.same
      intro _
      apply Act.Paired.same
      intro _
      exact .pure (.mk alike)
  | _ =>
      apply (windDown_paired alike).bind
      intro c d alike
      apply Act.Paired.same
      intro _
      exact .pure (.mk alike)

theorem discard_paired : c.discard.Paired fine (Alike fine shift) d.discard := by
  obtain ⟨other, -, rfl⟩ := alike.eq_later
  have phase : (c.later shift other).phase = c.phase := rfl
  unfold discard
  rw [phase]
  cases c.phase with
  | notOpen => exact .pure alike
  | _ =>
      apply Act.Paired.same
      intro _
      exact windDown_paired alike

theorem send_paired (bytes : List UInt8) (ticket : Ticket) :
    (c.send bytes ticket).Paired fine (Answered fine shift) (d.send bytes ticket) := by
  obtain ⟨other, -, rfl⟩ := alike.eq_later
  have phase : (c.later shift other).phase = c.phase := rfl
  unfold send
  rw [phase]
  cases c.phase with
  | opened channel =>
      apply Act.Paired.same
      intro grants
      have pushed : (c.later shift other).outbox.push grants bytes ticket = _ :=
        c.outbox.push_later grants bytes ticket
      rw [pushed]
      cases c.outbox.push grants bytes ticket with
      | error e => exact .pure (.mk alike)
      | ok outbox =>
          have size : (outbox.later shift).size = outbox.size := List.length_map _
          simp only [Except.map, size]
          apply Act.Paired.same
          intro _
          exact .pure (.mk ((alike.rephase (.opened channel)).requeue outbox))
  | _ => exact .pure (.mk alike)

theorem poll_paired : (c.poll now).Paired fine (Alike fine shift) (d.poll (now + shift)) := by
  obtain ⟨other, -, rfl⟩ := alike.eq_later
  have phase : (c.later shift other).phase = c.phase := rfl
  unfold poll
  rw [phase]
  cases c.phase with
  | notOpen | failed => exact .pure alike
  | resolving query => exact pollQuery_paired alike query
  | connecting dial => exact pollDial_paired alike dial
  | handshaking channel => exact pollHandshake_paired alike channel
  | opened channel => exact transfer_paired alike channel

theorem carryOut_paired (request : Request) :
    (c.carryOut now request).Paired fine (Answered fine shift)
      (d.carryOut (now + shift) request) := by
  cases request with
  | start ticket => exact start_paired alike ticket
  | close ticket => exact close_paired alike ticket
  | send bytes ticket => exact send_paired alike bytes ticket
  | poll =>
      apply (poll_paired alike).bind
      intro c d alike
      exact .pure (.mk alike)
  | setOption name value =>
      apply Act.Paired.same
      intro _
      exact .pure (.mk alike)

omit alike in
theorem Answered.parts {ρ : Type} {r r' : ρ × Connection P} (h : Answered fine shift r r') :
    r'.1 = r.1 ∧ r.2.Alike fine shift r'.2 := by
  obtain ⟨alike⟩ := h
  exact ⟨rfl, alike⟩

end Connection

/-! Any number of calls. -/

def Turn.later (shift : Duration) (turn : Turn P) : Turn P :=
  { turn with now := turn.now + shift }

@[simp] theorem Turn.meanwhile_later (turn : Turn P) :
    (turn.later shift).meanwhile = turn.meanwhile := rfl

@[simp] theorem Turn.now_later (turn : Turn P) : (turn.later shift).now = turn.now + shift := rfl

@[simp] theorem Turn.request_later (turn : Turn P) :
    (turn.later shift).request = turn.request := rfl

/-- What is seen of a call: what was asked, its result, all that it showed, and the status and the
number of sends that wait after it. -/
structure Account where
  request : Option Connection.Request
  result : Except Error Unit
  events : List Event
  status : Status
  pendingSends : Nat

def Entry.account (e : Entry P) : Account :=
  ⟨e.request, e.result, e.events, e.after.status, e.after.pendingSends⟩

/-- Whatever is asked of connections alike, the same is seen. -/
theorem Connection.Alike.history {c d : Connection P} (alike : c.Alike fine shift d) (s : P.State)
    (turns : List (Turn P)) (every : (Entry.eventsOf (c.history s turns)).all fine = true) :
    (d.history s (turns.map (·.later shift))).map Entry.account =
      (c.history s turns).map Entry.account := by
  induction turns generalizing c d s with
  | nil =>
      rw [Connection.history, Entry.eventsOf_singleton] at every
      obtain ⟨left, -, events⟩ := discard_paired alike s every
      simp only [List.map_nil, Connection.history, List.map_cons, Entry.account, events,
        left.status_eq, left.pendingSends_eq]
  | cons turn rest ih =>
      rw [Connection.history, Entry.eventsOf, List.flatMap_cons, List.all_append,
        Bool.and_eq_true] at every
      obtain ⟨answered, state, events⟩ := carryOut_paired alike turn.request
        (turn.meanwhile s) every.1
      obtain ⟨answer, left⟩ := answered.parts
      simp only [List.map_cons, Connection.history, Turn.meanwhile_later, Turn.now_later,
        Turn.request_later, Entry.account, answer, state, events, left.status_eq,
        left.pendingSends_eq]
      exact congrArg _ (ih left _ every.2)

end PolledTls
