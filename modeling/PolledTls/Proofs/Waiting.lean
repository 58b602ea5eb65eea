import PolledTls.Proofs.OpenTimeout
import PolledTls.Proofs.Servicing
import PolledTls.Scripted

/-!
Polls in which nothing is ready. The phase is taken out, asked and put back, and the connection is
left as it was; at most the head of the queue is given its deadline, once.
-/
namespace PolledTls

variable {P : Platform}

/-- Whether the answer says that nothing has moved, whatever was asked. -/
def Call.unready : Call → Bool
  | .read _ _ (.ok count) | .write _ (.ok count) => count = 0
  | .read _ _ (.error e) | .write _ (.error e) => e.kind.isNotReady
  | made => made.notReady

/-- What a session put into the buffer that it was asked to read into. -/
def Call.stored : Call → List UInt8
  | .read _ stored _ => stored
  | _ => []

/-- Whether an event is a call or a remark of the platform's own. -/
def Event.asks : Event → Bool
  | .call _ | .log (.notice _) => true
  | _ => false

namespace Event

theorem asks_remarks (notices : List Notice) : (remarks notices).all asks = true := by
  induction notices with
  | nil => rfl
  | cons notice rest ih => exact ih

theorem callbacks_of_asks {events : List Event} (asked : events.all asks = true) :
    callbacks events = [] := by
  apply List.eq_nil_iff_forall_not_mem.mpr
  intro fired member
  cases List.all_eq_true.mp asked _ (mem_callbacks.mp member)

end Event

namespace Entry

/-- A poll of a connection at work to which everyone asked answers that nothing is ready, with no
empty message at the head of the queue and no deadline passed. -/
structure Unready (e : Entry P) : Prop where
  polls : e.request = some .poll
  working : e.before.status.isOpening = true ∨ e.before.status = .opened
  answers : ∀ made ∈ e.calls, made.unready = true
  head : ∀ m ∈ e.before.outbox.head?, m.size ≠ 0
  openInTime : ∀ deadline ∈ e.before.openDeadline, deadline.passed? e.now = none
  sendInTime : ∀ deadline ∈ e.before.outbox.armed?, deadline.passed? e.now = none

/-- What the session was asked to read into was left as it was. -/
def LeavesBuffer (e : Entry P) : Prop :=
  ∀ made ∈ e.calls, made.stored = []

instance (e : Entry P) : Decidable e.LeavesBuffer :=
  inferInstanceAs (Decidable (∀ made ∈ e.calls, made.stored = []))

end Entry

/-- One phase twice, but for the handle that the platform polled. -/
inductive Phase.Kept : Phase P → Phase P → Prop
  | resolving (query : Query P) (lookup : P.Lookup) :
      Kept (.resolving query) (.resolving { query with lookup })
  | connecting (dial : Dial P) (socket : P.Socket) :
      Kept (.connecting dial) (.connecting { dial with socket := some socket })
  | handshaking (channel : Channel P) (session : P.Session) :
      Kept (.handshaking channel) (.handshaking { channel with session })
  | opened (channel : Channel P) (session : P.Session) :
      Kept (.opened channel) (.opened { channel with session })

namespace Phase

variable {config : Config} {phase next last : Phase P} {es : List Event} {finding : Finding P}

theorem Kept.trans (h : phase.Kept next) (more : next.Kept last) : phase.Kept last := by
  cases h with
  | resolving query lookup => cases more with | resolving _ lookup => exact .resolving query lookup
  | connecting dial socket => cases more with | connecting _ socket => exact .connecting dial socket
  | handshaking channel session =>
      cases more with | handshaking _ session => exact .handshaking channel session
  | opened channel session => cases more with | opened _ session => exact .opened channel session

theorem Kept.status_eq (h : phase.Kept next) : next.status = phase.status := by
  cases h <;> rfl

/-- A phase that was not ready waits. -/
theorem Polls.waits_of_unready (h : phase.Polls config es finding)
    (unready : ∀ made ∈ Event.calls es, made.unready = true) : finding.waits = true := by
  obtain ⟨polled, rest, calls, asks, waits⟩ := h.polled
  rw [calls] at unready
  have answer := unready polled List.mem_cons_self
  rw [← waits]
  cases polled with
  | read | write => cases asks
  | _ => exact answer

theorem Polls.kept (h : phase.Polls config es (.waiting next)) :
    phase.Kept next ∧ es.all Event.asks = true := by
  cases h with
  | lookupPending query lookup => exact ⟨.resolving query lookup, rfl⟩
  | connectPending dial socket => exact ⟨.connecting dial socket, rfl⟩
  | handshakePending channel session notReady => exact ⟨.handshaking channel session, rfl⟩

end Phase

theorem Buffer.store_of_none {buffer : Buffer} {bytes : List UInt8}
    (none : bytes.take buffer.room = []) : buffer.store bytes = buffer := by
  unfold store
  simp only [none]
  rfl

theorem Message.arm_of_armed (m : Message) (armed : m.deadline.isSome) (now : Instant)
    (window : Duration) : m.arm now window = m := by
  obtain ⟨payload, rest, _ | deadline, ticket⟩ := m
  · cases armed
  · rfl

namespace Outbox

/-- The queue with its head given a deadline, if there is one and it has none. -/
def arm (o : Outbox) (now : Instant) (window : Duration) : Outbox :=
  o.mapHead (·.arm now window)

theorem arm_of_empty {o : Outbox} (empty : o.messages = []) (now : Instant) (window : Duration) :
    o.arm now window = o := by
  obtain ⟨messages⟩ := o
  cases empty
  rfl

theorem arm_cons {o : Outbox} {m : Message} {rest : List Message} (head : o.messages = m :: rest)
    (now : Instant) (window : Duration) : o.arm now window = ⟨m.arm now window :: rest⟩ := by
  obtain ⟨messages⟩ := o
  cases head
  rfl

/-- A head that has its deadline keeps it. -/
theorem arm_arm (o : Outbox) (now later : Instant) (window : Duration) :
    (o.arm now window).arm later window = o.arm now window := by
  obtain ⟨_ | ⟨m, rest⟩⟩ := o
  · rfl
  · exact congrArg (fun head => Outbox.mk (head :: rest))
      ((m.arm now window).arm_of_armed rfl later window)

end Outbox

namespace Connection

variable {c d left last : Connection P} {now : Instant} {owner : Ticket} {es : List Event}
  {request : Option Request} {result : Except Error Unit} {calls : List (Entry P)}
  {channel : Channel P}

/-- One connection twice, but for the handle that the platform polled and for what a session may
have put into the read buffer. -/
structure Kept (c d : Connection P) : Prop where
  config : d.config = c.config
  phase : c.phase.Kept d.phase
  listener : d.listener = c.listener
  openDeadline : d.openDeadline = c.openDeadline
  outbox : d.outbox = c.outbox
  room : d.buffer.room = c.buffer.room

theorem Kept.trans {e : Connection P} (h : c.Kept d) (more : d.Kept e) : c.Kept e where
  config := more.config.trans h.config
  phase := h.phase.trans more.phase
  listener := more.listener.trans h.listener
  openDeadline := more.openDeadline.trans h.openDeadline
  outbox := more.outbox.trans h.outbox
  room := more.room.trans h.room

theorem Kept.status_eq (h : c.Kept d) : d.status = c.status :=
  h.phase.status_eq

/-- The connection with its head given a deadline. -/
def arm (c : Connection P) (now : Instant) : Connection P :=
  { c with outbox := c.outbox.arm now c.config.sendTimeout }

/-- What a poll in which nothing was ready shows and leaves. -/
structure Waits (c : Connection P) (now : Instant) (es : List Event) (left : Connection P) :
    Prop where
  asks : es.all Event.asks = true
  kept : (c.arm now).Kept left
  buffer : (∀ made ∈ Event.calls es, made.stored = []) → left.buffer = c.buffer

theorem Opens.waits_of_unready (h : c.Opens now owner es left)
    (unready : ∀ made ∈ Event.calls es, made.unready = true)
    (inTime : ∀ deadline ∈ c.openDeadline, deadline.passed? now = none)
    (empty : c.outbox.messages = []) : c.Waits now es left := by
  have ready {finding : Finding P} {first more : List Event}
      (polled : c.phase.Polls c.config first finding)
      (asked : ∀ made ∈ Event.calls (first ++ more), made.unready = true) :
      finding.waits = true := by
    refine polled.waits_of_unready fun made member => asked made ?_
    rw [Event.calls_append]
    exact List.mem_append_left _ member
  cases h with
  | waits polled _ =>
      obtain ⟨kept, asks⟩ := polled.kept
      have unarmed : (c.arm now).outbox = c.outbox := Outbox.arm_of_empty empty _ _
      exact ⟨asks, ⟨rfl, kept, rfl, rfl, unarmed.symm, rfl⟩, fun _ => rfl⟩
  | expires polled late =>
      obtain ⟨deadline, armed, passed⟩ := Option.bind_eq_some_iff.mp late
      rw [inTime deadline armed] at passed
      cases passed
  | moves polled => cases polled.waits_of_unready unready
  | breaks polled => cases ready polled unready
  | completes polled => cases ready polled unready

/-- The deadline of a head that has one has not passed, and one given now cannot have. -/
theorem head_inTime {m : Message} {rest : List Message} (head : c.outbox.messages = m :: rest)
    (inTime : ∀ deadline ∈ c.outbox.armed?, deadline.passed? now = none) :
    (m.deadlineAt now c.config.sendTimeout).passed? now = none := by
  have own : c.outbox.armed? = m.deadline := by
    rw [Outbox.armed?, Outbox.head?, head]
    rfl
  cases armed : m.deadline with
  | none => exact Message.passed?_of_unarmed armed now _
  | some deadline =>
      rw [Message.deadlineAt, armed]
      exact inTime deadline (own.trans armed)

theorem Serves.waits_of_unready (h : c.Serves now owner channel es left) (sound : c.outbox.Sound)
    (unready : ∀ made ∈ Event.calls es, made.unready = true)
    (head : ∀ m ∈ c.outbox.head?, m.size ≠ 0)
    (inTime : ∀ deadline ∈ c.outbox.armed?, deadline.passed? now = none) :
    es.all Event.asks = true ∧ ∃ session,
      left = { c.arm now with phase := .opened { channel with session } } := by
  cases h with
  | rests nothing =>
      have unarmed : c.arm now = c := by
        rw [arm, Outbox.arm_of_empty nothing]
      rw [unarmed]
      exact ⟨rfl, channel.session, rfl⟩
  | expires first late =>
      rw [head_inTime first inTime] at late
      cases late
  | passes first _ nothing =>
      have some := head _ (congrArg List.head? first)
      exact absurd nothing ((sound.spelled first).head.unfinished some)
  | stalls first _ _ notices session stalled =>
      rw [arm, Outbox.arm_cons first]
      exact ⟨Event.asks_remarks notices, session, rfl⟩
  | writes first _ notices session some part =>
      exact absurd (of_decide_eq_true (unready _ List.mem_cons_self)) some
  | finishes first _ some notices session all =>
      have none := of_decide_eq_true (unready _ List.mem_cons_self)
      omega
  | breaks first _ some notices hard => cases hard.symm.trans (unready _ List.mem_cons_self)

theorem Transfers.waits_of_unready (h : c.Transfers now owner channel es left)
    (phase : c.phase = .opened channel) (sound : c.outbox.Sound)
    (unready : ∀ made ∈ Event.calls es, made.unready = true)
    (head : ∀ m ∈ c.outbox.head?, m.size ≠ 0)
    (inTime : ∀ deadline ∈ c.outbox.armed?, deadline.passed? now = none) :
    c.Waits now es left := by
  cases h with
  | receives stored notices session some served =>
      exact absurd (of_decide_eq_true (unready _ List.mem_cons_self)) some
  | breaks stored notices hard => cases hard.symm.trans (unready _ List.mem_cons_self)
  | @listens answer served _ stored notices session stalled serves =>
      have later : ∀ made ∈ Event.calls served, made.unready = true := by
        intro made member
        refine unready made ?_
        rw [Event.calls_append]
        exact List.mem_append_right _ member
      obtain ⟨asks, session', rfl⟩ := serves.waits_of_unready sound later head inTime
      refine ⟨?_, ⟨rfl, ?_, rfl, rfl, rfl, rfl⟩, ?_⟩
      · rw [List.all_append, List.all_cons, Event.asks_remarks, asks]
        rfl
      · change Phase.Kept c.phase _
        rw [phase]
        exact .opened channel session'
      · intro unstored
        exact Buffer.store_of_none (unstored _ List.mem_cons_self)

/-- Such a poll leaves the connection as it was but for the deadline of the head. -/
theorem Step.waits_of_unready (h : c.Step now request result es left) (sound : c.Sound)
    (unready : Entry.Unready ⟨c, now, request, result, es, left⟩) :
    result = .ok () ∧ c.Waits now es left := by
  obtain ⟨polls, working, answers, head, openInTime, sendInTime⟩ := unready
  cases polls
  cases h with
  | rests still =>
      rcases still with idle | failed <;> simp_all [Status.isOpening]
  | opens owner opened =>
      have empty : c.outbox.messages = [] := by
        apply sound.empty <;> rintro settled <;> have opening := opened.opening <;>
          rw [settled] at opening <;> cases opening
      exact ⟨rfl, opened.waits_of_unready answers openInTime empty⟩
  | transfers owner phase transferred =>
      exact ⟨rfl, transferred.waits_of_unready phase sound.outbox answers head sendInTime⟩

/-- Once the head has its deadline, any number of such polls changes nothing. -/
theorem Linked.kept_of_unready (h : Linked c calls last) (sound : c.Sound)
    (armed : ∀ now, c.outbox.arm now c.config.sendTimeout = c.outbox)
    (unready : ∀ e ∈ calls, e.Unready) :
    ∀ e ∈ calls, c.Kept e.after ∧ ((∀ e ∈ calls, e.LeavesBuffer) → e.after.buffer = c.buffer) := by
  induction h with
  | nil c => simp
  | @cons c middle last now request result es rest step later ih =>
      obtain ⟨first, others⟩ := List.forall_mem_cons.mp unready
      obtain ⟨-, waits⟩ := step.waits_of_unready sound first
      have kept := waits.kept
      rw [arm, armed now] at kept
      have still (now : Instant) :
          middle.outbox.arm now middle.config.sendTimeout = middle.outbox := by
        rw [kept.config, kept.outbox]
        exact armed now
      have afterwards := ih (step.sound sound) still others
      intro e member
      rcases List.mem_cons.mp member with rfl | further
      · refine ⟨kept, fun unstored => ?_⟩
        exact waits.buffer (unstored _ List.mem_cons_self)
      · obtain ⟨same, buffer⟩ := afterwards e further
        refine ⟨kept.trans same, fun unstored => ?_⟩
        obtain ⟨here, there⟩ := List.forall_mem_cons.mp unstored
        exact (buffer there).trans (waits.buffer here)

/-- In every history a poll in which nobody asked is ready goes by unseen: nothing fires, nothing
goes back, and nothing is logged but what the platform remarks. The connection is left with its
status, its callbacks, its deadline and its queue; at most the head of the queue is given its
deadline, which runs from this reading. The handle that was polled is the platform's, and so is what
a session may put into the buffer with such an answer. After the first of several such polls in a
row the rest change nothing. -/
theorem unready_polls_unseen (config : Config) (s : P.State) (turns : List (Turn P)) :
    let calls := (idle config : Connection P).history s turns
    (∀ e ∈ calls, e.Unready →
      e.result = .ok () ∧ Event.callbacks e.events = [] ∧
        (∀ resource, .release resource ∉ e.events) ∧ e.events.all Event.asks = true ∧
        e.after.status = e.before.status ∧ (e.before.arm e.now).Kept e.after ∧
        (e.LeavesBuffer → e.after.buffer = e.before.buffer)) ∧
    ∀ past first more later, calls = past ++ (first :: more ++ later) →
      (∀ e ∈ first :: more, e.Unready) →
      ∀ e ∈ more, first.after.Kept e.after ∧
        ((∀ e ∈ more, e.LeavesBuffer) → e.after.buffer = first.after.buffer) := by
  intro calls
  constructor
  · intro e member unready
    obtain ⟨past, later, split⟩ := List.append_of_mem member
    obtain ⟨before, step⟩ := history_at split
    obtain ⟨result, waits⟩ := step.waits_of_unready (before.sound (sound_idle config)) unready
    refine ⟨result, Event.callbacks_of_asks waits.asks, ?_, waits.asks, waits.kept.status_eq,
      waits.kept, waits.buffer⟩
    intro resource released
    cases List.all_eq_true.mp waits.asks _ released
  · intro past first more later split unready
    obtain ⟨here, others⟩ := List.forall_mem_cons.mp unready
    obtain ⟨last, linked, -⟩ := history_linked (sound_idle config) s turns
    rw [show (idle config : Connection P).history s turns = _ from split] at linked
    obtain ⟨before, step, after⟩ := linked.at_
    obtain ⟨_, following, -⟩ := after.split
    have sound := before.sound (sound_idle config)
    have kept := (step.waits_of_unready sound here).2.kept
    refine following.kept_of_unready (step.sound sound) (fun now => ?_) others
    rw [kept.outbox, kept.config]
    exact Outbox.arm_arm _ _ _ _

/-- A send of two bytes meets a session that stores a byte and reports none, then one that is
interrupted, and twice accepts nothing: at 5 the send is given its deadline, at 15 and 14 nothing
changes. -/
theorem unready_polls_unseen_blocked :
    let config : Config := { host := "h", port := 1, sendTimeout := 10 }
    let s : Script := { read := [.claim 0 [1], .error IoKind.interrupted.error]
                        write := [.count 0, .error IoKind.wouldBlock.error, .count 0] }
    let calls := (idle config : Connection Script.platform).history s
      [⟨id, 0, .start 1⟩, ⟨id, 0, .poll⟩, ⟨id, 0, .poll⟩, ⟨id, 0, .poll⟩, ⟨id, 0, .send [7, 8] 2⟩,
        ⟨id, 5, .poll⟩, ⟨id, 15, .poll⟩, ⟨id, 14, .poll⟩]
    ∃ past first more later, calls = past ++ (first :: more ++ later) ∧ more.length = 2 ∧
      (∀ e ∈ first :: more, e.Unready) ∧ first.before.outbox.armed? = none ∧
      first.after.outbox.armed? = some ⟨5, 10⟩ ∧ ¬ first.LeavesBuffer ∧
      ∀ e ∈ more, first.after.Kept e.after ∧ e.after.buffer = first.after.buffer := by
  intro config s calls
  have split : calls = calls.take 5 ++ (calls[5] :: [calls[6], calls[7]] ++ calls.drop 8) := rfl
  have unready : ∀ e ∈ [calls[5], calls[6], calls[7]], e.Unready := by
    simp only [List.mem_cons, List.not_mem_nil, or_false, forall_eq_or_imp, forall_eq]
    refine ⟨⟨rfl, ?_, ?_, ?_, ?_, ?_⟩, ⟨rfl, ?_, ?_, ?_, ?_, ?_⟩, ⟨rfl, ?_, ?_, ?_, ?_, ?_⟩⟩ <;>
      decide +kernel
  have kept := (unready_polls_unseen config s _).2 _ _ _ _ split unready
  have left : ∀ e ∈ [calls[6], calls[7]], e.LeavesBuffer := by decide +kernel
  exact ⟨_, _, _, _, split, rfl, unready, by decide +kernel, by decide +kernel, by decide +kernel,
    fun e member => (kept e member).imp_right (· left)⟩

end Connection
end PolledTls
