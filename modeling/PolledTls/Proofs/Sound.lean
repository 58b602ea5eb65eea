import PolledTls.Connection

/-!
What holds of a connection between any two calls. The phase decides which callbacks and which
deadline are kept; only the head of the outbox has been touched.
-/
namespace PolledTls

namespace Message

/-- Queued and not looked at since. -/
structure Fresh (m : Message) : Prop where
  whole : m.rest = m.payload
  unarmed : m.deadline = none

/-- What is left is a tail of the payload, and nothing is left only of an empty message, which is
never armed. -/
structure Sound (m : Message) : Prop where
  tail : m.rest.toList <:+ m.payload.toList
  unfinished : m.size ≠ 0 → m.unsent ≠ 0
  unarmed : m.size = 0 → m.deadline = none

theorem fresh_fresh (payload : List UInt8) (ticket : Ticket) : (fresh payload ticket).Fresh :=
  ⟨rfl, rfl⟩

theorem Fresh.sound {m : Message} (h : m.Fresh) : m.Sound := by
  refine ⟨⟨[], congrArg Bytes.toList h.whole⟩, ?_, fun _ => h.unarmed⟩
  intro some
  rw [unsent, h.whole]
  exact some

theorem Fresh.unsent_eq {m : Message} (h : m.Fresh) : m.unsent = m.size :=
  congrArg Bytes.size h.whole

theorem Sound.unsent_le {m : Message} (h : m.Sound) : m.unsent ≤ m.size := by
  rw [unsent, size, Bytes.size_eq, Bytes.size_eq]
  exact h.tail.length_le

/-- A message serviced for the first time is not late. -/
theorem passed?_of_unarmed {m : Message} (unarmed : m.deadline = none) (now : Instant)
    (window : Duration) : (m.deadlineAt now window).passed? now = none := by
  rw [Deadline.passed?_eq_none_iff, deadlineAt, unarmed]
  simp [Deadline.elapsed_eq]

@[simp] theorem ticket_arm (m : Message) (now : Instant) (window : Duration) :
    (m.arm now window).ticket = m.ticket := rfl

@[simp] theorem unsent_arm (m : Message) (now : Instant) (window : Duration) :
    (m.arm now window).unsent = m.unsent := rfl

@[simp] theorem ticket_accept (m : Message) (count : Nat) :
    (m.accept count).ticket = m.ticket := rfl

@[simp] theorem unsent_accept (m : Message) (count : Nat) :
    (m.accept count).unsent = m.unsent - count := rfl

theorem Sound.size_ne_zero {m : Message} (h : m.Sound) (left : m.unsent ≠ 0) : m.size ≠ 0 := by
  have := h.unsent_le
  omega

theorem Sound.arm {m : Message} (h : m.Sound) (left : m.unsent ≠ 0) (now : Instant)
    (window : Duration) : (m.arm now window).Sound :=
  ⟨h.tail, h.unfinished, fun empty => absurd empty (h.size_ne_zero left)⟩

theorem Sound.accept {m : Message} (h : m.Sound) {count : Nat} (left : count < m.unsent) :
    (m.accept count).Sound := by
  refine ⟨(List.drop_suffix _ _).trans h.tail, ?_, ?_⟩
  · intro _
    rw [unsent_accept]
    omega
  · intro empty
    exact absurd empty (h.size_ne_zero (by omega))

end Message

/-- Every message is sound, and all behind the head are as they were queued. -/
structure Outbox.Sound (o : Outbox) : Prop where
  each : ∀ m ∈ o.messages, m.Sound
  behind : ∀ m ∈ o.messages.tail, m.Fresh

namespace Outbox

theorem sound_empty : Sound ⟨[]⟩ := by
  constructor <;> simp

theorem Sound.spelled {o : Outbox} {messages : List Message} (h : o.Sound)
    (queue : o.messages = messages) : Sound ⟨messages⟩ := by
  subst queue
  exact h

theorem Sound.head {m : Message} {rest : List Message} (h : Sound ⟨m :: rest⟩) : m.Sound :=
  h.each m (by simp)

theorem Sound.rest {m : Message} {rest : List Message} (h : Sound ⟨m :: rest⟩) : Sound ⟨rest⟩ := by
  constructor
  · intro x member
    exact h.each x (by simp [member])
  · intro x member
    exact h.behind x (List.mem_of_mem_tail member)

theorem Sound.replace {m n : Message} {rest : List Message} (h : Sound ⟨m :: rest⟩)
    (sound : n.Sound) : Sound ⟨n :: rest⟩ := by
  constructor
  · intro x member
    rcases List.mem_cons.mp member with rfl | later
    · exact sound
    · exact h.each x (by simp [later])
  · exact h.behind

theorem Sound.push {o : Outbox} (h : o.Sound) (payload : List UInt8) (ticket : Ticket) :
    Sound ⟨o.messages ++ [.fresh payload ticket]⟩ := by
  have fresh := Message.fresh_fresh payload ticket
  constructor
  · intro x member
    rcases List.mem_append.mp member with old | new
    · exact h.each x old
    · rw [List.mem_singleton.mp new]
      exact fresh.sound
  · intro x member
    cases queued : o.messages with
    | nil => simp [queued] at member
    | cons m rest =>
        simp only [queued, List.cons_append, List.tail_cons, List.mem_append,
          List.mem_singleton] at member
        rcases member with old | rfl
        · exact h.behind x (by simp [queued, old])
        · exact fresh

end Outbox

namespace Connection

variable {P : Platform}

/-- The invariant of a connection. -/
structure Sound (c : Connection P) : Prop where
  /-- Callbacks are kept from an accepted open to the close. -/
  listening : c.listener.isSome ↔ c.status ≠ .notOpen
  /-- The open completion is kept until the attempt is decided. -/
  awaiting : ∀ l, c.listener = some l → l.awaitingOpen = c.status.isOpening
  armed : c.openDeadline.isSome = c.status.isOpening
  /-- A dial in the connection has its socket. -/
  dialing : ∀ dial, c.phase = .connecting dial → dial.socket.isSome
  room : c.buffer.room = c.config.readChunkSize
  queued : c.outbox.messages ≠ [] → c.status = .opened ∨ c.status = .failed
  outbox : c.outbox.Sound

/-- A connection that could be created is idle, and creating it leaves one line in the log. -/
theorem create_eq {config : Config} {s : P.State} {c : Connection P}
    (created : (create config s).value = .ok c) :
    create config s = ⟨.ok (idle config), s, [.log (.created config.host config.port)]⟩ := by
  unfold create at created ⊢
  cases checked : config.check with
  | error e =>
      rw [checked] at created
      cases created
  | ok =>
      rw [checked] at created
      by_cases grants : P.grants config.readChunkSize s = true
      · simp [Act.granting, Act.log, Act.emit, grants]
      · simp [Act.granting, grants] at created

theorem eq_idle_of_created {config : Config} {s : P.State} {c : Connection P}
    (created : (create config s).value = .ok c) : c = idle config ∧ config.check = .ok () := by
  have made := create_eq created
  constructor
  · rw [made] at created
    exact (Except.ok.inj created).symm
  · unfold create at created
    cases checked : config.check with
    | ok => rfl
    | error e =>
        rw [checked] at created
        cases created

theorem create_ok {config : Config} {s : P.State} (checked : config.check = .ok ())
    (granted : P.grants config.readChunkSize s = true) :
    create config s = ⟨.ok (idle config), s, [.log (.created config.host config.port)]⟩ := by
  simp [create, checked, Act.granting, Act.log, Act.emit, granted]

theorem sound_idle (config : Config) : (idle config : Connection P).Sound where
  listening := by simp [idle, status, Phase.status]
  awaiting := by simp [idle]
  armed := rfl
  dialing := by simp [idle]
  room := rfl
  queued := by simp [idle, Outbox.empty]
  outbox := Outbox.sound_empty

theorem Sound.listener {c : Connection P} (h : c.Sound) (live : c.status ≠ .notOpen) :
    ∃ ticket, c.listener = some ⟨ticket, c.status.isOpening⟩ := by
  obtain ⟨⟨ticket, awaiting⟩, listener⟩ := Option.isSome_iff_exists.mp (h.listening.mpr live)
  have decided := h.awaiting _ listener
  simp only at decided
  exact ⟨ticket, by rw [listener, decided]⟩

/-- The owner's callbacks beside the phase they are kept for. -/
theorem Sound.owner {c : Connection P} {phase : Phase P} (h : c.Sound) (at_ : c.phase = phase)
    (live : phase.status ≠ .notOpen) :
    ∃ ticket, c.listener = some ⟨ticket, phase.status.isOpening⟩ := by
  subst at_
  exact h.listener live

theorem Sound.unowned {c : Connection P} (h : c.Sound) (idle : c.status = .notOpen) :
    c.listener = none := by
  rw [← Option.not_isSome_iff_eq_none, h.listening]
  exact fun live => live idle

/-- Nothing waits to be sent before the connection is open, nor after its close. -/
theorem Sound.empty {c : Connection P} (h : c.Sound) (unopened : c.status ≠ .opened)
    (unfailed : c.status ≠ .failed) : c.outbox.messages = [] := by
  apply Classical.byContradiction
  intro some
  rcases h.queued some with opened | failed
  · exact unopened opened
  · exact unfailed failed

end Connection
end PolledTls
