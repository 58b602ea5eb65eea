import PolledTls.Proofs.Step

/-!
Every step of a sound connection leaves a sound one.
-/
namespace PolledTls

variable {P : Platform}

namespace Phase.Polls

variable {config : Config} {before after : Phase P} {es : List Event}

theorem opening {finding : Finding P} (h : before.Polls config es finding) :
    before.status.isOpening = true := by
  cases h <;> rfl

theorem waiting (h : before.Polls config es (.waiting after)) :
    after.status = before.status ∧ ∀ dial, after = .connecting dial → dial.socket.isSome := by
  cases h with
  | lookupPending query lookup => exact ⟨rfl, by simp⟩
  | connectPending dial socket =>
      refine ⟨rfl, ?_⟩
      rintro _ ⟨rfl⟩
      rfl
  | handshakePending channel session notReady => exact ⟨rfl, by simp⟩

theorem moved (h : before.Polls config es (.moved after)) :
    (before.status = .openingDns ∧ after.status = .openingSocket ∨
      before.status = .openingSocket ∧ after.status = .openingTls) ∧
      ∀ dial, after = .connecting dial → dial.socket.isSome := by
  cases h with
  | resolved query somewhere socket =>
      refine ⟨.inl ⟨rfl, rfl⟩, ?_⟩
      rintro _ ⟨rfl⟩
      rfl
  | connected dial setup => exact ⟨.inr ⟨rfl, rfl⟩, by simp⟩

theorem waiting_isOpening (h : before.Polls config es (.waiting after)) :
    after.status.isOpening = true := by
  rw [h.waiting.1]
  exact h.opening

theorem moved_isOpening (h : before.Polls config es (.moved after)) :
    after.status.isOpening = true := by
  rcases h.moved.1 with ⟨_, next⟩ | ⟨_, next⟩ <;> rw [next] <;> rfl

end Phase.Polls

namespace Connection

variable {c left : Connection P} {now : Instant} {ticket : Ticket} {es : List Event}

theorem Sound.rephase (h : c.Sound) (opening : c.status.isOpening = true) {phase : Phase P}
    (still : phase.status.isOpening = true)
    (whole : ∀ dial, phase = .connecting dial → dial.socket.isSome) :
    Sound { c with phase } where
  listening := by
    have live : c.status ≠ .notOpen := fun idle => by simp [idle, Status.isOpening] at opening
    have kept : phase.status ≠ .notOpen := fun idle => by simp [idle, Status.isOpening] at still
    exact iff_of_true (h.listening.mpr live) kept
  awaiting l owner := by
    rw [h.awaiting l owner, opening]
    exact still.symm
  armed := by
    rw [h.armed, opening]
    exact still.symm
  dialing := whole
  room := h.room
  queued some := by
    rcases h.queued some with opened | failed
    · simp [opened, Status.isOpening] at opening
    · simp [failed, Status.isOpening] at opening
  outbox := h.outbox

theorem Sound.broken (h : c.Sound) (ticket : Ticket) : (c.broken ticket).Sound where
  listening := by simp [Connection.broken, status, Phase.status]
  awaiting := by
    rintro l ⟨rfl⟩
    rfl
  armed := rfl
  dialing := by simp [Connection.broken]
  room := h.room
  queued _ := .inr rfl
  outbox := h.outbox

theorem Sound.completed (h : c.Sound) (ticket : Ticket) (channel : Channel P) :
    (c.completed ticket channel).Sound where
  listening := by simp [Connection.completed, status, Phase.status]
  awaiting := by
    rintro l ⟨rfl⟩
    rfl
  armed := rfl
  dialing := by simp [Connection.completed]
  room := h.room
  queued _ := .inl rfl
  outbox := h.outbox

theorem Sound.cleared (h : c.Sound) : c.cleared.Sound where
  listening := by simp [Connection.cleared, status, Phase.status]
  awaiting := by simp [Connection.cleared]
  armed := rfl
  dialing := by simp [Connection.cleared]
  room := h.room
  queued := by simp [Connection.cleared, Outbox.empty]
  outbox := Outbox.sound_empty

theorem Sound.refill (h : c.Sound) (stored : List UInt8) :
    Sound { c with buffer := c.buffer.store stored } :=
  ⟨h.listening, h.awaiting, h.armed, h.dialing, h.room, h.queued, h.outbox⟩

/-- An open connection with another outbox, or failed. -/
theorem Sound.unqueue (h : c.Sound) (opened : c.status = .opened) {phase : Phase P}
    (settled : phase.status = .opened ∨ phase.status = .failed) {o : Outbox} (sound : o.Sound) :
    Sound { c with phase, outbox := o } where
  listening := by
    have live : c.status ≠ .notOpen := by simp [opened]
    refine iff_of_true (h.listening.mpr live) ?_
    rcases settled with at_ | at_ <;> simp [status, at_]
  awaiting l owner := by
    rw [h.awaiting l owner, opened]
    rcases settled with at_ | at_ <;> simp [status, at_, Status.isOpening]
  armed := by
    have disarmed := h.armed
    rw [opened] at disarmed
    rcases settled with at_ | at_ <;> simp [status, at_, disarmed, Status.isOpening]
  dialing := by
    rintro dial rfl
    simp [Phase.status] at settled
  room := h.room
  queued _ := settled
  outbox := sound

theorem Opens.opening (h : c.Opens now ticket es left) : c.status.isOpening = true := by
  cases h with
  | waits polled | expires polled | moves polled | breaks polled | completes polled =>
      exact polled.opening

theorem Opens.sound (h : c.Opens now ticket es left) (sound : c.Sound) : left.Sound := by
  cases h with
  | waits polled inTime =>
      exact sound.rephase polled.opening polled.waiting_isOpening polled.waiting.2
  | expires polled late => exact sound.broken ticket
  | moves polled =>
      exact sound.rephase polled.opening polled.moved_isOpening polled.moved.2
  | breaks polled => exact sound.broken ticket
  | completes polled => exact sound.completed ticket _

theorem Serves.sound {channel : Channel P} (h : c.Serves now ticket channel es left)
    (sound : c.Sound) (opened : c.status = .opened) : left.Sound := by
  cases h with
  | rests nothing => exact sound.unqueue opened (.inl rfl) sound.outbox
  | expires head late =>
      have queue := sound.outbox.spelled head
      exact sound.unqueue opened (.inl rfl) queue.rest
  | passes head inTime nothing =>
      have queue := sound.outbox.spelled head
      exact sound.unqueue opened (.inl rfl) queue.rest
  | stalls head inTime some =>
      have queue := sound.outbox.spelled head
      exact sound.unqueue opened (.inl rfl) (queue.replace (queue.head.arm some _ _))
  | writes head inTime _ _ some part =>
      have queue := sound.outbox.spelled head
      have armed := queue.head.arm (by omega) now c.config.sendTimeout
      exact sound.unqueue opened (.inl rfl) (queue.replace (armed.accept part))
  | finishes head =>
      have queue := sound.outbox.spelled head
      exact sound.unqueue opened (.inl rfl) queue.rest
  | breaks head =>
      have queue := sound.outbox.spelled head
      exact sound.unqueue opened (.inr rfl) queue.rest

theorem Transfers.sound {channel : Channel P} (h : c.Transfers now ticket channel es left)
    (sound : c.Sound) (opened : c.status = .opened) : left.Sound := by
  cases h with
  | receives stored _ _ _ served => exact served.sound (sound.refill stored) opened
  | listens stored _ _ _ served => exact served.sound (sound.refill stored) opened
  | breaks stored => exact (sound.refill stored).unqueue opened (.inr rfl) sound.outbox

theorem Opens.listener (h : c.Opens now ticket es left) (owner : c.listener = some ⟨ticket, true⟩) :
    left.listener = some ⟨ticket, left.status.isOpening⟩ := by
  cases h with
  | waits polled inTime => simp only [owner, status, polled.waiting_isOpening]
  | expires polled late => rfl
  | moves polled => simp only [owner, status, polled.moved_isOpening]
  | breaks polled => rfl
  | completes polled => rfl

theorem Serves.listener {channel : Channel P} (h : c.Serves now ticket channel es left) :
    left.listener = c.listener := by
  cases h <;> rfl

theorem Transfers.listener {channel : Channel P} (h : c.Transfers now ticket channel es left) :
    left.listener = c.listener := by
  cases h with
  | receives stored _ _ _ served => exact served.listener
  | listens stored _ _ _ served => exact served.listener
  | breaks stored => rfl

/-! The configuration is that of the creation. -/

theorem Opens.config (h : c.Opens now ticket es left) : left.config = c.config := by
  cases h <;> rfl

theorem Serves.config {channel : Channel P} (h : c.Serves now ticket channel es left) :
    left.config = c.config := by
  cases h <;> rfl

theorem Transfers.config {channel : Channel P} (h : c.Transfers now ticket channel es left) :
    left.config = c.config := by
  cases h with
  | receives stored _ _ _ served => exact served.config
  | listens stored _ _ _ served => exact served.config
  | breaks stored => rfl

theorem Step.config {request : Option Request} {result : Except Error Unit}
    (h : c.Step now request result es left) : left.config = c.config := by
  cases h with
  | opens owner opened => exact opened.config
  | transfers owner phase transferred => exact transferred.config
  | _ => rfl

theorem Step.sound {request : Option Request} {result : Except Error Unit}
    (h : c.Step now request result es left) (sound : c.Sound) : left.Sound := by
  cases h with
  | starts idle lookup =>
      have empty := sound.empty (by simp [idle]) (by simp [idle])
      exact
        { listening := by simp [status, Phase.status]
          awaiting := by
            rintro l ⟨rfl⟩
            rfl
          armed := rfl
          dialing := by simp
          room := sound.room
          queued := fun some => absurd empty some
          outbox := sound.outbox }
  | closes live => exact sound.cleared
  | abandons live => exact sound.cleared
  | queues opened =>
      exact ⟨sound.listening, sound.awaiting, sound.armed, sound.dialing, sound.room,
        fun _ => .inl opened, sound.outbox.push _ _⟩
  | opens owner opened => exact opened.sound sound
  | transfers owner phase transferred =>
      exact transferred.sound sound (by rw [status, phase, Phase.status])
  | _ => exact sound

theorem Step.emptied {request : Option Request} {result : Except Error Unit}
    (h : c.Step now request result es left) (sound : c.Sound)
    (ends : (∃ t, request = some (.close t)) ∨ request = none) : left.outbox.messages = [] := by
  cases h with
  | closeIgnored idle => exact sound.empty (by simp [idle]) (by simp [idle])
  | vanishes idle => exact sound.empty (by simp [idle]) (by simp [idle])
  | closes live | abandons live => rfl
  | _ => simp at ends

end Connection
end PolledTls
