import PolledTls.Proofs.History
import PolledTls.Scripted

/-!
How the parts of a connection fit together between two calls. The status alone decides what is kept
for the owner; of the queue only the head has been touched, and it is never left finished.
-/
namespace PolledTls

variable {P : Platform}

namespace Message

/-- Nothing of a message has gone, or a part of it. One of which all has gone does not wait. -/
theorem Sound.progress {m : Message} (h : m.Sound) :
    m.unsent = m.size ∨ 1 ≤ m.unsent ∧ m.unsent < m.size := by
  have most := h.unsent_le
  by_cases empty : m.size = 0
  · omega
  · have left := h.unfinished empty
    omega

theorem Sound.rest_eq {m : Message} (h : m.Sound) :
    m.rest.toList = m.payload.toList.drop (m.size - m.unsent) := by
  rw [size, unsent, Bytes.size_eq, Bytes.size_eq]
  exact List.suffix_iff_eq_drop.mp h.tail

end Message

namespace Connection

/-- What can be relied on between two calls on a connection made from the configuration. -/
structure Coherent (config : Config) (c : Connection P) : Prop where
  listens : c.listener.isSome ↔ c.status ≠ .notOpen
  awaits : (∃ ticket, c.listener = some ⟨ticket, true⟩) ↔ c.status.isOpening = true
  armed : c.openDeadline.isSome ↔ c.status.isOpening = true
  queued : c.outbox.messages ≠ [] → c.status = .opened ∨ c.status = .failed
  room : c.buffer.toList.length = config.readChunkSize
  roomy : 1 ≤ config.readChunkSize
  progress : ∀ m ∈ c.outbox.messages, m.unsent = m.size ∨ 1 ≤ m.unsent ∧ m.unsent < m.size
  /-- What is unsent is the end of the message. -/
  tail : ∀ m ∈ c.outbox.messages, m.rest.toList = m.payload.toList.drop (m.size - m.unsent)
  untouched : ∀ m ∈ c.outbox.messages.tail, m.deadline = none ∧ m.unsent = m.size
  unarmed : ∀ m ∈ c.outbox.messages, m.size = 0 → m.deadline = none

theorem Sound.awaits_iff {c : Connection P} (h : c.Sound) :
    (∃ ticket, c.listener = some ⟨ticket, true⟩) ↔ c.status.isOpening = true := by
  constructor
  · rintro ⟨ticket, owner⟩
    exact (h.awaiting _ owner).symm
  · intro opening
    have live : c.status ≠ .notOpen := fun idle => by simp [idle, Status.isOpening] at opening
    obtain ⟨ticket, owner⟩ := h.listener live
    rw [opening] at owner
    exact ⟨ticket, owner⟩

theorem Sound.coherent {c : Connection P} (h : c.Sound) (roomy : 1 ≤ c.config.readChunkSize) :
    c.Coherent c.config where
  listens := h.listening
  awaits := h.awaits_iff
  armed := by rw [h.armed]
  queued := h.queued
  room := c.buffer.length_toList.trans h.room
  roomy := roomy
  progress m member := (h.outbox.each m member).progress
  tail m member := (h.outbox.each m member).rest_eq
  untouched m member := ⟨(h.outbox.behind m member).unarmed, (h.outbox.behind m member).unsent_eq⟩
  unarmed m member := (h.outbox.each m member).unarmed

/-- Whatever was asked of a connection since it was created, and whatever the platform and the clock
answered, its parts fit together before and after every call. -/
theorem coherent_between_calls (config : Config) (s : P.State) (c : Connection P)
    (created : (create config s).value = .ok c) (turns : List (Turn P)) :
    ∀ e ∈ c.history (create config s).state turns,
      e.before.Coherent config ∧ e.after.Coherent config := by
  obtain ⟨rfl, checked⟩ := eq_idle_of_created created
  intro e member
  obtain ⟨past, later, split⟩ := List.append_of_mem member
  obtain ⟨before, step⟩ := history_at split
  have sound := before.sound (sound_idle config)
  have same : e.before.config = config := before.config
  have kept : e.after.config = config := step.config.trans same
  have roomy := Config.readChunkSize_of_check checked
  constructor
  · have fits := sound.coherent (by rw [same]; exact roomy)
    rw [same] at fits
    exact fits
  · have fits := (step.sound sound).coherent (by rw [kept]; exact roomy)
    rw [kept] at fits
    exact fits

/-- Before the drop two messages wait: the first with one byte of three left and a deadline, the
second, an empty one, as it was queued. -/
theorem coherent_between_calls_half_sent :
    let new : Connection Script.platform := idle { host := "h", port := 1, readChunkSize := 4 }
    let s : Script := { write := [.count 2] }
    let calls := new.history s
      [⟨id, 0, .start 1⟩, ⟨id, 1, .poll⟩, ⟨id, 2, .poll⟩, ⟨id, 3, .poll⟩, ⟨id, 4, .send [7, 8, 9] 2⟩,
        ⟨id, 4, .send [] 3⟩, ⟨id, 5, .poll⟩]
    (create new.config s).value = .ok new ∧
      ∃ e ∈ calls, e.before.outbox.messages.map (fun m => (m.size, m.unsent, m.deadline.isSome)) =
          [(3, 1, true), (0, 0, false)] ∧
        e.before.Coherent new.config := by
  intro new s calls
  have checked : Config.check { host := "h", port := 1, readChunkSize := 4 } = .ok () := rfl
  have made : create new.config s = ⟨.ok new, s, [.log (.created "h" 1)]⟩ := create_ok checked rfl
  have created : (create new.config s).value = .ok new := congrArg Traced.value made
  have fits := coherent_between_calls new.config s new created
  rw [made] at fits
  exact ⟨created, calls[7], List.getElem_mem _, by decide +kernel,
    (fits _ _ (List.getElem_mem _)).1⟩

end Connection
end PolledTls
