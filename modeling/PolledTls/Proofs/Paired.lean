import PolledTls.Proofs.History

/-!
Two runs side by side. They do the same if each action is paired with one that shows the same from
the same state. A deadline that is armed later passes later, and what is left in a read buffer shows
only through a read that reports more than it has stored.
-/
namespace PolledTls

variable {P : Platform} {α β γ δ : Type} {fine : Event → Bool} {shift : Duration}

/-- Whether a read has stored what it reports, as far as there is room. -/
def Event.fills : Event → Bool
  | .call (.read room stored (.ok count)) => min count room ≤ stored.length
  | _ => true

namespace Act

/-- From any state the two actions show the same and leave the platform in the same state and values
that are related, if all that the first one shows is fine. -/
def Paired (fine : Event → Bool) (R : α → β → Prop) (x : Act P α) (y : Act P β) : Prop :=
  ∀ s, (x s).events.all fine = true →
    R (x s).value (y s).value ∧ (y s).state = (x s).state ∧ (y s).events = (x s).events

namespace Paired

variable {R : α → β → Prop} {S : γ → δ → Prop}

theorem pure {a : α} {b : β} (related : R a b) :
    (Pure.pure a : Act P α).Paired fine R (Pure.pure b) :=
  fun _ _ => ⟨related, rfl, rfl⟩

theorem bind {x : Act P α} {y : Act P β} {f : α → Act P γ} {g : β → Act P δ}
    (first : x.Paired fine R y) (second : ∀ a b, R a b → (f a).Paired fine S (g b)) :
    (x >>= f).Paired fine S (y >>= g) := by
  intro s every
  rw [bind_apply, List.all_append, Bool.and_eq_true] at every
  obtain ⟨related, state, events⟩ := first s every.1
  obtain ⟨value, last, more⟩ := second _ _ related (x s).state every.2
  simp only [bind_apply, state, events, last, more]
  exact ⟨value, trivial, trivial⟩

/-- One and the same action first. -/
theorem same {x : Act P α} {f : α → Act P γ} {g : α → Act P δ}
    (second : ∀ a, (f a).Paired fine S (g a)) : (x >>= f).Paired fine S (x >>= g) := by
  have first : x.Paired fine Eq x := fun _ _ => ⟨rfl, rfl, rfl⟩
  apply first.bind
  rintro a _ rfl
  exact second a

end Paired
end Act

/-! A later clock. -/

def Deadline.later (shift : Duration) (deadline : Deadline) : Deadline :=
  { deadline with started := deadline.started + shift }

theorem Deadline.passed?_later (deadline : Deadline) (now : Instant) :
    (deadline.later shift).passed? (now + shift) = deadline.passed? now := by
  have moved : (deadline.later shift).elapsed (now + shift) = deadline.elapsed now :=
    elapsed_shift deadline.started now shift deadline.window
  rw [passed?, moved]
  rfl

def Message.later (shift : Duration) (m : Message) : Message :=
  { m with deadline := m.deadline.map (·.later shift) }

@[simp] theorem Message.unsent_later (m : Message) : (m.later shift).unsent = m.unsent := rfl

theorem Message.deadlineAt_later (m : Message) (now : Instant) (window : Duration) :
    (m.later shift).deadlineAt (now + shift) window = (m.deadlineAt now window).later shift := by
  obtain ⟨payload, rest, deadline, ticket⟩ := m
  cases deadline <;> rfl

theorem Message.arm_later (m : Message) (now : Instant) (window : Duration) :
    (m.later shift).arm (now + shift) window = (m.arm now window).later shift := by
  rw [arm, deadlineAt_later]
  rfl

def Outbox.later (shift : Duration) (o : Outbox) : Outbox :=
  ⟨o.messages.map (·.later shift)⟩

namespace Outbox

theorem pop_later (o : Outbox) (result : Completion) :
    (o.later shift).pop result = ((o.pop result).1, (o.pop result).2.later shift) := by
  obtain ⟨_ | _⟩ := o <;> rfl

theorem mapHead_later (o : Outbox) (m : Message) :
    ((o.later shift).mapHead fun _ => m.later shift) = (o.mapHead fun _ => m).later shift := by
  obtain ⟨_ | _⟩ := o <;> rfl

theorem head?_later (o : Outbox) : (o.later shift).head? = o.head?.map (·.later shift) :=
  List.head?_map

theorem push_later (o : Outbox) (grants : Nat → Bool) (bytes : List UInt8) (ticket : Ticket) :
    (o.later shift).push grants bytes ticket =
      (o.push grants bytes ticket).map (·.later shift) := by
  unfold push
  split
  · rfl
  · split
    · rfl
    · simp only [later, Except.map, List.map_append]
      rfl

theorem completions_later (o : Outbox) (result : Completion) :
    (o.later shift).messages.map (·.completion result) =
      o.messages.map (·.completion result) :=
  List.map_map

theorem size_later (o : Outbox) : (o.later shift).size = o.size :=
  List.length_map _

end Outbox

/-! A buffer that holds something else. -/

/-- Buffers of the same room that hold the same, unless only reads are fine that fill what they
report. -/
structure Buffer.Alike (fine : Event → Bool) (buffer other : Buffer) : Prop where
  room : other.room = buffer.room
  content : other = buffer ∨ ∀ event, fine event = true → event.fills = true

theorem Buffer.Alike.store {buffer other : Buffer} (alike : buffer.Alike fine other)
    (stored : List UInt8) : (buffer.store stored).Alike fine (other.store stored) := by
  constructor
  · exact alike.room
  · rcases alike.content with rfl | fills
    · exact .inl rfl
    · exact .inr fills

theorem Buffer.take_min (buffer : Buffer) (count : Nat) :
    buffer.take (min count buffer.room) = buffer.take count := by
  rw [take_eq, take_eq, ← buffer.length_toList]
  exact List.take_eq_take_min.symm

/-- Of what a read has stored nothing is left of what was in the buffer before. -/
theorem Buffer.take_store_of_le {buffer : Buffer} {bytes : List UInt8} {count : Nat}
    (filled : min count buffer.room ≤ (bytes.take buffer.room).length) :
    (buffer.store bytes).take count = (bytes.take buffer.room).take (min count buffer.room) := by
  rw [← take_min, take_eq, toList_store]
  exact List.take_append_of_le_length filled

/-- What two reads leave: the same answer and handle, and of what they report the same. -/
inductive Buffer.Reread (fine : Event → Bool) {ρ σ : Type} (done : Nat → ρ) :
    ρ × Buffer × σ → ρ × Buffer × σ → Prop
  | mk {answer : ρ} {handle : σ} {buffer other : Buffer} (alike : buffer.Alike fine other)
      (content : ∀ count, answer = done count → other.take count = buffer.take count) :
      Reread fine done (answer, buffer, handle) (answer, other, handle)

theorem Act.read_paired {buffer other : Buffer} (alike : buffer.Alike fine other)
    (session : P.Session) :
    (Act.read buffer session).Paired fine (Buffer.Reread fine .ok) (Act.read other session) := by
  intro s every
  have shown := List.all_eq_true.mp every _ List.mem_cons_self
  simp only [Act.read, alike.room] at shown ⊢
  refine ⟨⟨alike.store _, ?_⟩, trivial, trivial⟩
  intro count reported
  rcases alike.content with rfl | fills
  · rfl
  · have filled := fills _ shown
    rw [reported] at filled
    have there : min count buffer.room ≤ _ := of_decide_eq_true filled
    rw [Buffer.take_store_of_le there, Buffer.take_store_of_le (by rwa [alike.room]), alike.room]

theorem Channel.read_paired {buffer other : Buffer} (alike : buffer.Alike fine other)
    (channel : Channel P) :
    (channel.read buffer).Paired fine (Buffer.Reread fine .done) (channel.read other) := by
  apply (Act.read_paired alike channel.session).bind
  rintro _ _ ⟨alike, content⟩
  rename_i answer session left right
  cases answer with
  | error e =>
      dsimp only
      split
      · exact .pure ⟨alike, nofun⟩
      · exact .pure ⟨alike, nofun⟩
  | ok count =>
      dsimp only
      split
      · exact .pure ⟨alike, nofun⟩
      · rw [alike.room]
        refine .pure ⟨alike, ?_⟩
        rintro _ ⟨rfl⟩
        rw [left.take_min, ← alike.room, right.take_min]
        exact content count rfl

end PolledTls
