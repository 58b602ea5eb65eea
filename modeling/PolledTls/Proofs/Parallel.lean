import PolledTls.Proofs.Composed
import PolledTls.Proofs.History

/-!
Runs that their results do not tell apart. Two platforms differ only in what reads and writes see of
them, two connections only in what they read into and in what they have queued; as long as no read
and no write fails, they stay so whatever is asked of them, and answer the same.
-/
namespace PolledTls

variable {P : Platform} {α β γ δ : Type} {alike : P.State → P.State → Prop}

namespace Act

/-- From states that are alike the two actions leave such states, and values that are related. -/
def Parallel (alike : P.State → P.State → Prop) (R : α → β → Prop) (x : Act P α) (y : Act P β) :
    Prop :=
  ∀ s t, alike s t → R (x s).value (y t).value ∧ alike (x s).state (y t).state

/-- The action does not tell apart states that are alike. -/
def Blind (alike : P.State → P.State → Prop) (x : Act P α) : Prop :=
  x.Parallel alike Eq x

/-- From a state that is like itself the action leaves one that is like it, and a value that
satisfies `Q`. -/
def Stays (alike : P.State → P.State → Prop) (Q : α → Prop) (x : Act P α) : Prop :=
  ∀ s, alike s s → Q (x s).value ∧ alike s (x s).state

namespace Parallel

variable {R : α → β → Prop} {S : γ → δ → Prop}

theorem pure {a : α} {b : β} (related : R a b) :
    (Pure.pure a : Act P α).Parallel alike R (Pure.pure b) :=
  fun _ _ same => ⟨related, same⟩

theorem bind {x : Act P α} {y : Act P β} {f : α → Act P γ} {g : β → Act P δ}
    (first : x.Parallel alike R y) (second : ∀ a b, R a b → (f a).Parallel alike S (g b)) :
    (x >>= f).Parallel alike S (y >>= g) := by
  intro s t same
  obtain ⟨related, later⟩ := first s t same
  exact second _ _ related _ _ later

/-- One and the same action first. -/
theorem same {x : Act P α} {f : α → Act P γ} {g : α → Act P δ} (blind : x.Blind alike)
    (second : ∀ a, (f a).Parallel alike S (g a)) :
    (x >>= f).Parallel alike S (x >>= g) := by
  apply Parallel.bind blind
  rintro a _ rfl
  exact second a

end Parallel

theorem Stays.pure {a : α} {Q : α → Prop} (found : Q a) : (Pure.pure a : Act P α).Stays alike Q :=
  fun _ same => ⟨found, same⟩

/-- The action is seen and no more: it leaves the platform as it is. -/
def Mute (x : Act P Unit) : Prop :=
  ∀ s, (x s).state = s

namespace Mute

variable {x y : Act P Unit} {f : Unit → Act P γ} {g : Unit → Act P δ} {S : γ → δ → Prop}
  {Q : γ → Prop}

theorem emit (event : Event) : (Act.emit event : Act P Unit).Mute :=
  fun _ => rfl

theorem fireAll (fired : List Callback) : (Act.fireAll fired : Act P Unit).Mute :=
  fun _ => rfl

theorem check (rule : Prop) [Decidable rule] (fault : Fault) :
    (Act.check rule fault : Act P Unit).Mute := by
  unfold Act.check
  split
  · exact fun _ => rfl
  · exact .emit _

theorem then_parallel (first : x.Mute) (other : y.Mute)
    (second : (f ()).Parallel alike S (g ())) : (x >>= f).Parallel alike S (y >>= g) := by
  intro s t same
  simp only [bind_apply, first s, other t]
  exact second s t same

theorem then_stays (first : x.Mute) (second : (f ()).Stays alike Q) :
    (x >>= f).Stays alike Q := by
  intro s same
  simp only [bind_apply, first s]
  exact second s same

end Mute

/-- Whatever is logged or fires on either side first. -/
theorem Parallel.emits {event other : Event} {f : Unit → Act P γ} {g : Unit → Act P δ}
    {S : γ → δ → Prop} (second : (f ()).Parallel alike S (g ())) :
    (emit event >>= f).Parallel alike S (emit other >>= g) :=
  (Mute.emit event).then_parallel (.emit other) second

end Act

/-- An answer to a read or a write that is no failure. -/
def Act.Mild {σ : Type} (answer : Except IoError σ) : Prop :=
  ∀ e, answer = .error e → e.kind.isNotReady = true

/-- A platform on which states that are alike differ only in what reads and writes see of them, and
on which these do not fail. -/
structure Platform.Blind (P : Platform) (alike : P.State → P.State → Prop) : Prop where
  symm : ∀ {s t}, alike s t → alike t s
  trans : ∀ {s t u}, alike s t → alike t u → alike s u
  grants : ∀ {s t}, alike s t → ∀ size, P.grants size t = P.grants size s
  composed : Act.Composed fun x : Act P _ => x.Blind alike
  read : ∀ buffer (session : P.Session), (Act.read buffer session).Stays alike
    fun (answer, _, left) => Act.Mild answer ∧ left = session
  write : ∀ offered (session : P.Session), (Act.write offered session).Stays alike
    fun (answer, left) => Act.Mild answer ∧ left = session

/-- Whether a message is queued has nothing to do with what waits. -/
theorem Outbox.push_alike (o other : Outbox) (grants : Nat → Bool) (bytes : List UInt8)
    (ticket : Ticket) :
    (∃ e, o.push grants bytes ticket = .error e ∧ other.push grants bytes ticket = .error e) ∨
      ∃ queued more, o.push grants bytes ticket = .ok queued ∧
        other.push grants bytes ticket = .ok more := by
  unfold Outbox.push
  split
  · exact .inl ⟨_, rfl, rfl⟩
  · split
    · exact .inl ⟨_, rfl, rfl⟩
    · exact .inr ⟨_, _, rfl, rfl⟩

namespace Connection

variable {c d : Connection P}

/-- Connections that differ at most in what they read into and in what they have queued. -/
inductive Akin (c : Connection P) : Connection P → Prop
  | mk (size : Nat) (outbox : Outbox) (buffer : Buffer) :
      Akin c { c with config := { c.config with readChunkSize := size }, outbox, buffer }

namespace Akin

theorem refl (c : Connection P) : c.Akin c :=
  .mk c.config.readChunkSize c.outbox c.buffer

theorem symm (akin : c.Akin d) : d.Akin c := by
  obtain ⟨size, outbox, buffer⟩ := akin
  exact .mk c.config.readChunkSize c.outbox c.buffer

theorem trans {e : Connection P} (akin : c.Akin d) (next : d.Akin e) : c.Akin e := by
  obtain ⟨⟩ := akin
  obtain ⟨⟩ := next
  exact .mk _ _ _

theorem status_eq (akin : c.Akin d) : d.status = c.status := by
  obtain ⟨⟩ := akin
  rfl

theorem phase_eq (akin : c.Akin d) : d.phase = c.phase := by
  obtain ⟨⟩ := akin
  rfl

end Akin

/-- The same answer, and connections that are akin. -/
def Agree (one other : Except Error Unit × Connection P) : Prop :=
  one.1 = other.1 ∧ one.2.Akin other.2

theorem reportFailure_mute (c : Connection P) (e : Error) : (c.reportFailure e).Mute := by
  unfold reportFailure
  split
  · exact .emit _
  · exact fun _ => rfl

theorem deliver_mute (c : Connection P) (bytes : List UInt8) : (c.deliver bytes).Mute := by
  unfold deliver
  split
  · exact .emit _
  · exact fun _ => rfl

end Connection

namespace Platform.Blind

variable (h : P.Blind alike) {b c d : Connection P} {now : Instant}
include h

theorem stays_bind {x : Act P α} {f : α → Act P β} {Q : α → Prop} {R : β → Prop}
    (first : x.Stays alike Q) (second : ∀ a, Q a → (f a).Stays alike R) :
    (x >>= f).Stays alike R := by
  intro s same
  obtain ⟨found, near⟩ := first s same
  obtain ⟨value, far⟩ := second _ found _ (h.trans (h.symm near) near)
  exact ⟨value, h.trans near far⟩

theorem parallel_of_stays {x : Act P α} {y : Act P β} {Q : α → Prop} {R : β → Prop}
    {S : α → β → Prop} (one : x.Stays alike Q) (other : y.Stays alike R)
    (related : ∀ a b, Q a → R b → S a b) : x.Parallel alike S y := by
  intro s t same
  obtain ⟨value, near⟩ := one s (h.trans same (h.symm same))
  obtain ⟨result, far⟩ := other t (h.trans (h.symm same) same)
  exact ⟨related _ _ value result, h.trans (h.symm near) (h.trans same far)⟩

/-! An open connection. -/

theorem channel_read (channel : Channel P) (buffer : Buffer) : (channel.read buffer).Stays alike
    fun (outcome, _, left) => (∀ e, outcome ≠ .failed e) ∧ left = channel := by
  refine h.stays_bind (h.read buffer channel.session) ?_
  rintro ⟨e | count, buffer, session⟩ ⟨mild, rfl⟩
  · dsimp only
    rw [if_pos (mild e rfl)]
    exact Act.Stays.pure ⟨nofun, rfl⟩
  · dsimp only
    split <;> exact Act.Stays.pure ⟨nofun, rfl⟩

theorem channel_write (channel : Channel P) (offered : Bytes) :
    (channel.write offered).Stays alike
      fun (outcome, left) => (∀ e, outcome ≠ .failed e) ∧ left = channel := by
  refine h.stays_bind (h.write offered channel.session) ?_
  rintro ⟨e | count, session⟩ ⟨mild, rfl⟩
  · dsimp only
    rw [if_pos (mild e rfl)]
    exact Act.Stays.pure ⟨nofun, rfl⟩
  · dsimp only
    split <;> exact Act.Stays.pure ⟨nofun, rfl⟩

omit h in
theorem completeHead (akin : b.Akin c) (result : Completion) :
    (c.completeHead result).Stays alike b.Akin :=
  (Act.Mute.fireAll _).then_stays (Act.Stays.pure (akin.trans (.mk _ _ _)))

theorem writeHead {channel : Channel P} (akin : b.Akin { c with phase := .opened channel })
    (head : Message) : (c.writeHead channel head).Stays alike b.Akin := by
  refine (Act.Mute.check _ _).then_stays ?_
  refine h.stays_bind (h.channel_write channel head.rest) ?_
  rintro ⟨count | _ | e, _⟩ ⟨mild, rfl⟩
  · refine (Act.Mute.check _ _).then_stays ?_
    refine (Act.Mute.emit _).then_stays ?_
    have written := akin.trans
      (.mk c.config.readChunkSize (c.outbox.mapHead fun _ => head.accept count) c.buffer)
    dsimp only
    split
    · exact completeHead written .ok
    · exact Act.Stays.pure written
  · exact Act.Stays.pure akin
  · exact absurd rfl (mild e)

theorem serviceHead {channel : Channel P} (akin : b.Akin { c with phase := .opened channel }) :
    (c.serviceHead now channel).Stays alike b.Akin := by
  unfold Connection.serviceHead
  cases c.outbox.head? with
  | none => exact Act.Stays.pure akin
  | some head =>
      have armed := akin.trans
        (.mk c.config.readChunkSize
          (c.outbox.mapHead fun _ => head.arm now c.config.sendTimeout) c.buffer)
      dsimp only
      split
      · refine (Act.Mute.emit _).then_stays ?_
        refine h.stays_bind (completeHead armed .error) ?_
        intro left completed
        exact (left.reportFailure_mute _).then_stays (Act.Stays.pure completed)
      · split
        · exact completeHead armed .ok
        · exact h.writeHead armed _

/-- An open connection stays so. -/
theorem transfer {channel : Channel P} (akin : b.Akin { c with phase := .opened channel }) :
    (c.transfer now channel).Stays alike b.Akin := by
  refine h.stays_bind (h.channel_read channel c.buffer) ?_
  rintro ⟨count | _ | e, buffer, _⟩ ⟨mild, rfl⟩
  · refine (Act.Mute.emit _).then_stays ?_
    refine (Act.Mute.check _ _).then_stays ?_
    refine (Connection.deliver_mute _ _).then_stays ?_
    exact h.serviceHead (akin.trans (.mk _ _ buffer))
  · exact h.serviceHead (akin.trans (.mk _ _ buffer))
  · exact absurd rfl (mild e)

/-! The way to an open connection. -/

omit h in
theorem settleOpen (akin : c.Akin d) (result : Completion) :
    (c.settleOpen result).Parallel alike Connection.Akin (d.settleOpen result) := by
  obtain ⟨size, outbox, buffer⟩ := akin
  unfold Connection.settleOpen
  dsimp only
  split
  · exact .emits (.pure (.mk size outbox buffer))
  · exact .pure (.mk size outbox buffer)

omit h in
theorem failOpen (akin : c.Akin d) (status : Status) (e : Error) :
    (c.failOpen status e).Parallel alike Connection.Akin (d.failOpen status e) := by
  obtain ⟨size, outbox, buffer⟩ := akin
  exact .emits (settleOpen (.mk size outbox buffer) .error)

theorem checkDeadline (akin : c.Akin d) :
    (c.checkDeadline now).Parallel alike Connection.Akin (d.checkDeadline now) := by
  obtain ⟨size, outbox, buffer⟩ := akin
  unfold Connection.checkDeadline
  dsimp only
  split
  · exact .pure (.mk size outbox buffer)
  · refine .same (h.composed.phase_release c.phase) fun _ => ?_
    exact failOpen (.mk size outbox buffer) _ _

theorem pollQuery (akin : c.Akin d) (query : Query P) :
    (c.pollQuery now query).Parallel alike Connection.Akin (d.pollQuery now query) := by
  obtain ⟨size, outbox, buffer⟩ := akin
  refine .same (h.composed.query_poll query) ?_
  rintro ⟨_ | _ | ip, query⟩
  · exact h.checkDeadline (.mk size outbox buffer)
  · refine .same (h.composed.releaseLookup query.lookup) fun _ => ?_
    exact failOpen (.mk size outbox buffer) _ _
  · refine .same (h.composed.releaseLookup query.lookup) fun _ => ?_
    refine .same (h.composed.dial_start ⟨ip, c.port⟩) ?_
    rintro (e | dial)
    · exact failOpen (.mk size outbox buffer) _ _
    · exact .emits (.pure (.mk size outbox buffer))

theorem pollDial (akin : c.Akin d) (dial : Dial P) :
    (c.pollDial now dial).Parallel alike Connection.Akin (d.pollDial now dial) := by
  obtain ⟨size, outbox, buffer⟩ := akin
  refine .same (h.composed.dial_poll dial) ?_
  rintro ⟨_ | socket | e, dial⟩
  · exact h.checkDeadline (.mk size outbox buffer)
  · refine .same (h.composed.channel_start socket c.host) ?_
    rintro (e | channel)
    · exact failOpen (.mk size outbox buffer) _ _
    · exact .emits (.pure (.mk size outbox buffer))
  · refine .same (h.composed.dial_release dial) fun _ => ?_
    exact failOpen (.mk size outbox buffer) _ _

theorem pollHandshake (akin : c.Akin d) (channel : Channel P) :
    (c.pollHandshake now channel).Parallel alike Connection.Akin (d.pollHandshake now channel) := by
  obtain ⟨size, outbox, buffer⟩ := akin
  refine .same (h.composed.channel_handshake channel) ?_
  rintro ⟨_ | _ | e, channel⟩
  · refine .emits ?_
    exact settleOpen (.mk size outbox buffer) .ok
  · exact h.checkDeadline (.mk size outbox buffer)
  · refine .same (h.composed.channel_release channel) fun _ => ?_
    exact failOpen (.mk size outbox buffer) _ _

/-! What an owner asks. -/

/-- A connection that is open when it is polled stays open. -/
theorem poll_opened {channel : Channel P} (akin : b.Akin c) (phase : c.phase = .opened channel) :
    (c.poll now).Stays alike b.Akin := by
  have whole : { c with phase := .opened channel } = c := by rw [← phase]
  rw [Connection.poll, phase]
  exact h.transfer (whole.symm ▸ akin)

theorem poll (akin : c.Akin d) :
    (c.poll now).Parallel alike Connection.Akin (d.poll now) := by
  cases phase : c.phase with
  | opened channel =>
      have other : d.phase = .opened channel := akin.phase_eq.trans phase
      exact h.parallel_of_stays (h.poll_opened (.refl c) phase) (h.poll_opened akin other)
        fun _ _ one other => one.symm.trans other
  | notOpen | failed =>
      rw [Connection.poll, Connection.poll, akin.phase_eq, phase]
      exact .pure akin
  | resolving query =>
      rw [Connection.poll, Connection.poll, akin.phase_eq, phase]
      exact h.pollQuery akin query
  | connecting dial =>
      rw [Connection.poll, Connection.poll, akin.phase_eq, phase]
      exact h.pollDial akin dial
  | handshaking channel =>
      rw [Connection.poll, Connection.poll, akin.phase_eq, phase]
      exact h.pollHandshake akin channel

theorem start (akin : c.Akin d) (ticket : Ticket) :
    (c.start now ticket).Parallel alike Connection.Agree (d.start now ticket) := by
  obtain ⟨size, outbox, buffer⟩ := akin
  unfold Connection.start
  dsimp only
  split
  · refine .same (h.composed.query_start c.host) ?_
    rintro (e | query)
    · refine .emits ?_
      exact .emits (.pure ⟨rfl, .mk size outbox buffer⟩)
    · exact .emits (.pure ⟨rfl, .mk size outbox buffer⟩)
  · refine .emits ?_
    exact .emits (.pure ⟨rfl, .mk size outbox buffer⟩)

theorem windDown (akin : c.Akin d) :
    c.windDown.Parallel alike Connection.Akin d.windDown := by
  rw [Connection.windDown_eq, Connection.windDown_eq]
  refine .bind (R := Connection.Akin) ?_ ?_
  · rw [akin.status_eq]
    split
    · exact settleOpen akin .cancelled
    · exact .pure akin
  · rintro c d akin
    obtain ⟨size, outbox, buffer⟩ := akin
    refine .same (h.composed.phase_shutDown c.phase) fun _ => ?_
    refine (Act.Mute.fireAll _).then_parallel (.fireAll _) ?_
    exact .emits (.pure (.mk size ⟨[]⟩ buffer))

theorem close (akin : c.Akin d) (ticket : Ticket) :
    (c.close ticket).Parallel alike Connection.Agree (d.close ticket) := by
  unfold Connection.close
  rw [akin.phase_eq]
  split
  · refine .emits ?_
    exact .emits (.pure ⟨rfl, akin⟩)
  · refine .bind (h.windDown akin) fun _ _ akin => ?_
    exact .emits (.pure ⟨rfl, akin⟩)

theorem granting : (Act.granting : Act P (Nat → Bool)).Blind alike :=
  fun _ _ same => ⟨funext fun size => (h.grants same size).symm, same⟩

theorem send (akin : c.Akin d) (bytes : List UInt8) (ticket : Ticket) :
    (c.send bytes ticket).Parallel alike Connection.Agree (d.send bytes ticket) := by
  obtain ⟨size, outbox, buffer⟩ := akin
  unfold Connection.send
  dsimp only
  split
  · refine .same h.granting fun grants => ?_
    rcases Outbox.push_alike c.outbox outbox grants bytes ticket with
      ⟨e, refused, other⟩ | ⟨queued, more, accepted, other⟩
    · rw [refused, other]
      exact .pure ⟨rfl, .mk size outbox buffer⟩
    · rw [accepted, other]
      exact .emits (.pure ⟨rfl, .mk size more buffer⟩)
  · exact .pure ⟨rfl, .mk size outbox buffer⟩

/-- Whatever is asked of connections that are akin, on states that are alike, they answer the same
and stay akin. -/
theorem carryOut (akin : c.Akin d) (now : Instant) (request : Connection.Request) :
    (c.carryOut now request).Parallel alike Connection.Agree (d.carryOut now request) := by
  cases request with
  | start ticket => exact h.start akin ticket
  | close ticket => exact h.close akin ticket
  | send bytes ticket => exact h.send akin bytes ticket
  | poll => exact .bind (h.poll akin) fun _ _ akin => .pure ⟨rfl, akin⟩
  | setOption name value => exact .emits (.pure ⟨rfl, akin⟩)

end Platform.Blind
end PolledTls
