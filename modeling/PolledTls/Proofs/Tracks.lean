import PolledTls.Proofs.Composed
import PolledTls.Proofs.Step.Exhaustive

/-!
What is seen of a platform through a view that changes with the recorded events alone. If every call
of the platform changes the view as its event says, whatever a connection does changes it as the
record says.
-/
namespace PolledTls

variable {P : Platform} {α β γ : Type} {view : P.State → γ} {step : γ → Event → γ}

/-- Whatever the state, the action takes the view of it through its events. -/
def Act.Tracks (view : P.State → γ) (step : γ → Event → γ) (x : Act P α) : Prop :=
  ∀ s, view (x s).state = (x s).events.foldl step (view s)

namespace Act.Tracks

theorem pure (a : α) : (Pure.pure a : Act P α).Tracks view step :=
  fun _ => rfl

theorem bind {x : Act P α} {f : α → Act P β} (first : x.Tracks view step)
    (second : ∀ a, (f a).Tracks view step) : (x >>= f).Tracks view step := by
  intro s
  rw [bind_apply, List.foldl_append, ← first s]
  exact second _ _

theorem granting : (Act.granting : Act P (Nat → Bool)).Tracks view step :=
  fun _ => rfl

end Act.Tracks

/-- A platform whose state is seen to change with the recorded events alone: its calls and releases
do as they record, and a callback, a log event or a fault changes nothing. -/
structure Platform.Tracked (P : Platform) (view : P.State → γ) (step : γ → Event → γ) : Prop where
  callback : ∀ seen fired, step seen (.callback fired) = seen
  log : ∀ seen event, step seen (.log event) = seen
  fault : ∀ seen fault, step seen (.fault fault) = seen
  beginLookup : ∀ hostname,
    (Act.beginLookup hostname : Act P (Except Error P.Lookup)).Tracks view step
  isComplete : ∀ lookup : P.Lookup, (Act.isComplete lookup).Tracks view step
  result : ∀ lookup : P.Lookup, (Act.result lookup).Tracks view step
  beginConnect : ∀ endpoint,
    (Act.beginConnect endpoint : Act P (Except Error P.Socket)).Tracks view step
  pollConnect : ∀ socket : P.Socket, (Act.pollConnect socket).Tracks view step
  newContext : (Act.newContext : Act P (Except Error P.Context)).Tracks view step
  newSession : ∀ (context : P.Context) serverName,
    (Act.newSession context serverName).Tracks view step
  bindSocket : ∀ (session : P.Session) (socket : P.Socket),
    (Act.bindSocket session socket).Tracks view step
  handshake : ∀ session : P.Session, (Act.handshake session).Tracks view step
  read : ∀ buffer (session : P.Session), (Act.read buffer session).Tracks view step
  write : ∀ offered (session : P.Session), (Act.write offered session).Tracks view step
  shutdown : ∀ session : P.Session, (Act.shutdown session).Tracks view step
  releaseLookup : ∀ lookup : P.Lookup, (Act.releaseLookup lookup).Tracks view step
  releaseSocket : ∀ socket : P.Socket, (Act.releaseSocket socket).Tracks view step
  releaseContext : ∀ context : P.Context, (Act.releaseContext context).Tracks view step
  releaseSession : ∀ session : P.Session, (Act.releaseSession session).Tracks view step

namespace Platform.Tracked

variable (h : P.Tracked view step)
include h

theorem log_tracks (event : LogEvent) : (Act.log event : Act P Unit).Tracks view step :=
  fun s => (h.log (view s) event).symm

theorem fire (fired : Callback) : (Act.fire fired : Act P Unit).Tracks view step :=
  fun s => (h.callback (view s) fired).symm

theorem fireAll (fired : List Callback) : (Act.fireAll fired : Act P Unit).Tracks view step := by
  intro s
  change view s = (fired.map .callback).foldl step (view s)
  induction fired with
  | nil => rfl
  | cons first rest ih => rw [List.map_cons, List.foldl_cons, h.callback, ← ih]

theorem check (rule : Prop) [Decidable rule] (fault : Fault) :
    (Act.check rule fault : Act P Unit).Tracks view step := by
  unfold Act.check
  split
  · exact .pure ()
  · exact fun s => (h.fault (view s) fault).symm

theorem composed : Act.Composed fun x : Act P _ => x.Tracks view step where
  pure a := .pure a
  bind first second := first.bind second
  log event := h.log_tracks event
  beginLookup := h.beginLookup
  isComplete := h.isComplete
  result := h.result
  beginConnect := h.beginConnect
  pollConnect := h.pollConnect
  newContext := h.newContext
  newSession := h.newSession
  bindSocket := h.bindSocket
  handshake := h.handshake
  shutdown := h.shutdown
  releaseLookup := h.releaseLookup
  releaseSocket := h.releaseSocket
  releaseContext := h.releaseContext
  releaseSession := h.releaseSession

theorem channel_read (channel : Channel P) (buffer : Buffer) :
    (channel.read buffer).Tracks view step := by
  refine (h.read buffer channel.session).bind ?_
  rintro ⟨e | count, buffer, session⟩ <;> dsimp only <;> split <;> exact .pure _

theorem channel_write (channel : Channel P) (offered : Bytes) :
    (channel.write offered).Tracks view step := by
  refine (h.write offered channel.session).bind ?_
  rintro ⟨e | count, session⟩ <;> dsimp only <;> split <;> exact .pure _

/-! The connection. -/

variable (c : Connection P) (now : Instant)

theorem settleOpen (result : Completion) : (c.settleOpen result).Tracks view step := by
  unfold Connection.settleOpen
  split
  · exact (h.fire _).bind fun _ => .pure _
  · exact .pure c

theorem reportFailure (e : Error) : (c.reportFailure e).Tracks view step := by
  unfold Connection.reportFailure
  split
  · exact h.fire _
  · exact .pure ()

theorem deliver (bytes : List UInt8) : (c.deliver bytes).Tracks view step := by
  unfold Connection.deliver
  split
  · exact h.fire _
  · exact .pure ()

theorem failOpen (status : Status) (e : Error) : (c.failOpen status e).Tracks view step :=
  (h.log_tracks _).bind fun _ => h.settleOpen _ .error

theorem checkDeadline : (c.checkDeadline now).Tracks view step := by
  unfold Connection.checkDeadline
  split
  · exact .pure c
  · exact (h.composed.phase_release c.phase).bind fun _ => h.failOpen c _ _

theorem pollQuery (query : Query P) : (c.pollQuery now query).Tracks view step := by
  refine (h.composed.query_poll query).bind ?_
  rintro ⟨_ | _ | ip, query⟩
  · exact h.checkDeadline _ now
  · exact (h.releaseLookup query.lookup).bind fun _ => h.failOpen c _ _
  · refine (h.releaseLookup query.lookup).bind fun _ => ?_
    apply (h.composed.dial_start ⟨ip, c.port⟩).bind
    intro answer
    cases answer with
    | error e => exact h.failOpen c _ e
    | ok dial => exact (h.log_tracks _).bind fun _ => .pure _

theorem pollDial (dial : Dial P) : (c.pollDial now dial).Tracks view step := by
  refine (h.composed.dial_poll dial).bind ?_
  rintro ⟨_ | socket | e, dial⟩
  · exact h.checkDeadline _ now
  · apply (h.composed.channel_start socket c.host).bind
    intro answer
    cases answer with
    | error e => exact h.failOpen c _ e
    | ok channel => exact (h.log_tracks _).bind fun _ => .pure _
  · exact (h.composed.dial_release dial).bind fun _ => h.failOpen c _ e

theorem pollHandshake (channel : Channel P) : (c.pollHandshake now channel).Tracks view step := by
  refine (h.composed.channel_handshake channel).bind ?_
  rintro ⟨_ | _ | e, channel⟩
  · exact (h.log_tracks _).bind fun _ => h.settleOpen _ .ok
  · exact h.checkDeadline _ now
  · exact (h.composed.channel_release channel).bind fun _ => h.failOpen c _ e

theorem completeHead (result : Completion) : (c.completeHead result).Tracks view step :=
  (h.fireAll _).bind fun _ => .pure _

theorem writeHead (channel : Channel P) (head : Message) :
    (c.writeHead channel head).Tracks view step := by
  refine (h.check _ _).bind fun _ => ?_
  refine (h.channel_write channel head.rest).bind ?_
  rintro ⟨count | _ | e, channel⟩
  · refine (h.check _ _).bind fun _ => ?_
    refine (h.log_tracks _).bind fun _ => ?_
    dsimp only
    split
    · exact h.completeHead _ .ok
    · exact .pure _
  · exact .pure _
  · refine (h.composed.channel_release channel).bind fun _ => ?_
    refine (h.log_tracks _).bind fun _ => ?_
    apply (h.completeHead _ .error).bind
    intro c
    exact (h.reportFailure c e).bind fun _ => .pure c

theorem serviceHead (channel : Channel P) : (c.serviceHead now channel).Tracks view step := by
  unfold Connection.serviceHead
  cases c.outbox.head? with
  | none => exact .pure _
  | some head =>
      dsimp only
      split
      · refine (h.log_tracks _).bind fun _ => ?_
        apply (h.completeHead _ .error).bind
        intro c
        exact (h.reportFailure c _).bind fun _ => .pure c
      · split
        · exact h.completeHead _ .ok
        · exact h.writeHead _ channel _

theorem transfer (channel : Channel P) : (c.transfer now channel).Tracks view step := by
  refine (h.channel_read channel c.buffer).bind ?_
  rintro ⟨count | _ | e, buffer, channel⟩
  · refine (h.log_tracks _).bind fun _ => ?_
    refine (h.check _ _).bind fun _ => ?_
    refine (h.deliver _ _).bind fun _ => ?_
    exact h.serviceHead _ now channel
  · exact h.serviceHead _ now channel
  · refine (h.composed.channel_release channel).bind fun _ => ?_
    refine (h.log_tracks _).bind fun _ => ?_
    exact (h.reportFailure _ e).bind fun _ => .pure _

theorem windDown : c.windDown.Tracks view step := by
  have settled : (if c.status.isOpening then c.settleOpen .cancelled else Pure.pure c).Tracks
      view step := by
    split
    · exact h.settleOpen c .cancelled
    · exact .pure c
  rw [c.windDown_eq]
  apply settled.bind
  intro d
  refine (h.composed.phase_shutDown d.phase).bind fun _ => ?_
  refine (h.fireAll _).bind fun _ => ?_
  exact (h.log_tracks _).bind fun _ => .pure _

theorem start (ticket : Ticket) : (c.start now ticket).Tracks view step := by
  unfold Connection.start
  split
  · apply (h.composed.query_start c.host).bind
    intro answer
    cases answer with
    | error e =>
        refine (h.log_tracks _).bind fun _ => ?_
        exact (h.fire _).bind fun _ => .pure _
    | ok query => exact (h.log_tracks _).bind fun _ => .pure _
  · refine (h.log_tracks _).bind fun _ => ?_
    exact (h.fire _).bind fun _ => .pure _

theorem close (ticket : Ticket) : (c.close ticket).Tracks view step := by
  unfold Connection.close
  split
  · refine (h.log_tracks _).bind fun _ => ?_
    exact (h.fire _).bind fun _ => .pure _
  · apply (h.windDown c).bind
    intro c
    exact (h.fire _).bind fun _ => .pure _

theorem send (bytes : List UInt8) (ticket : Ticket) : (c.send bytes ticket).Tracks view step := by
  unfold Connection.send
  split
  · apply Act.Tracks.granting.bind
    intro grants
    cases c.outbox.push grants bytes ticket with
    | error e => exact .pure _
    | ok outbox => exact (h.log_tracks _).bind fun _ => .pure _
  · exact .pure _

theorem poll : (c.poll now).Tracks view step := by
  unfold Connection.poll
  split
  · exact .pure c
  · exact .pure c
  · exact h.pollQuery c now _
  · exact h.pollDial c now _
  · exact h.pollHandshake c now _
  · exact h.transfer c now _

theorem discard : c.discard.Tracks view step := by
  unfold Connection.discard
  split
  · exact .pure c
  · exact (h.log_tracks _).bind fun _ => h.windDown c

/-- Whatever is asked of a connection, the view changes as the record says. -/
theorem carryOut (request : Connection.Request) : (c.carryOut now request).Tracks view step := by
  cases request with
  | start ticket => exact h.start c now ticket
  | close ticket => exact h.close c ticket
  | send bytes ticket => exact h.send c bytes ticket
  | poll => exact (h.poll c now).bind fun _ => .pure _
  | setOption name value => exact (h.log_tracks _).bind fun _ => .pure _

end Platform.Tracked
end PolledTls
