import PolledTls.Connection

/-!
What holds of every call on a platform and passes from the parts of a sequence to the whole holds of
all that queries, dials and channels do short of reading and writing.
-/
namespace PolledTls

variable {P : Platform}

/-- A property of actions that every call and release has and sequences take from their parts. -/
structure Act.Composed (good : ∀ {α : Type}, Act P α → Prop) : Prop where
  pure : ∀ {α : Type} (a : α), good (Pure.pure a : Act P α)
  bind : ∀ {α β : Type} {x : Act P α} {f : α → Act P β},
    good x → (∀ a, good (f a)) → good (x >>= f)
  log : ∀ event, good (Act.log event : Act P Unit)
  beginLookup : ∀ hostname, good (Act.beginLookup hostname : Act P (Except Error P.Lookup))
  isComplete : ∀ lookup : P.Lookup, good (Act.isComplete lookup)
  result : ∀ lookup : P.Lookup, good (Act.result lookup)
  beginConnect : ∀ endpoint, good (Act.beginConnect endpoint : Act P (Except Error P.Socket))
  pollConnect : ∀ socket : P.Socket, good (Act.pollConnect socket)
  newContext : good (Act.newContext : Act P (Except Error P.Context))
  newSession : ∀ (context : P.Context) serverName, good (Act.newSession context serverName)
  bindSocket : ∀ (session : P.Session) (socket : P.Socket), good (Act.bindSocket session socket)
  handshake : ∀ session : P.Session, good (Act.handshake session)
  shutdown : ∀ session : P.Session, good (Act.shutdown session)
  releaseLookup : ∀ lookup : P.Lookup, good (Act.releaseLookup lookup)
  releaseSocket : ∀ socket : P.Socket, good (Act.releaseSocket socket)
  releaseContext : ∀ context : P.Context, good (Act.releaseContext context)
  releaseSession : ∀ session : P.Session, good (Act.releaseSession session)

namespace Act.Composed

variable {good : ∀ {α : Type}, Act P α → Prop} (h : Act.Composed good)
include h

theorem query_start (hostname : String) :
    good (Query.start hostname : Act P (Except Error (Query P))) := by
  apply h.bind (h.beginLookup hostname)
  intro answer
  cases answer with
  | error e => exact h.pure _
  | ok lookup => exact h.bind (h.log _) fun _ => h.pure _

theorem query_poll (query : Query P) : good query.poll := by
  refine h.bind (h.isComplete query.lookup) ?_
  rintro ⟨complete, lookup⟩
  cases complete with
  | false => exact h.pure _
  | true =>
      apply h.bind (h.result lookup)
      intro answer
      cases answer <;> exact h.pure _

theorem dial_start (endpoint : Endpoint) :
    good (Dial.start endpoint : Act P (Except Error (Dial P))) := by
  apply h.bind (h.beginConnect endpoint)
  intro answer
  cases answer with
  | error e => exact h.pure _
  | ok socket => exact h.bind (h.log _) fun _ => h.pure _

theorem dial_poll (dial : Dial P) : good dial.poll := by
  unfold Dial.poll
  cases dial.socket with
  | none => exact h.pure _
  | some socket =>
      refine h.bind (h.pollConnect socket) ?_
      rintro ⟨e | connected, socket⟩
      · exact h.bind (h.releaseSocket socket) fun _ => h.pure _
      · cases connected <;> exact h.pure _

theorem dial_release (dial : Dial P) : good dial.release := by
  unfold Dial.release
  cases dial.socket with
  | none => exact h.pure _
  | some socket => exact h.releaseSocket socket

theorem channel_start (socket : P.Socket) (serverName : String) :
    good (Channel.start socket serverName) := by
  apply h.bind h.newContext
  intro answer
  cases answer with
  | error e => exact h.bind (h.releaseSocket socket) fun _ => h.pure _
  | ok context =>
      apply h.bind (h.newSession context serverName)
      intro answer
      cases answer with
      | error e =>
          refine h.bind (h.releaseContext context) fun _ => ?_
          exact h.bind (h.releaseSocket socket) fun _ => h.pure _
      | ok session =>
          refine h.bind (h.bindSocket session socket) ?_
          rintro ⟨e | _, session⟩
          · refine h.bind (h.releaseSocket socket) fun _ => ?_
            refine h.bind (h.releaseSession session) fun _ => ?_
            exact h.bind (h.releaseContext context) fun _ => h.pure _
          · exact h.pure _

theorem channel_handshake (channel : Channel P) : good channel.handshake := by
  refine h.bind (h.handshake channel.session) ?_
  rintro ⟨e | _, session⟩
  · dsimp only
    split <;> exact h.pure _
  · exact h.pure _

theorem channel_release (channel : Channel P) : good channel.release := by
  refine h.bind (h.releaseSession channel.session) fun _ => ?_
  refine h.bind (h.releaseSocket channel.socket) fun _ => ?_
  exact h.releaseContext channel.context

theorem channel_shutDown (channel : Channel P) : good channel.shutDown := by
  apply h.bind (h.shutdown channel.session)
  intro session
  exact h.bind (h.log _) fun _ => h.channel_release _

theorem phase_release (phase : Phase P) : good phase.release := by
  cases phase with
  | notOpen | failed => exact h.pure ()
  | resolving query => exact h.releaseLookup query.lookup
  | connecting dial => exact h.dial_release dial
  | handshaking channel | opened channel => exact h.channel_release channel

theorem phase_shutDown (phase : Phase P) : good phase.shutDown := by
  cases phase with
  | handshaking channel | opened channel => exact h.channel_shutDown channel
  | notOpen | failed => exact h.pure ()
  | resolving query => exact h.releaseLookup query.lookup
  | connecting dial => exact h.dial_release dial

end Act.Composed
end PolledTls
