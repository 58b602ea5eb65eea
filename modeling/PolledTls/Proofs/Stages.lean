import PolledTls.Stages
import PolledTls.Proofs.Yields

/-!
What each use of a query, a dial and a channel can come to: its answer with the calls, releases and
log events behind it, one case for every way the platform can answer.
-/
namespace PolledTls

variable {P : Platform}

namespace Query

inductive Starts (hostname : String) : Except Error (Query P) → List Event → Prop
  | refused (e : Error) :
      Starts hostname (.error e.asDns) [.call (.beginLookup hostname (.error e))]
  | started (lookup : P.Lookup) :
      Starts hostname (.ok ⟨hostname, lookup⟩)
        [.call (.beginLookup hostname (.ok ())), .log (.lookupStarted hostname)]

theorem start_yields (hostname : String) :
    (start hostname : Act P (Except Error (Query P))).Yields (Starts hostname) := by
  refine (Act.beginLookup_yields hostname).bind ?_
  rintro (e | lookup) _ rfl
  · exact .pure (.refused e)
  · exact .after (Act.log_yields _) fun _ => .pure (.started lookup)

inductive Polls (query : Query P) : Progress × Query P → List Event → Prop
  | pending (lookup : P.Lookup) :
      Polls query (.pending, { query with lookup }) [.call (.isComplete false)]
  | failed (lookup : P.Lookup) {answer : Option IPv4}
      (nowhere : answer = none ∨ answer = some .unspecified) :
      Polls query (.failed, { query with lookup })
        [.call (.isComplete true), .call (.result answer)]
  | resolved (lookup : P.Lookup) {ip : IPv4} (somewhere : ip ≠ .unspecified) :
      Polls query (.resolved ip, { query with lookup })
        [.call (.isComplete true), .call (.result (some ip))]

theorem poll_yields (query : Query P) : query.poll.Yields query.Polls := by
  refine (Act.isComplete_yields query.lookup).bind ?_
  rintro ⟨complete, lookup⟩ _ rfl
  cases complete with
  | false => exact .pure (.pending lookup)
  | true =>
      refine (Act.result_yields lookup).bind ?_
      rintro (_ | ip) _ rfl
      · exact .pure (.failed lookup (.inl rfl))
      · by_cases unspecified : ip = .unspecified
        · simp only [unspecified, if_true]
          exact .pure (.failed lookup (.inr rfl))
        · simp only [unspecified, if_false]
          exact .pure (.resolved lookup unspecified)

theorem release_yields (query : Query P) :
    query.release.Yields fun _ es => es = [.release .lookup] :=
  Act.releaseLookup_yields _

end Query

namespace Dial

inductive Starts (endpoint : Endpoint) : Except Error (Dial P) → List Event → Prop
  | refused (e : Error) :
      Starts endpoint (.error e.asConnect) [.call (.beginConnect endpoint (.error e))]
  | started (socket : P.Socket) :
      Starts endpoint (.ok ⟨endpoint, some socket⟩)
        [.call (.beginConnect endpoint (.ok ())), .log (.dialStarted endpoint)]

theorem start_yields (endpoint : Endpoint) :
    (start endpoint : Act P (Except Error (Dial P))).Yields (Starts endpoint) := by
  refine (Act.beginConnect_yields endpoint).bind ?_
  rintro (e | socket) _ rfl
  · exact .pure (.refused e)
  · exact .after (Act.log_yields _) fun _ => .pure (.started socket)

inductive Polls (dial : Dial P) : Progress P × Dial P → List Event → Prop
  | spent (none : dial.socket = none) :
      Polls dial (.failed (.connect "socket already taken"), dial) []
  | pending (owned : dial.socket.isSome) (socket : P.Socket) :
      Polls dial (.pending, { dial with socket := some socket }) [.call (.pollConnect (.ok false))]
  | connected (owned : dial.socket.isSome) (socket : P.Socket) :
      Polls dial (.connected socket, { dial with socket := none })
        [.call (.pollConnect (.ok true))]
  | failed (owned : dial.socket.isSome) (e : IoError) :
      Polls dial (.failed (.connect (dial.endpoint.text ++ ": " ++ e.text)),
        { dial with socket := none }) [.call (.pollConnect (.error e)), .release .socket]

theorem poll_yields (dial : Dial P) : dial.poll.Yields dial.Polls := by
  cases dial with
  | mk endpoint held =>
      cases held with
      | none => exact .pure (.spent rfl)
      | some socket =>
          refine (Act.pollConnect_yields socket).bind ?_
          rintro ⟨answer, socket⟩ _ rfl
          rcases answer with e | connected
          · exact .after (Act.releaseSocket_yields socket) fun _ => .pure (.failed rfl e)
          · cases connected with
            | false => exact .pure (.pending rfl socket)
            | true => exact .pure (.connected rfl socket)

def releases (dial : Dial P) : List Event :=
  if dial.socket.isSome then [.release .socket] else []

theorem release_yields (dial : Dial P) : dial.release.Yields fun _ es => es = dial.releases := by
  cases dial with
  | mk endpoint held =>
      cases held with
      | none => exact .pure rfl
      | some socket => exact Act.releaseSocket_yields socket

end Dial

namespace Channel

inductive Starts (serverName : String) : Except Error (Channel P) → List Event → Prop
  | contextFailed (e : Error) :
      Starts serverName (.error (e.asTls "create context"))
        [.call (.newContext (.error e)), .release .socket]
  | sessionFailed (e : Error) :
      Starts serverName (.error (e.asTls "create session"))
        [.call (.newContext (.ok ())), .call (.newSession serverName (.error e)),
          .release .context, .release .socket]
  | bindFailed (e : Error) :
      Starts serverName (.error (e.asTls "bind socket"))
        [.call (.newContext (.ok ())), .call (.newSession serverName (.ok ())),
          .call (.bindSocket (.error e)), .release .socket, .release .session, .release .context]
  | started (session : P.Session) (socket : P.Socket) (context : P.Context) :
      Starts serverName (.ok ⟨session, socket, context, serverName⟩)
        [.call (.newContext (.ok ())), .call (.newSession serverName (.ok ())),
          .call (.bindSocket (.ok ()))]

theorem start_yields (socket : P.Socket) (serverName : String) :
    (start socket serverName).Yields (Starts serverName) := by
  refine Act.newContext_yields.bind ?_
  rintro (e | context) _ rfl
  · exact .after (Act.releaseSocket_yields socket) fun _ => .pure (.contextFailed e)
  · refine (Act.newSession_yields context serverName).bind ?_
    rintro (e | session) _ rfl
    · exact .after (Act.releaseContext_yields context) fun _ =>
        .after (Act.releaseSocket_yields socket) fun _ => .pure (.sessionFailed e)
    · refine (Act.bindSocket_yields session socket).bind ?_
      rintro ⟨e | _, session⟩ _ rfl
      · exact .after (Act.releaseSocket_yields socket) fun _ =>
          .after (Act.releaseSession_yields session) fun _ =>
          .after (Act.releaseContext_yields context) fun _ => .pure (.bindFailed e)
      · exact .pure (.started session socket context)

inductive Handshakes (channel : Channel P) : Outcome Unit × Channel P → List Event → Prop
  | pending {e : IoError} (session : P.Session) (notReady : e.kind.isNotReady) :
      Handshakes channel (.wouldBlock, { channel with session }) [.call (.handshake (.error e))]
  | failed {e : IoError} (session : P.Session) (hard : e.kind.isNotReady = false) :
      Handshakes channel
        (.failed (.tls ("handshake with " ++ channel.serverName ++ " failed: " ++ e.text)),
          { channel with session }) [.call (.handshake (.error e))]
  | done (session : P.Session) :
      Handshakes channel (.done (), { channel with session }) [.call (.handshake (.ok ()))]

theorem handshake_yields (channel : Channel P) :
    channel.handshake.Yields channel.Handshakes := by
  refine (Act.handshake_yields channel.session).bind ?_
  rintro ⟨e | _, session⟩ _ rfl
  · cases notReady : e.kind.isNotReady with
    | true =>
        simp only [notReady, if_true]
        exact .pure (.pending session notReady)
    | false =>
        simp only [notReady, Bool.false_eq_true, if_false]
        exact .pure (.failed session notReady)
  · exact .pure (.done session)

/-- An answer to a read or a write that says nothing moved: a count of zero, or a kind of error
that says to try again. -/
def Stalls : Except IoError Nat → Prop
  | .ok count => count = 0
  | .error e => e.kind.isNotReady

inductive Reads (channel : Channel P) (buffer : Buffer) :
    Outcome Nat × Buffer × Channel P → List Event → Prop
  | received {count : Nat} (stored : List UInt8) (notices : List Notice) (session : P.Session)
      (some : count ≠ 0) :
      Reads channel buffer
        (.done (min count buffer.room), buffer.store stored, { channel with session })
        (.call (.read buffer.room (stored.take buffer.room) (.ok count)) :: Event.remarks notices)
  | quiet {answer : Except IoError Nat} (stored : List UInt8) (notices : List Notice)
      (session : P.Session) (stalled : Stalls answer) :
      Reads channel buffer (.wouldBlock, buffer.store stored, { channel with session })
        (.call (.read buffer.room (stored.take buffer.room) answer) :: Event.remarks notices)
  | failed {e : IoError} (stored : List UInt8) (notices : List Notice) (session : P.Session)
      (hard : e.kind.isNotReady = false) :
      Reads channel buffer
        (.failed (.io ("read failed: " ++ e.text)), buffer.store stored, { channel with session })
        (.call (.read buffer.room (stored.take buffer.room) (.error e)) :: Event.remarks notices)

theorem read_yields (channel : Channel P) (buffer : Buffer) :
    (channel.read buffer).Yields (channel.Reads buffer) := by
  refine (Act.read_yields buffer channel.session).bind ?_
  rintro ⟨answer, _, session⟩ _ ⟨stored, notices, rfl, rfl⟩
  rcases answer with e | count
  · cases notReady : e.kind.isNotReady with
    | true =>
        simp only [notReady, if_true]
        exact .done (.quiet stored notices session notReady)
    | false =>
        simp only [notReady, Bool.false_eq_true, if_false]
        exact .done (.failed stored notices session notReady)
  · by_cases zero : count = 0
    · simp only [zero, if_true]
      exact .done (.quiet stored notices session rfl)
    · simp only [zero, if_false]
      exact .done (.received stored notices session zero)

/-- The uses of `write` all offer something. -/
inductive Writes (channel : Channel P) (offered : Bytes) :
    Outcome Nat × Channel P → List Event → Prop
  | accepted {count : Nat} (notices : List Notice) (session : P.Session) (some : count ≠ 0) :
      Writes channel offered (.done (min count offered.size), { channel with session })
        (.call (.write offered.toList (.ok count)) :: Event.remarks notices)
  | quiet {answer : Except IoError Nat} (notices : List Notice) (session : P.Session)
      (stalled : Stalls answer) :
      Writes channel offered (.wouldBlock, { channel with session })
        (.call (.write offered.toList answer) :: Event.remarks notices)
  | failed {e : IoError} (notices : List Notice) (session : P.Session)
      (hard : e.kind.isNotReady = false) :
      Writes channel offered (.failed (.io ("write failed: " ++ e.text)), { channel with session })
        (.call (.write offered.toList (.error e)) :: Event.remarks notices)

theorem write_yields (channel : Channel P) {offered : Bytes} (something : offered.size ≠ 0) :
    (channel.write offered).Yields (channel.Writes offered) := by
  have nonempty : (!offered.isEmpty) = true := by simp [Bytes.isEmpty, something]
  refine (Act.write_yields offered channel.session).bind ?_
  rintro ⟨answer, session⟩ _ ⟨notices, rfl⟩
  rcases answer with e | count
  · cases notReady : e.kind.isNotReady with
    | true =>
        simp only [notReady, if_true]
        exact .done (.quiet notices session notReady)
    | false =>
        simp only [notReady, Bool.false_eq_true, if_false]
        exact .done (.failed notices session notReady)
  · by_cases zero : count = 0
    · simp only [zero, nonempty, and_self, if_true]
      exact .done (.quiet notices session rfl)
    · simp only [zero, false_and, if_false]
      exact .done (.accepted notices session zero)

def releases : List Event :=
  [.release .session, .release .socket, .release .context]

theorem release_yields (channel : Channel P) :
    channel.release.Yields fun _ es => es = releases :=
  .after (Act.releaseSession_yields _) fun _ =>
    .after (Act.releaseSocket_yields _) fun _ => Act.releaseContext_yields _ |>.mono (by
      rintro _ _ rfl
      rfl)

theorem shutDown_yields (channel : Channel P) :
    channel.shutDown.Yields fun _ es =>
      es = .call .shutdown :: .log (.shutDown channel.serverName) :: releases := by
  refine .after (Act.shutdown_yields channel.session) fun session => ?_
  refine .after (Act.log_yields _) fun _ => ?_
  refine (release_yields _).mono ?_
  rintro _ _ rfl
  rfl

end Channel
end PolledTls
