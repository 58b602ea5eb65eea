import PolledTls.Proofs.Sound
import PolledTls.Proofs.Stages

/-!
What one call on a connection can come to: its result, the events in order and the connection it
leaves, one case for every way the platform and the clock can answer. Every law of runs is read off
these cases.
-/
namespace PolledTls

variable {P : Platform}

/-- How the poll of an opening phase turned out. -/
inductive Finding (P : Platform) where
  | waiting (phase : Phase P)
  | moved (phase : Phase P)
  | opened (channel : Channel P)
  | broken (error : Error)

namespace Phase

def releases : Phase P → List Event
  | .notOpen | .failed => []
  | .resolving _ => [.release .lookup]
  | .connecting dial => dial.releases
  | .handshaking _ | .opened _ => Channel.releases

/-- What leaving a phase for good shows. -/
def partings : Phase P → List Event
  | .handshaking channel | .opened channel =>
    .call .shutdown :: .log (.shutDown channel.serverName) :: Channel.releases
  | phase => phase.releases

/-- One poll of what an opening phase owns. -/
inductive Polls (config : Config) : Phase P → List Event → Finding P → Prop
  | lookupPending (query : Query P) (lookup : P.Lookup) :
      Polls config (.resolving query) [.call (.isComplete false)]
        (.waiting (.resolving { query with lookup }))
  | lookupFailed (query : Query P) {answer : Option IPv4}
      (nowhere : answer = none ∨ answer = some .unspecified) :
      Polls config (.resolving query)
        [.call (.isComplete true), .call (.result answer), .release .lookup]
        (.broken (.dns ("could not resolve " ++ config.host)))
  | connectRefused (query : Query P) {ip : IPv4} (somewhere : ip ≠ .unspecified) (e : Error) :
      Polls config (.resolving query)
        [.call (.isComplete true), .call (.result (some ip)), .release .lookup,
          .call (.beginConnect ⟨ip, config.port⟩ (.error e))]
        (.broken e.asConnect)
  | resolved (query : Query P) {ip : IPv4} (somewhere : ip ≠ .unspecified) (socket : P.Socket) :
      Polls config (.resolving query)
        [.call (.isComplete true), .call (.result (some ip)), .release .lookup,
          .call (.beginConnect ⟨ip, config.port⟩ (.ok ())), .log (.dialStarted ⟨ip, config.port⟩),
          .log (.connecting config.host ⟨ip, config.port⟩)]
        (.moved (.connecting ⟨⟨ip, config.port⟩, some socket⟩))
  | connectPending (dial : Dial P) (socket : P.Socket) :
      Polls config (.connecting dial) [.call (.pollConnect (.ok false))]
        (.waiting (.connecting { dial with socket := some socket }))
  | connectFailed (dial : Dial P) (e : IoError) :
      Polls config (.connecting dial) [.call (.pollConnect (.error e)), .release .socket]
        (.broken (.connect (dial.endpoint.text ++ ": " ++ e.text)))
  | setupFailed (dial : Dial P) {e : Error} {es : List Event}
      (setup : Channel.Starts (P := P) config.host (.error e) es) :
      Polls config (.connecting dial) (.call (.pollConnect (.ok true)) :: es) (.broken e)
  | connected (dial : Dial P) {channel : Channel P} {es : List Event}
      (setup : Channel.Starts config.host (.ok channel) es) :
      Polls config (.connecting dial)
        (.call (.pollConnect (.ok true)) :: es ++ [.log (.handshaking config.host dial.endpoint)])
        (.moved (.handshaking channel))
  | handshakePending (channel : Channel P) (session : P.Session) {e : IoError}
      (notReady : e.kind.isNotReady) :
      Polls config (.handshaking channel) [.call (.handshake (.error e))]
        (.waiting (.handshaking { channel with session }))
  | handshakeFailed (channel : Channel P) {e : IoError} (hard : e.kind.isNotReady = false) :
      Polls config (.handshaking channel) (.call (.handshake (.error e)) :: Channel.releases)
        (.broken (.tls ("handshake with " ++ channel.serverName ++ " failed: " ++ e.text)))
  | handshakeDone (channel : Channel P) (session : P.Session) :
      Polls config (.handshaking channel) [.call (.handshake (.ok ()))]
        (.opened { channel with session })

end Phase

namespace Connection

def broken (c : Connection P) (ticket : Ticket) : Connection P :=
  { c with phase := .failed, openDeadline := none, listener := some ⟨ticket, false⟩ }

def completed (c : Connection P) (ticket : Ticket) (channel : Channel P) : Connection P :=
  { c with phase := .opened channel, openDeadline := none, listener := some ⟨ticket, false⟩ }

def cleared (c : Connection P) : Connection P :=
  { c with phase := .notOpen, listener := none, openDeadline := none, outbox := .empty }

/-- What the failure of an attempt shows, once its resources are back. -/
def failure (c : Connection P) (ticket : Ticket) (e : Error) : List Event :=
  [.log (.openFailed c.host c.status e), .callback (.opened ticket .error)]

/-- A poll in an opening phase. The deadline counts only if the phase was not ready. -/
inductive Opens (c : Connection P) (now : Instant) (ticket : Ticket) :
    List Event → Connection P → Prop
  | waits {es : List Event} {phase : Phase P}
      (polled : c.phase.Polls c.config es (.waiting phase))
      (inTime : c.openDeadline.bind (·.passed? now) = none) :
      Opens c now ticket es { c with phase }
  | expires {es : List Event} {phase : Phase P} {elapsed : Duration}
      (polled : c.phase.Polls c.config es (.waiting phase))
      (late : c.openDeadline.bind (·.passed? now) = some elapsed) :
      Opens c now ticket (es ++ phase.releases ++ c.failure ticket (.openTimeout c.status elapsed))
        (c.broken ticket)
  | moves {es : List Event} {phase : Phase P}
      (polled : c.phase.Polls c.config es (.moved phase)) :
      Opens c now ticket es { c with phase }
  | breaks {es : List Event} {e : Error} (polled : c.phase.Polls c.config es (.broken e)) :
      Opens c now ticket (es ++ c.failure ticket e) (c.broken ticket)
  | completes {es : List Event} {channel : Channel P}
      (polled : c.phase.Polls c.config es (.opened channel)) :
      Opens c now ticket
        (es ++ [.log (.opened c.host c.port), .callback (.opened ticket .ok)])
        (c.completed ticket channel)

/-- One step for the head of the outbox of an open connection. -/
inductive Serves (c : Connection P) (now : Instant) (ticket : Ticket) (channel : Channel P) :
    List Event → Connection P → Prop
  | rests (nothing : c.outbox.messages = []) :
      Serves c now ticket channel [] { c with phase := .opened channel }
  | expires {m : Message} {rest : List Message} {elapsed : Duration}
      (head : c.outbox.messages = m :: rest)
      (late : (m.deadlineAt now c.config.sendTimeout).passed? now = some elapsed) :
      Serves c now ticket channel
        [.log (.sendTimedOut c.host (.sendTimeout elapsed m.unsent)),
          .callback (.sent m.ticket .error),
          .callback (.failed ticket (.sendTimeout elapsed m.unsent))]
        { c with phase := .opened channel, outbox := ⟨rest⟩ }
  | passes {m : Message} {rest : List Message} (head : c.outbox.messages = m :: rest)
      (inTime : (m.deadlineAt now c.config.sendTimeout).passed? now = none)
      (nothing : m.unsent = 0) :
      Serves c now ticket channel [.callback (.sent m.ticket .ok)]
        { c with phase := .opened channel, outbox := ⟨rest⟩ }
  | stalls {m : Message} {rest : List Message} {answer : Except IoError Nat}
      (head : c.outbox.messages = m :: rest)
      (inTime : (m.deadlineAt now c.config.sendTimeout).passed? now = none)
      (some : m.unsent ≠ 0) (notices : List Notice) (session : P.Session)
      (stalled : Channel.Stalls answer) :
      Serves c now ticket channel
        (.call (.write m.rest.toList answer) :: Event.remarks notices)
        { c with
          phase := .opened { channel with session }
          outbox := ⟨m.arm now c.config.sendTimeout :: rest⟩ }
  | writes {m : Message} {rest : List Message} {count : Nat}
      (head : c.outbox.messages = m :: rest)
      (inTime : (m.deadlineAt now c.config.sendTimeout).passed? now = none)
      (notices : List Notice) (session : P.Session) (some : count ≠ 0) (part : count < m.unsent) :
      Serves c now ticket channel
        (.call (.write m.rest.toList (.ok count)) :: Event.remarks notices ++
          [.log (.sent count (m.unsent - count))])
        { c with
          phase := .opened { channel with session }
          outbox := ⟨(m.arm now c.config.sendTimeout).accept count :: rest⟩ }
  | finishes {m : Message} {rest : List Message} {count : Nat}
      (head : c.outbox.messages = m :: rest)
      (inTime : (m.deadlineAt now c.config.sendTimeout).passed? now = none)
      (some : m.unsent ≠ 0) (notices : List Notice) (session : P.Session)
      (all : m.unsent ≤ count) :
      Serves c now ticket channel
        (.call (.write m.rest.toList (.ok count)) :: Event.remarks notices ++
          [.log (.sent m.unsent 0), .callback (.sent m.ticket .ok)])
        { c with phase := .opened { channel with session }, outbox := ⟨rest⟩ }
  | breaks {m : Message} {rest : List Message} {e : IoError}
      (head : c.outbox.messages = m :: rest)
      (inTime : (m.deadlineAt now c.config.sendTimeout).passed? now = none)
      (some : m.unsent ≠ 0) (notices : List Notice) (hard : e.kind.isNotReady = false) :
      Serves c now ticket channel
        (.call (.write m.rest.toList (.error e)) :: Event.remarks notices ++ Channel.releases ++
          [.log (.writeFailed c.host (.io ("write failed: " ++ e.text))),
            .callback (.sent m.ticket .error),
            .callback (.failed ticket (.io ("write failed: " ++ e.text)))])
        { c with phase := .failed, outbox := ⟨rest⟩ }

/-- A poll of an open connection: one read, and unless it failed one step for the outbox. -/
inductive Transfers (c : Connection P) (now : Instant) (ticket : Ticket) (channel : Channel P) :
    List Event → Connection P → Prop
  | receives {count : Nat} {es : List Event} {left : Connection P} (stored : List UInt8)
      (notices : List Notice) (session : P.Session) (some : count ≠ 0)
      (served : Serves { c with buffer := c.buffer.store stored } now ticket
        { channel with session } es left) :
      Transfers c now ticket channel
        (.call (.read c.buffer.room (stored.take c.buffer.room) (.ok count)) ::
          Event.remarks notices ++
          [.log (.received (min count c.buffer.room)),
            .callback (.received ticket
              ((c.buffer.store stored).take (min count c.buffer.room)))] ++ es)
        left
  | listens {answer : Except IoError Nat} {es : List Event} {left : Connection P}
      (stored : List UInt8) (notices : List Notice) (session : P.Session)
      (stalled : Channel.Stalls answer)
      (served : Serves { c with buffer := c.buffer.store stored } now ticket
        { channel with session } es left) :
      Transfers c now ticket channel
        (.call (.read c.buffer.room (stored.take c.buffer.room) answer) ::
          Event.remarks notices ++ es)
        left
  | breaks {e : IoError} (stored : List UInt8) (notices : List Notice)
      (hard : e.kind.isNotReady = false) :
      Transfers c now ticket channel
        (.call (.read c.buffer.room (stored.take c.buffer.room) (.error e)) ::
          Event.remarks notices ++ Channel.releases ++
          [.log (.readFailed c.host (.io ("read failed: " ++ e.text))),
            .callback (.failed ticket (.io ("read failed: " ++ e.text)))])
        { c with phase := .failed, buffer := c.buffer.store stored }

/-- The open completion that a close or a drop still owes. -/
def cancellation (c : Connection P) : List Event :=
  match c.listener with
  | some ⟨ticket, true⟩ => [.callback (.opened ticket .cancelled)]
  | _ => []

def farewell (c : Connection P) : List Event :=
  c.cancellation ++ c.phase.partings ++
    c.outbox.messages.map (fun m => .callback (m.completion .cancelled)) ++
    [.log (.closed c.host c.outbox.size)]

/-- One call on a connection with the clock reading `now`, or without a request its drop. -/
inductive Step (c : Connection P) (now : Instant) :
    Option Request → Except Error Unit → List Event → Connection P → Prop
  | startRejected {ticket : Ticket} (live : c.status ≠ .notOpen) :
      Step c now (some (.start ticket)) (.error (.invalidState c.status "open"))
        [.log (.openRejected c.host c.status), .callback (.opened ticket .error)] c
  | lookupRefused {ticket : Ticket} (idle : c.status = .notOpen) (e : Error) :
      Step c now (some (.start ticket)) (.error e.asDns)
        [.call (.beginLookup c.host (.error e)), .log (.lookupRefused c.host e.asDns),
          .callback (.opened ticket .error)] c
  | starts {ticket : Ticket} (idle : c.status = .notOpen) (lookup : P.Lookup) :
      Step c now (some (.start ticket)) (.ok ())
        [.call (.beginLookup c.host (.ok ())), .log (.lookupStarted c.host),
          .log (.opening c.host c.port)]
        { c with
          phase := .resolving ⟨c.host, lookup⟩
          listener := some ⟨ticket, true⟩
          openDeadline := some ⟨now, c.config.operationTimeout⟩ }
  | closeIgnored {ticket : Ticket} (idle : c.status = .notOpen) :
      Step c now (some (.close ticket)) (.error (.invalidState .notOpen "close"))
        [.log (.closeIgnored c.host), .callback (.closed ticket)] c
  | closes {ticket : Ticket} (live : c.status ≠ .notOpen) :
      Step c now (some (.close ticket)) (.ok ()) (c.farewell ++ [.callback (.closed ticket)])
        c.cleared
  | sendRejected {bytes : List UInt8} {ticket : Ticket} (unopened : c.status ≠ .opened) :
      Step c now (some (.send bytes ticket)) (.error (.invalidState c.status "send")) [] c
  | sendUnaffordable {bytes : List UInt8} {ticket : Ticket} (opened : c.status = .opened)
      (size : Nat) : Step c now (some (.send bytes ticket)) (.error (.allocation size)) [] c
  | queues {bytes : List UInt8} {ticket : Ticket} (opened : c.status = .opened) :
      Step c now (some (.send bytes ticket)) (.ok ())
        [.log (.sendQueued bytes.length (c.outbox.size + 1))]
        { c with outbox := ⟨c.outbox.messages ++ [.fresh bytes ticket]⟩ }
  | rests (still : c.status = .notOpen ∨ c.status = .failed) :
      Step c now (some .poll) (.ok ()) [] c
  | opens {ticket : Ticket} {es : List Event} {left : Connection P}
      (owner : c.listener = some ⟨ticket, true⟩) (opened : c.Opens now ticket es left) :
      Step c now (some .poll) (.ok ()) es left
  | transfers {ticket : Ticket} {channel : Channel P} {es : List Event} {left : Connection P}
      (owner : c.listener = some ⟨ticket, false⟩) (phase : c.phase = .opened channel)
      (transferred : c.Transfers now ticket channel es left) :
      Step c now (some .poll) (.ok ()) es left
  | ignores {name : String} {value : Options.Value} :
      Step c now (some (.setOption name value)) (.ok ()) [.log (.optionIgnored name value)] c
  | vanishes (idle : c.status = .notOpen) : Step c now none (.ok ()) [] c
  | abandons (live : c.status ≠ .notOpen) :
      Step c now none (.ok ()) (.log (.abandoned c.host c.status) :: c.farewell) c.cleared

end Connection
end PolledTls
