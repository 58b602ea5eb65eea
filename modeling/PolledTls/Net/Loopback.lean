import PolledTls.Connection
import PolledTls.Net.Session

/-!
The real network as far as it can be told in advance: hosts that are addresses, and a loopback
interface that leads nowhere, to a port without a listener, or to a known peer. Sessions have the
default settings, which build in any case.
-/
namespace PolledTls.Net

/-- Where a connect leads: nowhere, to a port without a listener, or to a peer. -/
inductive Route where
  | missing
  | noListener
  | peer (peer : Peer)

structure Loopback where
  route : Route
  /-- Whether sockets send small segments at once. -/
  nodelay : Bool := true

namespace Loopback

/-! Lookups. -/

/-- What the thread of a lookup has left for it. A thread can end without an answer. -/
inductive Mail where
  | nothing
  | answer (found : Option IPv4)
  | hungUp
deriving DecidableEq

/-- A lookup: what its thread has left, and the outcome once that has been taken in. -/
structure Lookup where
  mail : Mail
  outcome : Option (Option IPv4)
deriving DecidableEq

namespace Lookup

/-- Only hosts that are addresses are found, and those without waiting. -/
def start (hostname : String) : Lookup :=
  ⟨.answer (hostAddress? hostname), none⟩

def isComplete (lookup : Lookup) : Bool × Lookup :=
  match lookup.outcome, lookup.mail with
  | some _, _ => (true, lookup)
  | none, .answer found => (true, { lookup with outcome := some found })
  | none, .hungUp => (true, { lookup with outcome := some none })
  | none, .nothing => (false, lookup)

def result (lookup : Lookup) : Option IPv4 :=
  lookup.outcome.join

/-- A lookup that is complete stays as it is. -/
theorem isComplete_again {lookup : Lookup} (complete : lookup.isComplete.1 = true) :
    lookup.isComplete.2.isComplete = lookup.isComplete := by
  unfold isComplete at *
  split at complete <;> simp_all

/-- A lookup asked until it is complete: its result, and whether it still is. -/
def trial (hostname : String) : Option IPv4 × Bool :=
  let asked := (start hostname).isComplete.2
  (asked.result, asked.isComplete.1)

end Lookup

/-! Sockets. -/

/-- A socket: the peer at its far end, or none if the connect was refused, and whether it is known
to be connected. -/
structure Socket where
  endpoint : Endpoint
  peer : Option Peer
  nodelay : Bool
  connected : Bool

/-- A socket to `endpoint`. Without a route there is none. -/
def beginConnect (endpoint : Endpoint) (net : Loopback) : Except Error Socket × Loopback :=
  let socket (peer : Option Peer) : Socket := ⟨endpoint, peer, net.nodelay, false⟩
  match net.route with
  | .missing => (.error (.connect
      (endpoint.text ++ ": Network is unreachable (os error 101)")), net)
  | .noListener => (.ok (socket none), net)
  | .peer peer => (.ok (socket (some peer)), net)

def pollConnect (socket : Socket) (net : Loopback) : Except IoError Bool × Socket × Loopback :=
  if socket.connected then (.ok true, socket, net)
  else match socket.peer with
  | none => (.error ⟨.connectionRefused, "Connection refused (os error 111)"⟩, socket, net)
  | some _ => (.ok true, { socket with connected := true }, net)

/-- A socket that has answered that it is connected goes on to do so. -/
theorem pollConnect_again {socket : Socket} {net : Loopback}
    (connected : (pollConnect socket net).1 = .ok true) :
    (pollConnect (pollConnect socket net).2.1 net).1 = .ok true := by
  unfold pollConnect at *
  grind

/-- What is seen of a connect: whether the first poll finds it done, what one more poll answers, and
how the socket is set and where it leads. -/
structure Connect where
  connected : Bool
  again : Except IoError Bool
  nodelay : Bool
  reachesTarget : Bool

def connect (endpoint : Endpoint) (net : Loopback) : Except Error Connect :=
  (beginConnect endpoint net).1.map fun socket =>
    let (first, socket, _) := pollConnect socket net
    { connected := first.toOption = some true
      again := (pollConnect socket net).1
      nodelay := socket.nodelay
      reachesTarget := socket.peer.isSome ∧ socket.endpoint = endpoint }

/-! The platform. -/

def bindSocket (session : Session) (socket : Socket) (net : Loopback) :
    Except Error Unit × Session × Loopback :=
  let (answer, session) := session.bind (socket.peer.getD .silent)
  (answer, session, net)

def write (offered : Bytes) (session : Session) (net : Loopback) :
    Writing × Session × Loopback :=
  let (answer, session) := session.write offered.size
  ({ answer }, session, net)

def platform : Platform where
  State := Loopback
  Lookup := Lookup
  Socket := Socket
  Context := Unit
  Session := Session
  beginLookup hostname net := (.ok (.start hostname), net)
  isComplete lookup net :=
    let (complete, lookup) := lookup.isComplete
    (complete, lookup, net)
  result lookup net := (lookup.result, net)
  beginConnect := beginConnect
  pollConnect := pollConnect
  newContext net := (.ok (), net)
  newSession _ serverName net := (Session.create serverName, net)
  bindSocket := bindSocket
  handshake session net := (session.handshake, session, net)
  read _ session net := ({ stored := [], answer := session.read }, session, net)
  write := write
  shutdown session net := (session, net)
  releaseLookup _ net := net
  releaseSocket _ net := net
  releaseContext _ net := net
  releaseSession _ net := net
  grants size _ := attainable size

/-- A first attempt to open, as far as `target`. -/
structure Attempt where
  opened : Except Error Unit
  /-- The status after the open and each different one that followed. -/
  trace : Trail Status
  connection : Connection platform
  net : Loopback
  events : Trail Event

/-- The time between two polls, and how many there are before one gives up. -/
def interval : Duration := Duration.millisecond
def patience : Nat := 10000

/-- Polls until the status is `target`, with `left` polls to go. -/
def reach (target : Status) : Nat → Instant → Attempt → Option Attempt
  | left, now, attempt =>
    if attempt.connection.status = target then some attempt
    else match left with
      | 0 => none
      | left + 1 =>
        let now := now + interval
        let run := attempt.connection.poll now attempt.net
        let status := run.value.status
        let trace :=
          if status = attempt.connection.status then attempt.trace
          else attempt.trace.push status
        reach target left now { attempt with
          trace, connection := run.value, net := run.state, events := attempt.events ++ run.events }

def attempt (config : Config) (net : Loopback) (target : Status) :
    Except Error (Option Attempt) :=
  let created := Connection.create (P := platform) config net
  created.value.map fun connection =>
    let run := connection.start 0 0 created.state
    reach target patience 0
      { opened := run.value.1, trace := .ofList [run.value.2.status], connection := run.value.2,
        net := run.state, events := .ofList (created.events ++ run.events) }

def dial (endpoint : Endpoint) (net : Loopback) : Except Error Unit :=
  let started := Dial.start (P := platform) endpoint net
  match started.value with
  | .error e => .error e
  | .ok dial =>
    match (dial.poll started.state).value.1 with
    | .failed e => .error e
    | _ => .ok ()

end Loopback
end PolledTls.Net
