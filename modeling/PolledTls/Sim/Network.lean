import PolledTls.Platform
import PolledTls.Sim.Draws

/-!
A network that happens in memory: name lookup, sockets, TLS and the peer behind them. Its settings
say how long each step stays pending, which one fails, how much a write accepts and how inbound
bytes are cut into reads. The same seed, settings and calls give the same answers.
-/
namespace PolledTls.Sim

/-!
Counts of the resources a simulated network made and took back.
-/

structure Tally where
  lookupsStarted : Nat := 0
  lookupsReleased : Nat := 0
  socketsOpened : Nat := 0
  socketsClosed : Nat := 0
  contextsCreated : Nat := 0
  contextsFreed : Nat := 0
  sessionsCreated : Nat := 0
  sessionsFreed : Nat := 0
  shutdowns : Nat := 0
deriving DecidableEq

namespace Tally

/-- As many released as made, of every kind. -/
def allReleased (t : Tally) : Bool :=
  t.lookupsStarted == t.lookupsReleased && t.socketsOpened == t.socketsClosed
    && t.contextsCreated == t.contextsFreed && t.sessionsCreated == t.sessionsFreed

def spelled (t : Tally) : String :=
  let counts := [("lookups_started", t.lookupsStarted), ("lookups_released", t.lookupsReleased),
    ("sockets_opened", t.socketsOpened), ("sockets_closed", t.socketsClosed),
    ("contexts_created", t.contextsCreated), ("contexts_freed", t.contextsFreed),
    ("sessions_created", t.sessionsCreated), ("sessions_freed", t.sessionsFreed),
    ("shutdowns", t.shutdowns)]
  Text.record "ResourceStats" (counts.map fun (name, n) => (name, toString n)) false

end Tally

/-! The settings. -/

inductive WriteRule where
  | unlimited
  | chunked (limit : Nat)
  /-- A drawn number of bytes up to a limit, none included. -/
  | random (most : Nat)
  | blocked
deriving DecidableEq

/-- How a chunk that came in is handed out: as far as there is room, or a drawn part of that. -/
inductive ReadRule where
  | asDelivered
  | random
deriving DecidableEq

inductive SetupStep where
  | context
  | session
  | bind
deriving DecidableEq

structure Network where
  draws : Draws
  /-- Which sizes of memory can be had; no command changes that. -/
  memory : Nat → Bool
  address : Option IPv4 := some ⟨192, 0, 2, 10⟩
  lookupDelay : Nat := 0
  refusesLookups : Bool := false
  connectDelay : Nat := 0
  connectFault : Option IoKind := none
  refusesConnects : Bool := false
  failingStep : Option SetupStep := none
  handshakeDelay : Nat := 0
  handshakeFails : Bool := false
  writeRule : WriteRule := .unlimited
  readRule : ReadRule := .asDelivered
  /-- Chunks from the peer that have not been read, oldest first. -/
  inbound : List Bytes := []
  /-- What the next read, or the next write, fails with. -/
  readFault : Option IoKind := none
  writeFault : Option IoKind := none
  written : Trail UInt8 := ∅
  /-- How much each write offered and how much of it was accepted. -/
  writeCalls : Trail (Nat × Nat) := ∅
  endpoints : Trail Endpoint := ∅
  serverNames : Trail String := ∅
  tally : Tally := {}

namespace Network

/-- A network on which every step succeeds at once. -/
def fresh (draws : Draws) (memory : Nat → Bool) : Network :=
  { draws, memory }

def ofSeed (seed : UInt64) : Network :=
  fresh (.ofSeed seed) attainable

/-- A change of the settings, or something the peer does. -/
inductive Command where
  | resolveTo (ip : IPv4)
  | failLookups
  | delayLookups (polls : Nat)
  | refuseLookups
  | delayConnects (polls : Nat)
  | failConnects (kind : IoKind)
  | refuseConnects
  | failStep (step : SetupStep)
  | delayHandshakes (polls : Nat)
  | failHandshakes
  | write (mode : WriteRule)
  | read (mode : ReadRule)
  | deliver (bytes : List UInt8)
  | failNextRead (kind : IoKind)
  | failNextWrite (kind : IoKind)

def command (net : Network) : Command → Network
  | .resolveTo ip => { net with address := some ip }
  | .failLookups => { net with address := none }
  | .delayLookups polls => { net with lookupDelay := polls }
  | .refuseLookups => { net with refusesLookups := true }
  | .delayConnects polls => { net with connectDelay := polls }
  | .failConnects kind => { net with connectFault := some kind }
  | .refuseConnects => { net with refusesConnects := true }
  | .failStep step => { net with failingStep := some step }
  | .delayHandshakes polls => { net with handshakeDelay := polls }
  | .failHandshakes => { net with handshakeFails := true }
  | .write mode => { net with writeRule := mode }
  | .read mode => { net with readRule := mode }
  | .deliver bytes =>
    if bytes = [] then net else { net with inbound := net.inbound ++ [.ofList bytes] }
  | .failNextRead kind => { net with readFault := some kind }
  | .failNextWrite kind => { net with writeFault := some kind }

def commands (net : Network) (list : List Command) : Network :=
  list.foldl command net

def unread (net : Network) : Nat :=
  net.inbound.foldr (fun chunk rest => chunk.size + rest) 0

def spelled (net : Network) : String :=
  Text.record "SimNetwork"
    [("written", toString net.written.size), ("inbound", toString net.inbound.length),
      ("stats", net.tally.spelled)] false

/-! Handles hold what was set when they were made. -/

/-- A lookup and how many more times it answers "not yet". -/
structure Lookup where
  remaining : Nat

structure Socket where
  remaining : Nat
  fault : Option IoKind

structure Session where
  remaining : Nat
  fails : Bool
  bound : Bool

def beginLookup (hostname : String) (net : Network) : Except Error Lookup × Network :=
  if net.refusesLookups then (.error (.dns ("lookup of " ++ hostname ++ " refused")), net)
  else (.ok ⟨net.lookupDelay⟩,
    { net with tally.lookupsStarted := net.tally.lookupsStarted + 1 })

def isComplete (lookup : Lookup) (net : Network) : Bool × Lookup × Network :=
  (lookup.remaining = 0, ⟨lookup.remaining - 1⟩, net)

def beginConnect (endpoint : Endpoint) (net : Network) : Except Error Socket × Network :=
  if net.refusesConnects then
    (.error (.connect ("socket for " ++ endpoint.text ++ " refused")), net)
  else (.ok ⟨net.connectDelay, net.connectFault⟩,
    { net with
      tally.socketsOpened := net.tally.socketsOpened + 1
      endpoints := net.endpoints.push endpoint })

def pollConnect (socket : Socket) (net : Network) : Except IoError Bool × Socket × Network :=
  if socket.remaining = 0 then
    match socket.fault with
    | some kind => (.error kind.error, socket, net)
    | none => (.ok true, socket, net)
  else (.ok false, { socket with remaining := socket.remaining - 1 }, net)

def newContext (net : Network) : Except Error Unit × Network :=
  if net.failingStep = some .context then (.error (.tls "context creation failed"), net)
  else (.ok (), { net with tally.contextsCreated := net.tally.contextsCreated + 1 })

def newSession (_ : Unit) (serverName : String) (net : Network) :
    Except Error Session × Network :=
  if net.failingStep = some .session then (.error (.tls "session creation failed"), net)
  else (.ok ⟨net.handshakeDelay, net.handshakeFails, false⟩,
    { net with
      tally.sessionsCreated := net.tally.sessionsCreated + 1
      serverNames := net.serverNames.push serverName })

def bindSocket (session : Session) (_ : Socket) (net : Network) :
    Except Error Unit × Session × Network :=
  if net.failingStep = some .bind then (.error (.tls "socket bind failed"), session, net)
  else (.ok (), { session with bound := true }, net)

def handshake (session : Session) (net : Network) : Except IoError Unit × Session × Network :=
  if !session.bound then (.error ⟨.notConnected, "no socket bound"⟩, session, net)
  else if session.remaining = 0 then
    if session.fails then (.error ⟨.other, "handshake_failure alert"⟩, session, net)
    else (.ok (), session, net)
  else (.error IoKind.wouldBlock.error, { session with remaining := session.remaining - 1 }, net)

/-- How much of `most` readable bytes one read takes. A choice is drawn only if there is one. -/
def readCount (net : Network) (most : Nat) : Nat × Draws :=
  if net.readRule = .random ∧ 1 < most then net.draws.between 1 most else (most, net.draws)

def read (room : Nat) (session : Session) (net : Network) : Reading × Session × Network :=
  match net.readFault, net.inbound with
  | some kind, _ =>
    ({ stored := [], notices := [⟨.read, kind⟩], answer := .error kind.error }, session,
      { net with readFault := none })
  | none, [] => ({ stored := [], answer := .error IoKind.wouldBlock.error }, session, net)
  | none, chunk :: rest =>
    let (count, draws) := net.readCount (min chunk.size room)
    let left := if count < chunk.size then chunk.drop count :: rest else rest
    ({ stored := chunk.take count, answer := .ok count }, session,
      { net with draws, inbound := left })

/-- How much of `offered` bytes one write accepts. -/
def writeCount (net : Network) (offered : Nat) : Nat × Draws :=
  match net.writeRule with
  | .unlimited => (offered, net.draws)
  | .chunked limit => (min limit offered, net.draws)
  | .random most => net.draws.between 0 (min most offered)
  | .blocked => (0, net.draws)

def write (offered : Bytes) (session : Session) (net : Network) :
    Writing × Session × Network :=
  match net.writeFault with
  | some kind =>
    ({ notices := [⟨.write, kind⟩], answer := .error kind.error }, session,
      { net with writeFault := none })
  | none =>
    let (accepted, draws) := net.writeCount offered.size
    let net := { net with draws, writeCalls := net.writeCalls.push (offered.size, accepted) }
    if accepted = 0 ∧ !offered.isEmpty then
      ({ answer := .error IoKind.wouldBlock.error }, session, net)
    else
      ({ answer := .ok accepted }, session,
        { net with written := net.written ++ offered.take accepted })

def shutdown (session : Session) (net : Network) : Session × Network :=
  (session, { net with tally.shutdowns := net.tally.shutdowns + 1 })

def releaseLookup (net : Network) : Network :=
  { net with tally.lookupsReleased := net.tally.lookupsReleased + 1 }

def releaseSocket (net : Network) : Network :=
  { net with tally.socketsClosed := net.tally.socketsClosed + 1 }

def releaseContext (net : Network) : Network :=
  { net with tally.contextsFreed := net.tally.contextsFreed + 1 }

def releaseSession (net : Network) : Network :=
  { net with tally.sessionsFreed := net.tally.sessionsFreed + 1 }

def platform : Platform where
  State := Network
  Lookup := Lookup
  Socket := Socket
  Context := Unit
  Session := Session
  beginLookup := beginLookup
  isComplete := isComplete
  result _ net := (net.address, net)
  beginConnect := beginConnect
  pollConnect := pollConnect
  newContext := newContext
  newSession := newSession
  bindSocket := bindSocket
  handshake := handshake
  read := read
  write := write
  shutdown := shutdown
  releaseLookup _ net := releaseLookup net
  releaseSocket _ net := releaseSocket net
  releaseContext _ net := releaseContext net
  releaseSession _ net := releaseSession net
  grants size net := net.memory size

end Network

end PolledTls.Sim
