import PolledTls.Platform

/-!
The stages of an attempt to open, each the owner of its resources: a name being resolved, a connect
under way, and a TLS session on the socket connected.
-/
namespace PolledTls

/-!
A name being resolved. The query owns one lookup from its start until it is released.
-/

structure Query (P : Platform) where
  hostname : String
  lookup : P.Lookup

namespace Query

variable {P : Platform}

inductive Progress where
  | pending
  | failed
  | resolved (ip : IPv4)

/-- Starts resolving; a refusal is reported as a DNS error whatever it was. -/
def start (hostname : String) : Act P (Except Error (Query P)) := do
  match ← Act.beginLookup hostname with
  | .error e => return .error e.asDns
  | .ok lookup =>
    Act.log (.lookupStarted hostname)
    return .ok ⟨hostname, lookup⟩

/-- Asks once whether the lookup is complete, and only then for its result. A result without an
address, or with the unspecified one, is a failure. -/
def poll (query : Query P) : Act P (Progress × Query P) := do
  let (complete, lookup) ← Act.isComplete query.lookup
  let query := { query with lookup }
  if complete then
    match ← Act.result lookup with
    | some ip => return (if ip = .unspecified then .failed else .resolved ip, query)
    | none => return (.failed, query)
  else return (.pending, query)

def release (query : Query P) : Act P Unit :=
  Act.releaseLookup query.lookup

end Query

/-!
A connect under way. The dial owns its socket until it hands it out or the connect fails; after
that it is spent and every further poll fails.
-/

structure Dial (P : Platform) where
  endpoint : Endpoint
  socket : Option P.Socket

namespace Dial

variable {P : Platform}

inductive Progress (P : Platform) where
  | pending
  | connected (socket : P.Socket)
  | failed (error : Error)

/-- Starts connecting; a refusal is reported as a connect error whatever it was. -/
def start (endpoint : Endpoint) : Act P (Except Error (Dial P)) := do
  match ← Act.beginConnect endpoint with
  | .error e => return .error e.asConnect
  | .ok socket =>
    Act.log (.dialStarted endpoint)
    return .ok ⟨endpoint, some socket⟩

/-- Polls the socket once. A failed connect closes it before the failure is reported. -/
def poll (dial : Dial P) : Act P (Progress P × Dial P) := do
  match dial.socket with
  | none => return (.failed (.connect "socket already taken"), dial)
  | some socket =>
    match ← Act.pollConnect socket with
    | (.ok false, socket) => return (.pending, { dial with socket := some socket })
    | (.ok true, socket) => return (.connected socket, { dial with socket := none })
    | (.error e, socket) =>
      Act.releaseSocket socket
      return (.failed (.connect (dial.endpoint.text ++ ": " ++ e.text)),
        { dial with socket := none })

def release (dial : Dial P) : Act P Unit :=
  match dial.socket with
  | none => pure ()
  | some socket => Act.releaseSocket socket

end Dial

/-!
A TLS session bound to a connected socket, with the context it was made from. Raw answers become
outcomes here, so that whoever drives a channel never looks at the kind of an I/O error.
-/

inductive Outcome (α : Type) where
  | done (value : α)
  | wouldBlock
  | failed (error : Error)

structure Channel (P : Platform) where
  session : P.Session
  socket : P.Socket
  context : P.Context
  serverName : String

namespace Channel

variable {P : Platform}

/-- Builds a context and a session and binds the socket to it. When a step fails everything built
before it is given back, the socket included, and the error names the step. -/
def start (socket : P.Socket) (serverName : String) : Act P (Except Error (Channel P)) := do
  match ← Act.newContext with
  | .error e =>
    Act.releaseSocket socket
    return .error (e.asTls "create context")
  | .ok context =>
    match ← Act.newSession context serverName with
    | .error e =>
      Act.releaseContext context
      Act.releaseSocket socket
      return .error (e.asTls "create session")
    | .ok session =>
      match ← Act.bindSocket session socket with
      | (.error e, session) =>
        Act.releaseSocket socket
        Act.releaseSession session
        Act.releaseContext context
        return .error (e.asTls "bind socket")
      | (.ok (), session) => return .ok ⟨session, socket, context, serverName⟩

def handshake (channel : Channel P) : Act P (Outcome Unit × Channel P) := do
  let (answer, session) ← Act.handshake channel.session
  let channel := { channel with session }
  match answer with
  | .ok () => return (.done (), channel)
  | .error e =>
    if e.kind.isNotReady then return (.wouldBlock, channel)
    else return (.failed
      (.tls ("handshake with " ++ channel.serverName ++ " failed: " ++ e.text)), channel)

/-- One read into the buffer. Reading nothing is no progress, and a count beyond the buffer is cut
to its room. -/
def read (channel : Channel P) (buffer : Buffer) :
    Act P (Outcome Nat × Buffer × Channel P) := do
  let (answer, buffer, session) ← Act.read buffer channel.session
  let channel := { channel with session }
  match answer with
  | .ok count =>
    if count = 0 then return (.wouldBlock, buffer, channel)
    else return (.done (min count buffer.room), buffer, channel)
  | .error e =>
    if e.kind.isNotReady then return (.wouldBlock, buffer, channel)
    else return (.failed (.io ("read failed: " ++ e.text)), buffer, channel)

/-- One write. Accepting nothing of something is no progress, and a count beyond what was offered
is cut to it. -/
def write (channel : Channel P) (offered : Bytes) :
    Act P (Outcome Nat × Channel P) := do
  let (answer, session) ← Act.write offered channel.session
  let channel := { channel with session }
  match answer with
  | .ok count =>
    if count = 0 ∧ !offered.isEmpty then return (.wouldBlock, channel)
    else return (.done (min count offered.size), channel)
  | .error e =>
    if e.kind.isNotReady then return (.wouldBlock, channel)
    else return (.failed (.io ("write failed: " ++ e.text)), channel)

/-- The session goes before the socket it owns and before its context. -/
def release (channel : Channel P) : Act P Unit := do
  Act.releaseSession channel.session
  Act.releaseSocket channel.socket
  Act.releaseContext channel.context

/-- Tells the peer that nothing more will come, then gives everything back. -/
def shutDown (channel : Channel P) : Act P Unit := do
  let session ← Act.shutdown channel.session
  Act.log (.shutDown channel.serverName)
  release { channel with session }

end Channel

end PolledTls
