import PolledTls.Stages
import PolledTls.Config
import PolledTls.Outbox

/-!
The state of a client connection. Each phase owns exactly the resources it needs: the query while
resolving, the dial while connecting, the channel from the handshake on.
-/
namespace PolledTls

inductive Phase (P : Platform) where
  | notOpen
  | resolving (query : Query P)
  | connecting (dial : Dial P)
  | handshaking (channel : Channel P)
  | opened (channel : Channel P)
  | failed

namespace Phase

variable {P : Platform}

def status : Phase P → Status
  | .notOpen => .notOpen
  | .resolving _ => .openingDns
  | .connecting _ => .openingSocket
  | .handshaking _ => .openingTls
  | .opened _ => .opened
  | .failed => .failed

def release : Phase P → Act P Unit
  | .notOpen | .failed => pure ()
  | .resolving query => query.release
  | .connecting dial => dial.release
  | .handshaking channel | .opened channel => channel.release

/-- Gives back what the phase owns, telling the peer first where there is a session. -/
def shutDown : Phase P → Act P Unit
  | .handshaking channel | .opened channel => channel.shutDown
  | phase => phase.release

end Phase

/-- The callbacks of one attempt: the ticket of the open that began it, and whether its completion
has still to fire. -/
structure Listener where
  ticket : Ticket
  awaitingOpen : Bool
deriving DecidableEq

structure Connection (P : Platform) where
  config : Config
  phase : Phase P
  listener : Option Listener
  /-- Armed by a successful open for resolving, connecting and handshaking together. -/
  openDeadline : Option Deadline
  outbox : Outbox
  buffer : Buffer

namespace Connection

variable {P : Platform}

def status (c : Connection P) : Status :=
  c.phase.status

def host (c : Connection P) : String :=
  c.config.host

def port (c : Connection P) : UInt16 :=
  c.config.port

def pendingSends (c : Connection P) : Nat :=
  c.outbox.size

/-- A connection that is not open, with nothing queued and a zeroed buffer. -/
def idle (config : Config) : Connection P where
  config
  phase := .notOpen
  listener := none
  openDeadline := none
  outbox := .empty
  buffer := .zeroed config.readChunkSize

/-- Creates a connection, unless its configuration is unusable or its buffer cannot be had. -/
def create (config : Config) : Act P (Except Error (Connection P)) := do
  match config.check with
  | .error e => return .error e
  | .ok () =>
    let grants ← Act.granting
    if grants config.readChunkSize then
      Act.log (.created config.host config.port)
      return .ok (idle config)
    else return .error (.allocation config.readChunkSize)

/-- Fires the open completion of the attempt, if it has not fired yet. -/
def settleOpen (c : Connection P) (result : Completion) : Act P (Connection P) :=
  match c.listener with
  | some ⟨ticket, true⟩ => do
    Act.fire (.opened ticket result)
    return { c with listener := some ⟨ticket, false⟩ }
  | _ => return c

def reportFailure (c : Connection P) (e : Error) : Act P Unit :=
  match c.listener with
  | some listener => Act.fire (.failed listener.ticket e)
  | none => pure ()

def deliver (c : Connection P) (bytes : List UInt8) : Act P Unit :=
  match c.listener with
  | some listener => Act.fire (.received listener.ticket bytes)
  | none => pure ()

/-- The text for people who look into a connection; it leaves out all but a few fields. -/
def spelled (c : Connection P) : String :=
  Text.record "Connection"
    [("host", Text.quoted c.host), ("port", toString c.port.toNat), ("state", c.status.text),
      ("pending_sends", toString c.pendingSends)] true

end Connection
end PolledTls
