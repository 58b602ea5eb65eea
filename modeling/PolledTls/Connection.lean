import PolledTls.Connection.Opening
import PolledTls.Connection.Transfer

/-!
A client connection from a host name to an encrypted byte stream, driven by polling. Each poll takes
at most one step; nothing happens between calls.
-/
namespace PolledTls

namespace Connection

variable {P : Platform}

/-!
Closing a connection and dropping it. Both tear the attempt down in one order: a pending open is
cancelled, the resources go back, and the queued sends are cancelled, oldest first.
-/

/-- Everything a close does but its own callback. -/
def windDown (c : Connection P) : Act P (Connection P) := do
  let c ← if c.status.isOpening then c.settleOpen .cancelled else pure c
  c.phase.shutDown
  let (callbacks, outbox) := c.outbox.drain .cancelled
  Act.fireAll callbacks
  Act.log (.closed c.host callbacks.length)
  return { c with phase := .notOpen, listener := none, openDeadline := none, outbox }

/-- Closes the connection. The callback fires even if there was nothing to close. -/
def close (c : Connection P) (ticket : Ticket) : Act P (Except Error Unit × Connection P) := do
  match c.phase with
  | .notOpen =>
    Act.log (.closeIgnored c.host)
    Act.fire (.closed ticket)
    return (.error (.invalidState .notOpen "close"), c)
  | _ =>
    let c ← c.windDown
    Act.fire (.closed ticket)
    return (.ok (), c)

def discard (c : Connection P) : Act P (Connection P) := do
  match c.phase with
  | .notOpen => return c
  | _ =>
    Act.log (.abandoned c.host c.status)
    c.windDown

/-! All requests. -/

/-- At most one unit of progress, with the clock reading `now`. -/
def poll (c : Connection P) (now : Instant) : Act P (Connection P) :=
  match c.phase with
  | .notOpen | .failed => pure c
  | .resolving query => c.pollQuery now query
  | .connecting dial => c.pollDial now dial
  | .handshaking channel => c.pollHandshake now channel
  | .opened channel => c.transfer now channel

/-- There are no options: every name and value is taken and ignored. -/
def setOption (c : Connection P) (name : String) (value : Options.Value) :
    Act P (Except Error Unit × Connection P) := do
  Act.log (.optionIgnored name value)
  return (.ok (), c)

def options (_ : Connection P) : Options :=
  .empty

inductive Request where
  | start (ticket : Ticket)
  | close (ticket : Ticket)
  | send (bytes : List UInt8) (ticket : Ticket)
  | poll
  | setOption (name : String) (value : Options.Value)

def carryOut (c : Connection P) (now : Instant) :
    Request → Act P (Except Error Unit × Connection P)
  | .start ticket => c.start now ticket
  | .close ticket => c.close ticket
  | .send bytes ticket => c.send bytes ticket
  | .poll => do return (.ok (), ← c.poll now)
  | .setOption name value => c.setOption name value

end Connection

/-!
What every byte transport offers to the layer above it, whichever one it is. All operations answer
at once; `start` and `send` complete later, from a poll or a close.
-/

class Polled (P : Platform) (T : Type) where
  start : T → Instant → Ticket → Act P (Except Error Unit × T)
  close : T → Ticket → Act P (Except Error Unit × T)
  send : T → List UInt8 → Ticket → Act P (Except Error Unit × T)
  poll : T → Instant → Act P T
  setOption : T → String → Options.Value → Act P (Except Error Unit × T)
  options : T → Options

instance {P : Platform} : Polled P (Connection P) where
  start := Connection.start
  close := Connection.close
  send := Connection.send
  poll := Connection.poll
  setOption := Connection.setOption
  options := Connection.options

/-- Carries out a request on any transport. -/
def Polled.carryOut {P : Platform} {T : Type} [Polled P T] (transport : T) (now : Instant) :
    Connection.Request → Act P (Except Error Unit × T)
  | .start ticket => start transport now ticket
  | .close ticket => close transport ticket
  | .send bytes ticket => send transport bytes ticket
  | .poll => do return (.ok (), ← poll transport now)
  | .setOption name value => setOption transport name value

end PolledTls
