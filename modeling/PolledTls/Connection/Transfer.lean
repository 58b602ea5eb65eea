import PolledTls.Connection.Basic

/-!
An open connection: one read, then one step for the head of the outbox. A send that runs out of
time fails alone; a hard failure of a read or a write ends the connection.
-/
namespace PolledTls.Connection

variable {P : Platform}

/-- Queues `bytes`. A refusal changes nothing and the completion never fires. -/
def send (c : Connection P) (bytes : List UInt8) (ticket : Ticket) :
    Act P (Except Error Unit × Connection P) := do
  match c.phase with
  | .opened _ =>
    let grants ← Act.granting
    match c.outbox.push grants bytes ticket with
    | .error e => return (.error e, c)
    | .ok outbox =>
      Act.log (.sendQueued bytes.length outbox.size)
      return (.ok (), { c with outbox })
  | _ => return (.error (.invalidState c.status "send"), c)

def completeHead (c : Connection P) (result : Completion) : Act P (Connection P) := do
  let (callbacks, outbox) := c.outbox.pop result
  Act.fireAll callbacks
  return { c with outbox }

def writeHead (c : Connection P) (channel : Channel P) (head : Message) :
    Act P (Connection P) := do
  Act.check (head.unsent ≤ head.size) (.tail head.unsent head.size)
  match ← channel.write head.rest with
  | (.done count, channel) =>
    Act.check (count ≤ head.unsent) (.overrun count head.unsent)
    let head := head.accept count
    Act.log (.sent count head.unsent)
    let c := { c with phase := .opened channel, outbox := c.outbox.mapHead fun _ => head }
    if head.unsent = 0 then c.completeHead .ok else return c
  | (.wouldBlock, channel) => return { c with phase := .opened channel }
  | (.failed e, channel) =>
    channel.release
    Act.log (.writeFailed c.host e)
    let c ← completeHead { c with phase := .failed } .error
    c.reportFailure e
    return c

/-- One step for the head of the outbox: it fails if its deadline has passed, leaves at once if
nothing of it is unsent, and is written otherwise. -/
def serviceHead (c : Connection P) (now : Instant) (channel : Channel P) :
    Act P (Connection P) := do
  let opened := { c with phase := .opened channel }
  match c.outbox.head? with
  | none => return opened
  | some head =>
    let deadline := head.deadlineAt now c.config.sendTimeout
    let head := head.arm now c.config.sendTimeout
    let c := { opened with outbox := c.outbox.mapHead fun _ => head }
    match deadline.passed? now with
    | some elapsed =>
      let e : Error := .sendTimeout elapsed head.unsent
      Act.log (.sendTimedOut c.host e)
      let c ← c.completeHead .error
      c.reportFailure e
      return c
    | none =>
      if head.unsent = 0 then c.completeHead .ok else c.writeHead channel head

/-- One read, and unless it failed one step for the outbox. -/
def transfer (c : Connection P) (now : Instant) (channel : Channel P) :
    Act P (Connection P) := do
  match ← channel.read c.buffer with
  | (.done count, buffer, channel) =>
    Act.log (.received count)
    Act.check (count ≤ buffer.room) (.chunk count buffer.room)
    let c := { c with buffer }
    c.deliver (buffer.take count)
    c.serviceHead now channel
  | (.wouldBlock, buffer, channel) => serviceHead { c with buffer } now channel
  | (.failed e, buffer, channel) =>
    channel.release
    Act.log (.readFailed c.host e)
    let c := { c with phase := .failed, buffer }
    c.reportFailure e
    return c

end PolledTls.Connection
