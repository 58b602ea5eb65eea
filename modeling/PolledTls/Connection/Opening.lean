import PolledTls.Connection.Basic

/-!
From a request to open to the end of the handshake. One deadline covers all three phases, and it is
looked at only when the step polled was not ready: an answer, good or bad, is never late.
-/
namespace PolledTls.Connection

variable {P : Platform}

/-- Asks for the connection to be opened. When this is refused the completion fires at once and
nothing else changes. -/
def start (c : Connection P) (now : Instant) (ticket : Ticket) :
    Act P (Except Error Unit × Connection P) := do
  match c.phase with
  | .notOpen =>
    match ← Query.start c.host with
    | .error e =>
      Act.log (.lookupRefused c.host e)
      Act.fire (.opened ticket .error)
      return (.error e, c)
    | .ok query =>
      Act.log (.opening c.host c.port)
      return (.ok (), { c with
        phase := .resolving query
        listener := some ⟨ticket, true⟩
        openDeadline := some ⟨now, c.config.operationTimeout⟩ })
  | _ =>
    Act.log (.openRejected c.host c.status)
    Act.fire (.opened ticket .error)
    return (.error (.invalidState c.status "open"), c)

/-- Ends the attempt in failure. What the phase owned has been given back before. -/
def failOpen (c : Connection P) (status : Status) (e : Error) : Act P (Connection P) := do
  Act.log (.openFailed c.host status e)
  settleOpen { c with phase := .failed, openDeadline := none } .error

/-- Ends the attempt if its deadline has passed at `now`. -/
def checkDeadline (c : Connection P) (now : Instant) : Act P (Connection P) :=
  match c.openDeadline.bind (·.passed? now) with
  | none => return c
  | some elapsed => do
    c.phase.release
    c.failOpen c.status (.openTimeout c.status elapsed)

def pollQuery (c : Connection P) (now : Instant) (query : Query P) : Act P (Connection P) := do
  match ← query.poll with
  | (.pending, query) => checkDeadline { c with phase := .resolving query } now
  | (.failed, query) =>
    query.release
    c.failOpen .openingDns (.dns ("could not resolve " ++ c.host))
  | (.resolved ip, query) =>
    query.release
    let endpoint : Endpoint := ⟨ip, c.port⟩
    match ← Dial.start endpoint with
    | .ok dial =>
      Act.log (.connecting c.host endpoint)
      return { c with phase := .connecting dial }
    | .error e => c.failOpen .openingDns e

def pollDial (c : Connection P) (now : Instant) (dial : Dial P) : Act P (Connection P) := do
  match ← dial.poll with
  | (.pending, dial) => checkDeadline { c with phase := .connecting dial } now
  | (.failed e, dial) =>
    dial.release
    c.failOpen .openingSocket e
  | (.connected socket, dial) =>
    match ← Channel.start socket c.host with
    | .ok channel =>
      Act.log (.handshaking c.host dial.endpoint)
      return { c with phase := .handshaking channel }
    | .error e => c.failOpen .openingSocket e

def pollHandshake (c : Connection P) (now : Instant) (channel : Channel P) :
    Act P (Connection P) := do
  match ← channel.handshake with
  | (.wouldBlock, channel) => checkDeadline { c with phase := .handshaking channel } now
  | (.failed e, channel) =>
    channel.release
    c.failOpen .openingTls e
  | (.done (), channel) =>
    Act.log (.opened c.host c.port)
    settleOpen { c with phase := .opened channel, openDeadline := none } .ok

end PolledTls.Connection
