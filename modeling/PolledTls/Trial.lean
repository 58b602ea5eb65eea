import PolledTls.Stages

/-!
A query, a dial or a channel worked on its own: started, used a number of times and given back, with
what was seen at each use.
-/
namespace PolledTls

variable {P : Platform}

namespace Query

/-- Starts a query, polls it `n` times and releases it. -/
def trial (hostname : String) (n : Nat) : Act P (Except Error (List Progress)) := do
  match ← start hostname with
  | .error e => return .error e
  | .ok query =>
    let (seen, query) ← Act.repeated poll n query
    query.release
    return .ok seen

end Query

namespace Dial

def pollAndClose (dial : Dial P) : Act P (Progress P × Dial P) := do
  match ← dial.poll with
  | (.connected socket, dial) =>
    Act.releaseSocket socket
    return (.connected socket, dial)
  | other => return other

def observedPoll (dial : Dial P) : Act P ((Progress P × List Event) × Dial P) := do
  let ((progress, dial), events) ← Act.observe dial.pollAndClose
  return ((progress, events), dial)

/-- A dial polled `n` times, from its start on. The events recorded are those of its release. -/
def trial (endpoint : Endpoint) (n : Nat) :
    Act P (List Event × Except Error (List (Progress P × List Event))) := do
  match ← Act.observe (start endpoint) with
  | (.error e, events) => return (events, .error e)
  | (.ok dial, events) =>
    let (seen, dial) ← Act.repeated observedPoll n dial
    dial.release
    return (events, .ok seen)

end Dial

namespace Channel

inductive Use where
  | handshake
  | read (room : Nat)
  | write (bytes : List UInt8)
  | serverName
  | shutDown

inductive Answer where
  | handshake (outcome : Outcome Unit)
  | read (outcome : Outcome Nat) (buffer : Buffer)
  | write (outcome : Outcome Nat)
  | serverName (name : String)
  | gone

/-- One use of a channel; shutting it down leaves none. A read gets a zeroed buffer. -/
def use (channel : Channel P) : Use → Act P (Answer × Option (Channel P))
  | .handshake => do
    let (outcome, channel) ← channel.handshake
    return (.handshake outcome, some channel)
  | .read room => do
    let (outcome, buffer, channel) ← channel.read (.zeroed room)
    return (.read outcome buffer, some channel)
  | .write bytes => do
    let (outcome, channel) ← channel.write (.ofList bytes)
    return (.write outcome, some channel)
  | .serverName => return (.serverName channel.serverName, some channel)
  | .shutDown => do
    channel.shutDown
    return (.gone, none)

def useAll : List Use → Channel P → Act P (List (Answer × List Event) × Option (Channel P))
  | [], channel => return ([], some channel)
  | next :: rest, channel => do
    match ← Act.observe (channel.use next) with
    | ((answer, none), events) => return ([(answer, events)], none)
    | ((answer, some channel), events) =>
      let (seen, channel) ← useAll rest channel
      return ((answer, events) :: seen, channel)

/-- A channel started over `socket` and used. The events recorded are those of its release. -/
def trial (socket : P.Socket) (serverName : String) (uses : List Use) :
    Act P (List Event × Except Error (List (Answer × List Event))) := do
  match ← Act.observe (start socket serverName) with
  | (.error e, events) => return (events, .error e)
  | (.ok channel, events) =>
    let (seen, left) ← channel.useAll uses
    match left with
    | none => return (events, .ok seen)
    | some channel =>
      channel.release
      return (events, .ok seen)

end Channel
end PolledTls
