import PolledTls.Connection
import PolledTls.Sim.Clock
import PolledTls.Sim.Network

/-!
One client on a simulated network under a virtual clock, with a record of everything that was seen.
The peer is the far end of the network.
-/
namespace PolledTls.Sim

structure Rig where
  name : String
  connection : Connection Network.platform
  network : Network
  clock : Clock
  record : Trail Event
  /-- How many sends were accepted; each has its number as its ticket. -/
  sends : Nat

namespace Rig

def create (name : String) (config : Config) (network : Network) : Except Error Rig :=
  let run := Connection.create (P := Network.platform) config network
  run.value.map fun connection => ⟨name, connection, run.state, .start, .ofList run.events, 0⟩

def status (rig : Rig) : Status :=
  rig.connection.status

def heard (rig : Rig) : List Callback :=
  Event.callbacks rig.record.toList

def logged (rig : Rig) : List LogEvent :=
  Event.logs rig.record.toList

def request (rig : Rig) (request : Connection.Request) : Except Error Unit × Rig :=
  let run := rig.connection.carryOut rig.clock.now request rig.network
  (run.value.1, { rig with
    connection := run.value.2
    network := run.state
    record := rig.record ++ run.events })

/-- Open and close callbacks need no telling apart here. -/
def plainTicket : Ticket := 0

def start (rig : Rig) : Except Error Unit × Rig :=
  rig.request (.start plainTicket)

def close (rig : Rig) : Except Error Unit × Rig :=
  rig.request (.close plainTicket)

/-- Sends bytes. The answer is the number under which the completion will be heard. -/
def send (rig : Rig) (bytes : List UInt8) : Except Error Ticket × Rig :=
  match rig.request (.send bytes rig.sends) with
  | (.ok (), after) => (.ok rig.sends, { after with sends := rig.sends + 1 })
  | (.error e, after) => (.error e, after)

def poll (rig : Rig) : Rig :=
  (rig.request .poll).2

/-- Polls until the status is `target`, at most `left` more times after `taken`. The answer is the
number of polls taken, if the target was reached. -/
def reachFrom (target : Status) (taken : Nat) : Nat → Rig → Option Nat × Rig
  | 0, rig => (if rig.status = target then some taken else none, rig)
  | left + 1, rig =>
    if rig.status = target then (some taken, rig)
    else reachFrom target (taken + 1) left rig.poll

/-- Polls until the status is `target`, at most `most` times. -/
def reach (rig : Rig) (target : Status) (most : Nat) : Except String Nat × Rig :=
  match reachFrom target 0 most rig with
  | (some taken, rig) => (.ok taken, rig)
  | (none, rig) =>
    (.error ("Client " ++ rig.name ++ " did not reach " ++ target.text ++ " within "
      ++ toString most ++ " polls, stuck in " ++ rig.status.text), rig)

def expect (rig : Rig) (expected : Status) : Except String Unit :=
  if rig.status = expected then .ok ()
  else .error ("Client " ++ rig.name ++ " expected " ++ expected.text ++ ", got "
    ++ rig.status.text)

/-- Moves the clock, unless it would pass the longest duration. -/
def advance? (rig : Rig) (step : Duration) : Option Rig :=
  (rig.clock.advance? step).map fun clock => { rig with clock }

def commands (rig : Rig) (list : List Network.Command) : Rig :=
  { rig with network := rig.network.commands list }

def deliver (rig : Rig) (bytes : List UInt8) : Rig :=
  rig.commands [.deliver bytes]

def peerReceived (rig : Rig) : List UInt8 :=
  rig.network.written.toList

def drop (rig : Rig) : Rig :=
  let run := rig.connection.discard rig.network
  { rig with
    connection := run.value
    network := run.state
    record := rig.record ++ run.events }

end Rig
end PolledTls.Sim
