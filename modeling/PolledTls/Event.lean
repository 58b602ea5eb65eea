import PolledTls.Event.Log

/-!
Everything that can be seen of a connection at work, in the order in which it happens: the calls it
makes and what they answered, the resources it gives back, the callbacks it fires, what it logs.
-/
namespace PolledTls

/-- The name a caller gives to a callback, so that its firing can be told from every other. -/
abbrev Ticket := Nat

inductive Resource where
  | lookup
  | socket
  | context
  | session
deriving DecidableEq

def Resource.text : Resource → String
  | .lookup => "lookup"
  | .socket => "socket"
  | .context => "context"
  | .session => "session"

inductive Call where
  | beginLookup (hostname : String) (answer : Except Error Unit)
  | isComplete (answer : Bool)
  | result (answer : Option IPv4)
  | beginConnect (endpoint : Endpoint) (answer : Except Error Unit)
  | pollConnect (answer : Except IoError Bool)
  | newContext (answer : Except Error Unit)
  | newSession (serverName : String) (answer : Except Error Unit)
  | bindSocket (answer : Except Error Unit)
  | handshake (answer : Except IoError Unit)
  | read (room : Nat) (stored : List UInt8) (answer : Except IoError Nat)
  | write (offered : List UInt8) (answer : Except IoError Nat)
  | shutdown

/-- A callback that fires, with the ticket under which it was handed in. -/
inductive Callback where
  | opened (ticket : Ticket) (result : Completion)
  | received (ticket : Ticket) (bytes : List UInt8)
  | failed (ticket : Ticket) (error : Error)
  | sent (ticket : Ticket) (result : Completion)
  | closed (ticket : Ticket)
deriving DecidableEq

/-- A rule of the connection's own that was about to be broken. No run records one. -/
inductive Fault where
  | overrun (wrote unsent : Nat)
  | tail (unsent size : Nat)
  | chunk (count room : Nat)
deriving DecidableEq

inductive Event where
  | call (call : Call)
  | release (resource : Resource)
  | callback (callback : Callback)
  | log (event : LogEvent)
  | fault (fault : Fault)

namespace Event

def callback? : Event → Option Callback
  | .callback c => some c
  | _ => none

def log? : Event → Option LogEvent
  | .log e => some e
  | _ => none

def callbacks (events : List Event) : List Callback :=
  events.filterMap callback?

def logs (events : List Event) : List LogEvent :=
  events.filterMap log?

end Event

/-- How many resources of each kind a run has created so far. -/
structure Created where
  lookups : Nat := 0
  sockets : Nat := 0
  contexts : Nat := 0
  sessions : Nat := 0
deriving DecidableEq

namespace Created

def count (created : Created) : Resource → Nat
  | .lookup => created.lookups
  | .socket => created.sockets
  | .context => created.contexts
  | .session => created.sessions

def after (created : Created) : Event → Created
  | .call (.beginLookup _ (.ok ())) => { created with lookups := created.lookups + 1 }
  | .call (.beginConnect _ (.ok ())) => { created with sockets := created.sockets + 1 }
  | .call (.newContext (.ok ())) => { created with contexts := created.contexts + 1 }
  | .call (.newSession _ (.ok ())) => { created with sessions := created.sessions + 1 }
  | _ => created

def afterAll (created : Created) (events : List Event) : Created :=
  events.foldl after created

/-- Each event with the number of the resource it releases. A connection holds at most one resource
of a kind at a time, so the one released is the last one made. -/
def number (created : Created) : List Event → List (Event × Option Nat)
  | [] => []
  | event :: rest =>
    let serial := match event with
      | .release resource => some (created.count resource)
      | _ => none
    (event, serial) :: (created.after event).number rest

end Created
end PolledTls
