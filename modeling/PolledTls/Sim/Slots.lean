import PolledTls.Sim.Network

/-!
A simulated network used without a connection: each resource made goes to the next slot of its
kind, and calls name the slots. A session owns the socket bound to it.
-/
namespace PolledTls.Sim

structure Slots where
  network : Network
  lookups : List (Option Network.Lookup) := []
  sockets : List (Option Network.Socket) := []
  contexts : List (Option Unit) := []
  sessions : List (Option (Network.Session × Option Network.Socket)) := []

namespace Slots

inductive Use where
  | network (commands : List Network.Command)
  | beginLookup (hostname : String)
  | isComplete (lookup : Nat)
  | result (lookup : Nat)
  | beginConnect (endpoint : Endpoint)
  | pollConnect (socket : Nat)
  | newContext
  | newSession (context : Nat) (serverName : String)
  | bindSocket (session socket : Nat)
  | handshake (session : Nat)
  | read (session room : Nat)
  | write (session : Nat) (bytes : List UInt8)
  | shutdown (session : Nat)
  | drop (resource : Resource) (slot : Nat)

inductive Answer where
  | nothing
  | made (slot : Except Error Nat)
  | truth (value : Bool)
  | address (found : Option IPv4)
  | connected (answer : Except IoError Bool)
  | bound (answer : Except Error Unit)
  | stepped (answer : Except IoError Unit)
  | read (answer : Except IoError (List UInt8))
  | written (answer : Except IoError Nat)
  /-- A slot that was named is empty, or there is none of that number. -/
  | emptySlot

def held {α : Type} (slots : List (Option α)) (slot : Nat) : Option α :=
  slots[slot]?.join

def closeSocket (net : Network) : Option Network.Socket → Network
  | none => net
  | some _ => net.releaseSocket

/-- Gives back a session with the socket it owns. -/
def closeSession (net : Network) (socket : Option Network.Socket) : Network :=
  closeSocket net.releaseSession socket

/-- Empties a slot; whether it was full. -/
def drop (s : Slots) : Resource → Nat → Bool × Slots
  | .lookup, slot =>
    match held s.lookups slot with
    | none => (false, s)
    | some _ => (true, { s with
        network := s.network.releaseLookup, lookups := s.lookups.set slot none })
  | .socket, slot =>
    match held s.sockets slot with
    | none => (false, s)
    | some _ => (true, { s with
        network := s.network.releaseSocket, sockets := s.sockets.set slot none })
  | .context, slot =>
    match held s.contexts slot with
    | none => (false, s)
    | some _ => (true, { s with
        network := s.network.releaseContext, contexts := s.contexts.set slot none })
  | .session, slot =>
    match held s.sessions slot with
    | none => (false, s)
    | some (_, socket) => (true, { s with
        network := closeSession s.network socket, sessions := s.sessions.set slot none })

/-- Binds a socket that leaves its slot in any case. One that is refused is closed, and so is one
that another takes the place of. -/
def bindSocket (s : Slots) (session socket : Nat) : Answer × Slots :=
  match held s.sessions session, held s.sockets socket with
  | some (bearer, owned), some given =>
    let s := { s with sockets := s.sockets.set socket none }
    match Network.bindSocket bearer given s.network with
    | (.ok (), bearer, network) =>
      (.bound (.ok ()), { s with
        network := closeSocket network owned
        sessions := s.sessions.set session (some (bearer, some given)) })
    | (.error e, bearer, network) =>
      (.bound (.error e), { s with
        network := network.releaseSocket
        sessions := s.sessions.set session (some (bearer, owned)) })
  | _, _ => (.emptySlot, s)

/-- Works the session of a slot and keeps what becomes of it. -/
def withSession (s : Slots) (slot : Nat)
    (act : Network.Session → Network → Answer × Network.Session × Network) : Answer × Slots :=
  match held s.sessions slot with
  | none => (.emptySlot, s)
  | some (session, socket) =>
    let (answer, session, network) := act session s.network
    (answer, { s with network, sessions := s.sessions.set slot (some (session, socket)) })

def use (s : Slots) : Use → Answer × Slots
  | .network commands => (.nothing, { s with network := s.network.commands commands })
  | .beginLookup hostname =>
    match Network.beginLookup hostname s.network with
    | (.error e, network) => (.made (.error e), { s with network })
    | (.ok lookup, network) =>
      (.made (.ok s.lookups.length), { s with network, lookups := s.lookups ++ [some lookup] })
  | .isComplete slot =>
    match held s.lookups slot with
    | none => (.emptySlot, s)
    | some lookup =>
      let (complete, lookup, network) := Network.isComplete lookup s.network
      (.truth complete, { s with network, lookups := s.lookups.set slot (some lookup) })
  | .result slot =>
    match held s.lookups slot with
    | none => (.emptySlot, s)
    | some _ => (.address s.network.address, s)
  | .beginConnect endpoint =>
    match Network.beginConnect endpoint s.network with
    | (.error e, network) => (.made (.error e), { s with network })
    | (.ok socket, network) =>
      (.made (.ok s.sockets.length), { s with network, sockets := s.sockets ++ [some socket] })
  | .pollConnect slot =>
    match held s.sockets slot with
    | none => (.emptySlot, s)
    | some socket =>
      let (answer, socket, network) := Network.pollConnect socket s.network
      (.connected answer, { s with network, sockets := s.sockets.set slot (some socket) })
  | .newContext =>
    match Network.newContext s.network with
    | (.error e, network) => (.made (.error e), { s with network })
    | (.ok context, network) =>
      (.made (.ok s.contexts.length), { s with network, contexts := s.contexts ++ [some context] })
  | .newSession context serverName =>
    match held s.contexts context with
    | none => (.emptySlot, s)
    | some context =>
      match Network.newSession context serverName s.network with
      | (.error e, network) => (.made (.error e), { s with network })
      | (.ok session, network) =>
        (.made (.ok s.sessions.length),
          { s with network, sessions := s.sessions ++ [some (session, none)] })
  | .bindSocket session socket => s.bindSocket session socket
  | .handshake slot => s.withSession slot fun session network =>
      let (answer, session, network) := Network.handshake session network
      (.stepped answer, session, network)
  | .read slot room => s.withSession slot fun session network =>
      let (reading, session, network) := Network.read room session network
      (.read (reading.answer.map reading.stored.take), session, network)
  | .write slot bytes => s.withSession slot fun session network =>
      let (writing, session, network) := Network.write (.ofList bytes) session network
      (.written writing.answer, session, network)
  | .shutdown slot => s.withSession slot fun session network =>
      let (session, network) := Network.shutdown session network
      (.nothing, session, network)
  | .drop resource slot =>
    let (full, s) := s.drop resource slot
    (.truth full, s)

def dropAll (s : Slots) : Slots :=
  let each (resource : Resource) (count : Nat) (s : Slots) : Slots :=
    (List.range count).foldl (fun s slot => (s.drop resource slot).2) s
  each .session s.sessions.length (each .context s.contexts.length
    (each .socket s.sockets.length (each .lookup s.lookups.length s)))

end Slots
end PolledTls.Sim
