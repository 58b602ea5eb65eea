import PolledTls.Platform

/-!
A platform that answers from a script: each call takes the next answer of its queue, or the usual
answer once the queue is empty.
-/
namespace PolledTls

/-- An answer to a read: bytes that are stored as far as there is room and reported as stored, or
reported as `claim` whatever was stored; or an error. -/
inductive ReadAnswer where
  | bytes (bytes : List UInt8)
  | claim (count : Nat) (bytes : List UInt8)
  | error (error : IoError)

inductive WriteAnswer where
  | count (count : Nat)
  | error (error : IoError)

structure Script where
  beginLookup : List (Except Error Unit) := []
  isComplete : List Bool := []
  result : List (Option IPv4) := []
  beginConnect : List (Except Error Unit) := []
  pollConnect : List (Except IoError Bool) := []
  newContext : List (Except Error Unit) := []
  newSession : List (Except Error Unit) := []
  bindSocket : List (Except Error Unit) := []
  handshake : List (Except IoError Unit) := []
  read : List ReadAnswer := []
  write : List WriteAnswer := []

namespace Script

def append (first second : Script) : Script where
  beginLookup := first.beginLookup ++ second.beginLookup
  isComplete := first.isComplete ++ second.isComplete
  result := first.result ++ second.result
  beginConnect := first.beginConnect ++ second.beginConnect
  pollConnect := first.pollConnect ++ second.pollConnect
  newContext := first.newContext ++ second.newContext
  newSession := first.newSession ++ second.newSession
  bindSocket := first.bindSocket ++ second.bindSocket
  handshake := first.handshake ++ second.handshake
  read := first.read ++ second.read
  write := first.write ++ second.write

/-- The next item of a queue, or the usual one, and the rest. -/
def next {α : Type} (usual : α) : List α → α × List α
  | [] => (usual, [])
  | item :: rest => (item, rest)

def usualAddress : IPv4 := ⟨192, 0, 2, 7⟩

def reading (room : Nat) : ReadAnswer → Reading
  | .bytes bytes =>
    let stored := bytes.take room
    { stored, answer := .ok stored.length }
  | .claim count bytes => { stored := bytes.take room, answer := .ok count }
  | .error e => { stored := [], answer := .error e }

def writing : WriteAnswer → Writing
  | .count count => { answer := .ok count }
  | .error e => { answer := .error e }

/-- Handles carry nothing: all there is to a scripted resource is its script. -/
def platform : Platform where
  State := Script
  Lookup := Unit
  Socket := Unit
  Context := Unit
  Session := Unit
  beginLookup _ s :=
    let (answer, beginLookup) := next (.ok ()) s.beginLookup
    (answer, { s with beginLookup })
  isComplete _ s :=
    let (answer, isComplete) := next true s.isComplete
    (answer, (), { s with isComplete })
  result _ s :=
    let (answer, result) := next (some usualAddress) s.result
    (answer, { s with result })
  beginConnect _ s :=
    let (answer, beginConnect) := next (.ok ()) s.beginConnect
    (answer, { s with beginConnect })
  pollConnect _ s :=
    let (answer, pollConnect) := next (.ok true) s.pollConnect
    (answer, (), { s with pollConnect })
  newContext s :=
    let (answer, newContext) := next (.ok ()) s.newContext
    (answer, { s with newContext })
  newSession _ _ s :=
    let (answer, newSession) := next (.ok ()) s.newSession
    (answer, { s with newSession })
  bindSocket _ _ s :=
    let (answer, bindSocket) := next (.ok ()) s.bindSocket
    (answer, (), { s with bindSocket })
  handshake _ s :=
    let (answer, handshake) := next (.ok ()) s.handshake
    (answer, (), { s with handshake })
  read room _ s :=
    let (answer, read) := next (.error IoKind.wouldBlock.error) s.read
    (reading room answer, (), { s with read })
  write offered _ s :=
    let (answer, write) := next (.count offered.size) s.write
    (writing answer, (), { s with write })
  shutdown _ s := ((), s)
  releaseLookup _ s := s
  releaseSocket _ s := s
  releaseContext _ s := s
  releaseSession _ s := s
  grants size _ := attainable size

end Script
end PolledTls
