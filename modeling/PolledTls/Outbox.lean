import PolledTls.Bytes
import PolledTls.Time
import PolledTls.Event

/-!
Messages waiting to be sent, oldest first. Only the head is ever written, so a message starts when
all before it have left; whichever way it leaves, its completion fires once.
-/
namespace PolledTls

/-- A message on its way: all its bytes, those not accepted yet, and its deadline once armed. -/
structure Message where
  payload : Bytes
  rest : Bytes
  deadline : Option Deadline
  ticket : Ticket
deriving DecidableEq

namespace Message

def fresh (payload : List UInt8) (ticket : Ticket) : Message :=
  ⟨.ofList payload, .ofList payload, none, ticket⟩

def size (m : Message) : Nat :=
  m.payload.size

def unsent (m : Message) : Nat :=
  m.rest.size

def accept (m : Message) (count : Nat) : Message :=
  { m with rest := m.rest.drop count }

/-- The deadline of a message serviced at `now`: the one armed first, or else one armed now. -/
def deadlineAt (m : Message) (now : Instant) (window : Duration) : Deadline :=
  m.deadline.getD ⟨now, window⟩

def arm (m : Message) (now : Instant) (window : Duration) : Message :=
  { m with deadline := some (m.deadlineAt now window) }

def completion (m : Message) (result : Completion) : Callback :=
  .sent m.ticket result

/-- What fires when a message is dropped before it has completed. -/
def discard (_ : Message) : List Callback :=
  []

def spelled (m : Message) : String :=
  Text.record "PendingSend"
    [("total", toString m.size), ("unsent", toString m.unsent),
      ("active", toString m.deadline.isSome)] false

end Message

structure Outbox where
  messages : List Message
deriving DecidableEq

namespace Outbox

def empty : Outbox := ⟨[]⟩

def size (o : Outbox) : Nat :=
  o.messages.length

def isEmpty (o : Outbox) : Bool :=
  o.messages.isEmpty

def head? (o : Outbox) : Option Message :=
  o.messages.head?

/-- The bytes one more place in the queue takes. -/
def slotSize : Nat := 88

/-- Queues a copy of `bytes`. Without memory for the copy or for its place nothing is queued. -/
def push (o : Outbox) (grants : Nat → Bool) (bytes : List UInt8) (ticket : Ticket) :
    Except Error Outbox :=
  if bytes ≠ [] ∧ !grants bytes.length then .error (.allocation bytes.length)
  else if !grants slotSize then .error (.allocation slotSize)
  else .ok ⟨o.messages ++ [.fresh bytes ticket]⟩

theorem messages_push {o queued : Outbox} {grants : Nat → Bool} {bytes : List UInt8}
    {ticket : Ticket} (h : o.push grants bytes ticket = .ok queued) :
    queued.messages = o.messages ++ [.fresh bytes ticket] := by
  grind [push]

/-- Whether there is memory for a copy of `bytes` and for its place. -/
def affords (grants : Nat → Bool) (bytes : List UInt8) : Bool :=
  (bytes.isEmpty || grants bytes.length) && grants slotSize

theorem push_of_affords {grants : Nat → Bool} {bytes : List UInt8}
    (fits : affords grants bytes = true) (o : Outbox) (ticket : Ticket) :
    o.push grants bytes ticket = .ok ⟨o.messages ++ [.fresh bytes ticket]⟩ := by
  grind [push, affords]

def mapHead (f : Message → Message) : Outbox → Outbox
  | ⟨[]⟩ => ⟨[]⟩
  | ⟨m :: rest⟩ => ⟨f m :: rest⟩

/-- Takes the head off; its completion fires with `result`. -/
def pop (result : Completion) : Outbox → List Callback × Outbox
  | ⟨[]⟩ => ([], ⟨[]⟩)
  | ⟨m :: rest⟩ => ([m.completion result], ⟨rest⟩)

@[simp] theorem messages_pop (o : Outbox) (result : Completion) :
    (o.pop result).2.messages = o.messages.tail := by
  obtain ⟨_ | _⟩ := o <;> rfl

def popTimes (result : Completion) : Nat → Outbox → List Callback × Outbox
  | 0, o => ([], o)
  | count + 1, o =>
    let first := o.pop result
    let others := popTimes result count first.2
    (first.1 ++ others.1, others.2)

/-- Pops until nothing is left. -/
def drain (result : Completion) (o : Outbox) : List Callback × Outbox :=
  o.popTimes result o.size

/-- The completions of all messages fire, oldest first. -/
theorem drain_eq (o : Outbox) (result : Completion) :
    o.drain result = (o.messages.map (·.completion result), ⟨[]⟩) := by
  obtain ⟨messages⟩ := o
  induction messages with
  | nil => rfl
  | cons m rest ih =>
    have popped : drain result ⟨m :: rest⟩ =
        (m.completion result :: (drain result ⟨rest⟩).1, (drain result ⟨rest⟩).2) := rfl
    rw [popped, ih, List.map_cons]

@[simp] theorem messages_drain (o : Outbox) (result : Completion) :
    (o.drain result).2.messages = [] := by
  rw [drain_eq]

/-- What fires when a queue is dropped with what it holds. -/
def discard (o : Outbox) : List Callback :=
  o.messages.flatMap Message.discard

theorem discard_eq_nil (o : Outbox) : o.discard = [] :=
  List.flatMap_eq_nil_iff.mpr fun _ _ => rfl

end Outbox
end PolledTls
