import PolledTls.Outbox

/-!
A queue handled from outside, move by move: each move has an answer and fires completions. Messages
are numbered in the order in which they come.
-/
namespace PolledTls.Outbox

inductive Move where
  | push (bytes : List UInt8)
  | pop (result : Completion)
  | drain (result : Completion)
  | head
  | accept (count : Nat)
  | arm (now : Instant) (window : Duration)

inductive Answer where
  | queued (result : Except Error Unit)
  | popped (found : Bool)
  | drained (count : Nat)
  | noHead
  | head (message : Message)
  | accepted (unsent : Nat)
  /-- More bytes were reported than were left; the head stays as it is. -/
  | overrun (wrote unsent : Nat)
  | armed (deadline : Deadline)

def overrunText (wrote unsent : Nat) : String :=
  "wrote " ++ toString wrote ++ " of " ++ toString unsent ++ " unsent"

/-- One move: the answer, the completions that fire, and the queue afterwards. A message queued by
it gets `ticket`. -/
def move (grants : Nat → Bool) (ticket : Ticket) (o : Outbox) :
    Move → Answer × List Callback × Outbox
  | .push bytes =>
    match o.push grants bytes ticket with
    | .ok queued => (.queued (.ok ()), [], queued)
    | .error e => (.queued (.error e), [], o)
  | .pop result => (.popped (!o.isEmpty), o.pop result)
  | .drain result => (.drained o.size, o.drain result)
  | .head =>
    match o.head? with
    | none => (.noHead, [], o)
    | some m => (.head m, [], o)
  | .accept count =>
    match o.head? with
    | none => (.noHead, [], o)
    | some m =>
      if count ≤ m.unsent then (.accepted (m.unsent - count), [], o.mapHead (·.accept count))
      else (.overrun count m.unsent, [], o)
  | .arm now window =>
    match o.head? with
    | none => (.noHead, [], o)
    | some m => (.armed (m.deadlineAt now window), [], o.mapHead (·.arm now window))

/-- The ticket after a move: every push takes one, a refused one too. -/
def Move.nextTicket (ticket : Ticket) : Move → Ticket
  | .push _ => ticket + 1
  | _ => ticket

/-- Moves in order, each with its answer, the completions it fired and the queue it left. -/
def moves (grants : Nat → Bool) :
    Ticket → Outbox → List Move → List (Answer × List Callback × Outbox)
  | _, _, [] => []
  | ticket, o, next :: rest =>
    let step := o.move grants ticket next
    step :: moves grants (next.nextTicket ticket) step.2.2 rest

end PolledTls.Outbox
