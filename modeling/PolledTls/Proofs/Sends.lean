import PolledTls.Proofs.History
import PolledTls.Proofs.Step.Callbacks

/-!
Sends are neither lost nor made nor reordered. What has completed and what still waits, one after
the other, are the accepted sends.
-/
namespace PolledTls

variable {P : Platform}

def Callback.sent? : Callback → Option Ticket
  | .sent ticket _ => some ticket
  | _ => none

/-- The sends that complete among the events, in firing order. -/
def Event.sends (events : List Event) : List Ticket :=
  (callbacks events).filterMap Callback.sent?

theorem Event.sends_append (first second : List Event) :
    sends (first ++ second) = sends first ++ sends second := by
  rw [sends, callbacks_append, List.filterMap_append]
  rfl

theorem Event.sends_mono {first whole : List Event} (part : first <+: whole) :
    sends first <+: sends whole := by
  obtain ⟨rest, rfl⟩ := part
  exact ⟨sends rest, (sends_append first rest).symm⟩

def Callback.settles? : Callback → Option (Ticket × Completion)
  | .sent ticket result => some (ticket, result)
  | _ => none

/-- The sends that complete among the events, each with its result. -/
def Event.settled (events : List Event) : List (Ticket × Completion) :=
  (callbacks events).filterMap Callback.settles?

theorem Event.settled_append (first second : List Event) :
    settled (first ++ second) = settled first ++ settled second := by
  rw [settled, callbacks_append, List.filterMap_append]
  rfl

theorem Event.map_settled (events : List Event) : (settled events).map (·.1) = sends events := by
  rw [settled, sends, List.map_filterMap]
  congr 1
  funext fired
  cases fired <;> rfl

/-- The sends that wait, the head first. -/
def Outbox.tickets (o : Outbox) : List Ticket :=
  o.messages.map (·.ticket)

namespace Entry

def completedBy (calls : List (Entry P)) : List Ticket :=
  Event.sends (eventsOf calls)

theorem completedBy_cons (e : Entry P) (rest : List (Entry P)) :
    completedBy (e :: rest) = Event.sends e.events ++ completedBy rest := by
  rw [completedBy, eventsOf, List.flatMap_cons, Event.sends_append]
  rfl

theorem completedBy_concat (calls : List (Entry P)) (e : Entry P) :
    completedBy (calls ++ [e]) = completedBy calls ++ Event.sends e.events := by
  rw [completedBy, eventsOf_append, eventsOf_singleton, Event.sends_append]
  rfl

end Entry

namespace Connection

variable {c left last : Connection P} {now : Instant} {ticket : Ticket} {es : List Event}
  {request : Option Request} {result : Except Error Unit} {calls : List (Entry P)}

theorem Opens.outbox (h : c.Opens now ticket es left) : left.outbox = c.outbox := by
  cases h <;> rfl

theorem Opens.sends (h : c.Opens now ticket es left) : Event.sends es = [] := by
  rw [Event.sends, h.callbacks, List.filterMap_eq_nil_iff]
  intro fired member
  obtain ⟨result, -, rfl⟩ := List.mem_map.mp member
  rfl

theorem Serves.sends {channel : Channel P} (h : c.Serves now ticket channel es left) :
    Event.sends es ++ left.outbox.tickets = c.outbox.tickets := by
  cases h with
  | rests nothing => rfl
  | expires head late | passes head inTime nothing =>
      simp [Event.sends, Callback.sent?, Outbox.tickets, head]
  | stalls head inTime some notices session stalled =>
      simp [Event.sends, Outbox.tickets, head]
  | writes head inTime notices session some part =>
      simp [Event.sends, Outbox.tickets, head]
  | finishes head inTime some notices session all =>
      simp [Event.sends, Callback.sent?, Outbox.tickets, head]
  | breaks head inTime some notices hard =>
      simp [Event.sends, Callback.sent?, Outbox.tickets, head]

theorem Transfers.sends {channel : Channel P} (h : c.Transfers now ticket channel es left) :
    Event.sends es ++ left.outbox.tickets = c.outbox.tickets := by
  cases h with
  | receives stored notices session some served =>
      rw [Event.sends_append, List.append_assoc, served.sends]
      simp [Event.sends, Callback.sent?]
  | listens stored notices session stalled served =>
      rw [Event.sends_append, List.append_assoc, served.sends]
      simp [Event.sends]
  | breaks stored notices hard => simp [Event.sends, Callback.sent?]

theorem sends_farewell (c : Connection P) : Event.sends c.farewell = c.outbox.tickets := by
  have cancelled : Event.sends c.cancellation = [] := by
    unfold cancellation
    split <;> rfl
  rw [Event.sends] at cancelled ⊢
  rw [callbacks_farewell, List.filterMap_append, cancelled, List.nil_append, List.filterMap_map]
  exact congrFun List.filterMap_eq_map _

/-- Sends are neither lost nor made nor reordered: what completes in a call and what waits after it
are what waited before and what the call accepted. -/
theorem Step.sends (h : c.Step now request result es left) :
    Event.sends es ++ left.outbox.tickets =
      c.outbox.tickets ++ Entry.accepted ⟨c, now, request, result, es, left⟩ := by
  cases h with
  | closes live =>
      rw [Event.sends_append, sends_farewell, List.append_assoc]
      rfl
  | abandons live =>
      change Event.sends c.farewell ++ [] = _
      rw [sends_farewell]
      rfl
  | queues opened => simp [Event.sends, Outbox.tickets, Entry.accepted, Message.fresh]
  | opens owner opened =>
      rw [opened.sends, opened.outbox]
      exact (List.append_nil _).symm
  | transfers owner phase transferred =>
      rw [transferred.sends]
      exact (List.append_nil _).symm
  | _ => exact (List.append_nil _).symm

theorem Linked.sends (h : Linked c calls last) :
    Entry.completedBy calls ++ last.outbox.tickets =
      c.outbox.tickets ++ Entry.acceptedBy calls := by
  induction h with
  | nil c => exact (List.append_nil _).symm
  | cons step later ih =>
      rw [Entry.completedBy_cons, List.append_assoc, ih, ← List.append_assoc, step.sends,
        List.append_assoc]
      rfl

/-- What a call completes waited before it: a send does not complete in the call that queues it. -/
theorem Step.sends_prefix (h : c.Step now request result es left) :
    Event.sends es <+: c.outbox.tickets := by
  have law := h.sends
  cases h with
  | queues opened => exact List.nil_prefix
  | _ => exact ⟨_, law.trans (List.append_nil _)⟩

/-- From a start with nothing waiting, what has completed and what waits is what was accepted. -/
theorem Linked.sends_of_empty (h : Linked c calls last) (empty : c.outbox.messages = []) :
    Entry.completedBy calls ++ last.outbox.tickets = Entry.acceptedBy calls := by
  rw [h.sends, Outbox.tickets, empty]
  rfl

/-- The head of the queue is the oldest of the accepted sends that have not completed. -/
theorem Linked.head_ticket {m : Message} {rest : List Message} (h : Linked c calls last)
    (empty : c.outbox.messages = []) (head : last.outbox.messages = m :: rest) :
    (Entry.acceptedBy calls)[(Entry.completedBy calls).length]? = some m.ticket := by
  rw [← h.sends_of_empty empty, Outbox.tickets, head, List.map_cons,
    List.getElem?_append_right (Nat.le_refl _), Nat.sub_self]
  rfl

theorem Linked.pending (h : Linked c calls last) (empty : c.outbox.messages = []) :
    last.pendingSends + (Entry.completedBy calls).length = (Entry.acceptedBy calls).length := by
  have law := congrArg List.length (h.sends_of_empty empty)
  rw [Outbox.tickets, List.length_append, List.length_map] at law
  rw [pendingSends, Outbox.size]
  omega

/-- During the next call, too, what has completed is the beginning of what was accepted. -/
theorem Linked.completed_prefix (h : Linked c calls last) (empty : c.outbox.messages = [])
    (step : last.Step now request result es left) {seen : List Event} (part : seen <+: es) :
    Event.sends (Entry.eventsOf calls ++ seen) <+: Entry.acceptedBy calls := by
  rw [Event.sends_append, ← h.sends_of_empty empty]
  have more : Event.sends seen <+: last.outbox.tickets :=
    (Event.sends_mono part).trans step.sends_prefix
  exact (List.prefix_append_right_inj _).mpr more

theorem Linked.all_completed (h : Linked c calls last) (empty : c.outbox.messages = [])
    (emptied : last.outbox.messages = []) :
    Entry.completedBy calls = Entry.acceptedBy calls := by
  rw [← h.sends_of_empty empty, Outbox.tickets, emptied]
  exact (List.append_nil _).symm

end Connection

end PolledTls
