import PolledTls.Proofs.Sends

/-!
Under which tickets a connection lets callbacks fire. They are those kept for the attempt under way,
those of the messages that wait and the one that comes with the call; nothing fires under any other.
-/
namespace PolledTls

variable {P : Platform}

def Callback.ticket : Callback → Ticket
  | .opened ticket _ | .received ticket _ | .failed ticket _ | .sent ticket _ | .closed ticket =>
    ticket

/-- The ticket that comes with a request. -/
def Connection.Request.ticket? : Connection.Request → Option Ticket
  | .start ticket | .close ticket | .send _ ticket => some ticket
  | .poll | .setOption .. => none

namespace Entry

def asked (e : Entry P) : List Ticket :=
  (e.request.bind (·.ticket?)).toList

def askedBy (calls : List (Entry P)) : List Ticket :=
  calls.flatMap asked

theorem askedBy_append (first second : List (Entry P)) :
    askedBy (first ++ second) = askedBy first ++ askedBy second :=
  List.flatMap_append

/-- An attempt that begins in a call is named by the ticket that came with it. -/
theorem attemptAfter_eq_some {e : Entry P} {attempt : Option Ticket} {ticket : Ticket}
    (under : e.attemptAfter attempt = some ticket) :
    attempt = some ticket ∨ ticket ∈ e.asked := by
  unfold attemptAfter at under
  split at under
  case h_1 t request result =>
    refine .inr ?_
    rw [asked, request, ← Option.some.inj under]
    exact List.mem_singleton.mpr rfl
  case h_2 => cases under
  case h_3 => cases under
  case h_4 => exact .inl under

theorem accepted_sublist (e : Entry P) : e.accepted.Sublist e.asked := by
  unfold accepted
  split
  case h_1 bytes ticket request result =>
    rw [asked, request]
    exact .refl _
  case h_2 => exact List.nil_sublist _

theorem acceptedBy_subset (calls : List (Entry P)) : acceptedBy calls ⊆ askedBy calls := by
  intro ticket member
  obtain ⟨e, there, accepted⟩ := List.mem_flatMap.mp member
  exact List.mem_flatMap.mpr ⟨e, there, e.accepted_sublist.subset accepted⟩

end Entry

theorem Event.mem_sends {ticket : Ticket} {result : Completion} {events : List Event}
    (fired : .sent ticket result ∈ callbacks events) : ticket ∈ sends events :=
  List.mem_filterMap.mpr ⟨_, fired, rfl⟩

namespace Connection

variable {c left last : Connection P} {now : Instant} {es : List Event} {request : Option Request}
  {result : Except Error Unit} {calls : List (Entry P)}

/-- The ticket of the attempt under way. -/
def owner (c : Connection P) : Option Ticket :=
  c.listener.map (·.ticket)

def tickets (c : Connection P) : List Ticket :=
  c.owner.toList ++ c.outbox.tickets

theorem Sound.tickets_of_idle (sound : c.Sound) (idle : c.status = .notOpen) : c.tickets = [] := by
  have empty := sound.empty (by simp [idle]) (by simp [idle])
  rw [tickets, Connection.owner, sound.unowned idle, Outbox.tickets, empty]
  rfl

theorem fired_farewell (c : Connection P) {fired : Callback}
    (member : fired ∈ Event.callbacks c.farewell) :
    c.owner = some fired.ticket ∨ fired.ticket ∈ c.outbox.tickets := by
  rw [callbacks_farewell, List.mem_append] at member
  rcases member with settled | drained
  · unfold cancellation at settled
    split at settled
    case h_1 ticket listener =>
      rw [List.mem_singleton.mp settled, owner, listener]
      exact .inl rfl
    case h_2 => cases settled
  · obtain ⟨m, there, rfl⟩ := List.mem_map.mp drained
    exact .inr (List.mem_map.mpr ⟨m, there, rfl⟩)

/-- What fires in a call fires for the attempt under way, for a message that waits, or for the call
itself. -/
theorem Step.fired (h : c.Step now request result es left) {fired : Callback}
    (member : fired ∈ Event.callbacks es) :
    c.owner = some fired.ticket ∨ fired.ticket ∈ c.outbox.tickets ∨
      request.bind (·.ticket?) = some fired.ticket := by
  cases h with
  | startRejected live | lookupRefused idle e | closeIgnored idle =>
      rw [List.mem_singleton.mp member]
      exact .inr (.inr rfl)
  | closes live =>
      rw [Event.callbacks_append, List.mem_append] at member
      rcases member with parting | own
      · rcases c.fired_farewell parting with attempt | waiting
        · exact .inl attempt
        · exact .inr (.inl waiting)
      · rw [List.mem_singleton.mp own]
        exact .inr (.inr rfl)
  | abandons live =>
      rcases c.fired_farewell member with attempt | waiting
      · exact .inl attempt
      · exact .inr (.inl waiting)
  | opens listener opened =>
      rw [opened.callbacks] at member
      obtain ⟨result, -, rfl⟩ := List.mem_map.mp member
      rw [owner, listener]
      exact .inl rfl
  | @transfers t _ _ _ listener phase transferred =>
      have step : c.Step now (some .poll) (.ok ()) es left :=
        .transfers listener phase transferred
      have own : c.owner = some t := by
        rw [owner, listener]
        rfl
      rcases transferred.callbacks fired member with ⟨bytes, rfl⟩ | ⟨t, result, rfl⟩ | ⟨e, rfl⟩
      · exact .inl own
      · exact .inr (.inl (step.sends_prefix.subset (Event.mem_sends member)))
      · exact .inl own
  | _ => cases member

theorem Step.fired_tickets (h : c.Step now request result es left) {fired : Callback}
    (member : fired ∈ Event.callbacks es) :
    fired.ticket ∈ c.tickets ++ Entry.asked ⟨c, now, request, result, es, left⟩ := by
  rw [List.mem_append, tickets, List.mem_append, Option.mem_toList, Entry.asked,
    Option.mem_toList, or_assoc]
  exact h.fired member

/-- What is kept after a call was kept before it or came with it. -/
theorem Step.kept_tickets (h : c.Step now request result es left) (sound : c.Sound) :
    left.tickets ⊆ c.tickets ++ Entry.asked ⟨c, now, request, result, es, left⟩ := by
  intro ticket member
  rcases List.mem_append.mp member with attempt | waiting
  · have next : left.owner = _ := h.attempt sound
    rw [next, Option.mem_toList] at attempt
    rcases Entry.attemptAfter_eq_some attempt with kept | asked
    · exact List.mem_append_left _ (List.mem_append_left _ (Option.mem_toList.mpr kept))
    · exact List.mem_append_right _ asked
  · have law := h.sends
    have kept : ticket ∈ c.outbox.tickets ++ Entry.accepted ⟨c, now, request, result, es, left⟩ :=
      law ▸ List.mem_append_right _ waiting
    rcases List.mem_append.mp kept with old | new
    · exact List.mem_append_left _ (List.mem_append_right _ old)
    · exact List.mem_append_right _ ((Entry.accepted_sublist _).subset new)

/-- Nothing fires under a ticket that was neither kept at first nor handed in since. -/
theorem Linked.fired_tickets (h : Linked c calls last) (sound : c.Sound) {fired : Callback}
    (member : fired ∈ Event.callbacks (Entry.eventsOf calls)) :
    fired.ticket ∈ c.tickets ++ Entry.askedBy calls := by
  induction h with
  | nil c => cases member
  | cons step later ih =>
      rw [Entry.eventsOf, List.flatMap_cons, Event.callbacks_append, List.mem_append] at member
      rw [Entry.askedBy, List.flatMap_cons, ← List.append_assoc]
      rcases member with now | afterwards
      · exact List.mem_append_left _ (step.fired_tickets now)
      · rcases List.mem_append.mp (ih (step.sound sound) afterwards) with kept | asked
        · exact List.mem_append_left _ (step.kept_tickets sound kept)
        · exact List.mem_append_right _ asked

end Connection
end PolledTls
