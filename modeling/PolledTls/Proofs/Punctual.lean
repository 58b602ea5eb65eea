import PolledTls.Proofs.Attempt
import PolledTls.Proofs.SendTimeout
import PolledTls.Proofs.Stream.Step

/-!
Attempts in which no send times out and an open connection stays open. Every send that completes
before the end does so with success, so what has been written is the beginning of all messages one
after the other, and the sends that succeeded are the first that were accepted.
-/
namespace PolledTls

variable {P : Platform}

/-- The sends that complete with success among the events, in firing order. -/
def Event.succeeded (events : List Event) : List Ticket :=
  ((settled events).filter (·.2 = .ok)).map (·.1)

namespace Event

variable {events : List Event}

theorem succeeded_append (first second : List Event) :
    succeeded (first ++ second) = succeeded first ++ succeeded second := by
  rw [succeeded, settled_append, List.filter_append, List.map_append]
  rfl

theorem succeeded_eq_sends (fine : ∀ done ∈ settled events, done.2 = .ok) :
    succeeded events = sends events := by
  have all : (settled events).filter (·.2 = .ok) = settled events :=
    List.filter_eq_self.mpr fun done member => decide_eq_true (fine done member)
  rw [succeeded, all, map_settled]

theorem ok_of_completions (fine : ∀ done ∈ settled events, done.2 = .ok) :
    ∀ result ∈ completions events, result = .ok := by
  intro result member
  rw [← map_settled_results] at member
  obtain ⟨done, there, rfl⟩ := List.mem_map.mp member
  exact fine done there

theorem spans_unaccepted : Spans fun event => event.accepted.isEmpty where
  setup event making := by
    unfold accepted
    split
    · cases making
    · rfl
  opened _ _ := rfl
  sent _ _ := rfl
  closed _ := rfl
  shutdown := rfl

end Event

namespace Entry

/-- The calls of an attempt as far as it has come: all of them, or those before its end. -/
inductive Begun : List (Entry P) → Prop
  | ongoing {first : Entry P} {work : List (Entry P)} (begins : first.begins = true)
      (goesOn : ∀ e ∈ work, e.ends = false) : Begun (first :: work)
  | ended {calls : List (Entry P)} (whole : Attempt calls) : Begun calls

/-- An open connection stays open unless the call ends the attempt. -/
def Steady (e : Entry P) : Prop :=
  e.before.status = .opened → e.ends = false → e.after.status = .opened

end Entry

namespace Flow

variable {messages : List (List UInt8)} {events : List Event} {o : Outbox}

/-- The shares of sends that succeeded are their messages. -/
theorem map_share (h : Flow messages events o)
    (fine : ∀ result ∈ Event.completions events, result = .ok) :
    (List.range (Event.completions events).length).map (Event.share · events) =
      messages.take (Event.completions events).length := by
  apply List.ext_getElem
  · rw [List.length_map, List.length_range, List.length_take]
    exact (Nat.min_eq_left h.within).symm
  · intro i inside beyond
    rw [List.length_map, List.length_range] at inside
    obtain ⟨message, there, fits⟩ := h.settled i _ (List.getElem?_eq_getElem inside)
    obtain ⟨_, rfl⟩ := List.getElem?_eq_some_iff.mp there
    rw [List.getElem_map, List.getElem_range, List.getElem_take]
    exact fits.ok (fine _ (List.getElem_mem inside))

/-- What was accepted of the head and what is left of all that waits are the messages that have not
completed. -/
theorem share_append (h : Flow messages events o) :
    Event.share (Event.completions events).length events ++
        o.messages.flatMap (·.rest.toList) =
      (messages.drop (Event.completions events).length).flatten := by
  rw [h.waiting, ← List.flatMap_def]
  cases waiting : o.messages with
  | nil => exact congrArg (· ++ []) (h.unbegun waiting)
  | cons m rest =>
      have behind : ∀ m ∈ rest, m.rest = m.payload := by
        have behind := h.behind
        rw [waiting] at behind
        exact behind
      have unbegun : rest.map (·.rest.toList) = rest.map (·.payload.toList) :=
        List.map_congr_left fun m member => congrArg Bytes.toList (behind m member)
      rw [List.flatMap_cons, List.flatMap_cons, ← List.append_assoc, h.begun m rest waiting,
        List.flatMap_def, unbegun, ← List.flatMap_def]

/-- If all sends that completed have succeeded, what was accepted and what is left of the messages
that wait are all messages, one after the other. -/
theorem taken_append (h : Flow messages events o)
    (fine : ∀ result ∈ Event.completions events, result = .ok) :
    Event.taken events ++ o.messages.flatMap (·.rest.toList) = messages.flatten := by
  rw [Event.taken_eq_share (Nat.lt_succ_self _), List.range_succ, List.flatMap_append,
    List.flatMap_singleton, List.append_assoc, h.share_append, List.flatMap_def,
    h.map_share fine, ← List.flatten_append, List.take_append_drop]

end Flow

namespace Connection

variable {c left last : Connection P} {now : Instant} {owner : Ticket} {es : List Event}
  {request : Option Request} {result : Except Error Unit} {calls : List (Entry P)}
  {channel : Channel P}

/-- Only a poll can take an open connection elsewhere short of the end of the attempt. -/
theorem Step.steady (h : c.Step now request result es left)
    (polled : request = some .poll → c.status = .opened → left.status = .opened) :
    Entry.Steady ⟨c, now, request, result, es, left⟩ := by
  intro opened goesOn
  cases h with
  | starts idle lookup => cases idle.symm.trans opened
  | closes live | vanishes idle | abandons live => cases goesOn
  | opens owner polling => exact polled rfl opened
  | transfers owner phase transferred => exact polled rfl opened
  | _ => exact opened

theorem Serves.fine (h : c.Serves now owner channel es left) (opened : left.status = .opened)
    (punctual : Event.sendTimeouts es = []) : ∀ done ∈ Event.settled es, done.2 = .ok := by
  cases h with
  | rests nothing => simp [Event.settled]
  | expires head late => simp [Event.sendTimeouts, Callback.sendTimeout?] at punctual
  | breaks head inTime some notices hard => cases opened
  | _ => simp [Event.settled, Callback.settles?]

theorem Transfers.fine (h : c.Transfers now owner channel es left) (opened : left.status = .opened)
    (punctual : Event.sendTimeouts es = []) : ∀ done ∈ Event.settled es, done.2 = .ok := by
  cases h with
  | receives stored notices session some served =>
      rw [Event.sendTimeouts_append] at punctual
      have later := served.fine opened (List.append_eq_nil_iff.mp punctual).2
      rw [Event.settled_append]
      simpa [Event.settled, Callback.settles?] using later
  | listens stored notices session stalled served =>
      rw [Event.sendTimeouts_append] at punctual
      have later := served.fine opened (List.append_eq_nil_iff.mp punctual).2
      rw [Event.settled_append]
      simpa [Event.settled, Callback.settles?] using later
  | breaks stored notices hard => cases opened

theorem Opens.settled (h : c.Opens now owner es left) : Event.settled es = [] := by
  have none := h.sends
  rw [← Event.map_settled] at none
  exact List.map_eq_nil_iff.mp none

/-- Short of the end of the attempt sends complete with success, if they are in time and the
connection does not fail. -/
theorem Step.fine (h : c.Step now request result es left)
    (steady : Entry.Steady ⟨c, now, request, result, es, left⟩)
    (goesOn : Entry.ends ⟨c, now, request, result, es, left⟩ = false)
    (punctual : Event.sendTimeouts es = []) : ∀ done ∈ Event.settled es, done.2 = .ok := by
  cases h with
  | closes live | vanishes idle | abandons live => cases goesOn
  | opens owner opened =>
      rw [opened.settled]
      simp
  | transfers owner phase transferred =>
      exact transferred.fine (steady (congrArg Phase.status phase) goesOn) punctual
  | _ => simp [Event.settled, Callback.settles?]

theorem Linked.fine (h : Linked c calls last) (steady : ∀ e ∈ calls, e.Steady)
    (goesOn : ∀ e ∈ calls, e.ends = false)
    (punctual : Event.sendTimeouts (Entry.eventsOf calls) = []) :
    ∀ done ∈ Event.settled (Entry.eventsOf calls), done.2 = .ok := by
  induction h with
  | nil c => simp [Entry.eventsOf, Event.settled]
  | cons step later ih =>
      obtain ⟨first, others⟩ := List.forall_mem_cons.mp steady
      obtain ⟨goes, going⟩ := List.forall_mem_cons.mp goesOn
      rw [Entry.eventsOf, List.flatMap_cons, Event.sendTimeouts_append,
        List.append_eq_nil_iff] at punctual
      rw [Entry.eventsOf, List.flatMap_cons, Event.settled_append]
      exact List.forall_mem_append.mpr
        ⟨step.fine first goes punctual.1, ih others going punctual.2⟩

theorem succeeded_farewell (c : Connection P) : Event.succeeded c.farewell = [] := by
  have cancelled : ∀ done ∈ Event.settled c.farewell, done.2 = .cancelled := by
    intro done member
    rw [Event.settled, callbacks_farewell, List.mem_filterMap] at member
    obtain ⟨fired, there, settles⟩ := member
    rcases List.mem_append.mp there with opened | drained
    · unfold cancellation at opened
      split at opened
      · simp at opened
        subst opened
        cases settles
      · cases opened
    · obtain ⟨m, -, rfl⟩ := List.mem_map.mp drained
      cases settles
      rfl
  rw [Event.succeeded, List.map_eq_nil_iff, List.filter_eq_nil_iff]
  intro done member
  simp [cancelled done member]

/-- At the end of an attempt nothing is written and no send succeeds. -/
theorem Step.of_ends (h : c.Step now request result es left)
    (ends : Entry.ends ⟨c, now, request, result, es, left⟩ = true) :
    Event.taken es = [] ∧ Event.succeeded es = [] := by
  constructor
  · rcases h.transfers_or_spans with ⟨ticket, channel, rfl, -⟩ | spans
    · cases ends
    · apply List.flatMap_eq_nil_iff.mpr
      intro event member
      exact List.isEmpty_iff.mp
        (List.all_eq_true.mp (spans _ Event.spans_unaccepted) event member)
  · cases h with
    | closes live =>
        rw [Event.succeeded_append, succeeded_farewell]
        rfl
    | vanishes idle => rfl
    | abandons live => exact c.succeeded_farewell
    | _ => cases ends

theorem Linked.idle_of_begun (h : Linked c calls last) (sound : c.Sound)
    (begun : Entry.Begun calls) : c.outbox.messages = [] := by
  cases begun with
  | ended whole => exact (h.idle_of_attempt sound whole).1
  | ongoing begins goesOn =>
      cases h with
      | cons step later => exact step.empty_of_begins sound begins

/-- Before its end, what an attempt has written is the beginning of its messages, one after the
other, and the sends that succeeded are the first of those it accepted. -/
theorem Linked.prefixes_of_goesOn (h : Linked c calls last) (sound : c.Sound)
    (empty : c.outbox.messages = []) (steady : ∀ e ∈ calls, e.Steady)
    (goesOn : ∀ e ∈ calls, e.ends = false)
    (punctual : Event.sendTimeouts (Entry.eventsOf calls) = []) :
    Event.taken (Entry.eventsOf calls) <+: (Entry.messages calls).flatten ∧
      Event.succeeded (Entry.eventsOf calls) <+: Entry.acceptedBy calls := by
  have fine := h.fine steady goesOn punctual
  constructor
  · have flow : Flow ([] ++ Entry.messages calls) ([] ++ Entry.eventsOf calls) last.outbox :=
      h.flow sound (.start empty)
    exact ⟨_, flow.taken_append (Event.ok_of_completions fine)⟩
  · rw [Event.succeeded_eq_sends fine]
    exact ⟨_, h.sends_of_empty empty⟩

/-- What an attempt has written is the beginning of its messages, one after the other, and the sends
that succeeded are the first of those it accepted, if none timed out and the connection has not
failed while it was open. -/
theorem Linked.prefixes_of_begun (h : Linked c calls last) (sound : c.Sound)
    (begun : Entry.Begun calls) (steady : ∀ e ∈ calls, e.Steady)
    (punctual : Event.sendTimeouts (Entry.eventsOf calls) = []) :
    Event.taken (Entry.eventsOf calls) <+: (Entry.messages calls).flatten ∧
      Event.succeeded (Entry.eventsOf calls) <+: Entry.acceptedBy calls := by
  have empty := h.idle_of_begun sound begun
  cases begun with
  | @ongoing first work begins goesOn =>
      have goes : ∀ e ∈ first :: work, e.ends = false :=
        List.forall_mem_cons.mpr ⟨Entry.ends_of_begins begins, goesOn⟩
      exact h.prefixes_of_goesOn sound empty steady goes punctual
  | ended whole =>
      obtain ⟨begins, goesOn, ends⟩ := whole
      rename_i first final work
      -- The end adds nothing to either, so both are those of the calls before it.
      rw [← List.cons_append] at h steady punctual ⊢
      have goes : ∀ e ∈ first :: work, e.ends = false :=
        List.forall_mem_cons.mpr ⟨Entry.ends_of_begins begins, goesOn⟩
      obtain ⟨before, step, -⟩ := h.at_
      obtain ⟨untaken, unsent⟩ := step.of_ends ends
      rw [Entry.eventsOf_append, Entry.eventsOf_singleton] at punctual ⊢
      rw [Event.sendTimeouts_append, List.append_eq_nil_iff] at punctual
      obtain ⟨written, succeeded⟩ := before.prefixes_of_goesOn sound empty
        (fun e member => steady e (List.mem_append_left _ member)) goes punctual.1
      rw [Event.taken_append, untaken, Event.succeeded_append, unsent, List.append_nil,
        List.append_nil]
      rw [Entry.messages, Entry.acceptedBy, List.flatMap_append, List.flatMap_append,
        List.flatten_append]
      exact ⟨written.trans (List.prefix_append _ _), succeeded.trans (List.prefix_append _ _)⟩

end Connection
end PolledTls
