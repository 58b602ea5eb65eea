import PolledTls.Proofs.Step.Exhaustive
import PolledTls.Proofs.Step.Invariant
import PolledTls.Proofs.Step.Kinds

/-!
Histories: any number of calls on a connection and then its drop, with all that was seen at each.
Between two calls the platform may have been changed in any way, so its answers and the clock are
free; the laws of histories quantify over every one.
-/
namespace PolledTls

variable {P : Platform}

/-- One call to come: what becomes of the platform before it, the reading of the clock and what is
asked. -/
structure Turn (P : Platform) where
  meanwhile : P.State → P.State
  now : Instant
  request : Connection.Request

/-- One call that was made. The drop is the one without a request. -/
structure Entry (P : Platform) where
  before : Connection P
  now : Instant
  request : Option Connection.Request
  result : Except Error Unit
  events : List Event
  after : Connection P

namespace Entry

/-- The attempt under way after a call, given the one before it, each named by the ticket of the
open that began it. An accepted open begins one; a close of it or the drop ends it. -/
def attemptAfter (e : Entry P) (attempt : Option Ticket) : Option Ticket :=
  match e.request, e.result with
  | some (.start ticket), .ok () => some ticket
  | some (.close _), .ok () | none, _ => none
  | _, _ => attempt

def attempt (calls : List (Entry P)) : Option Ticket :=
  calls.foldl (fun current e => e.attemptAfter current) none

def accepted (e : Entry P) : List Ticket :=
  match e.request, e.result with
  | some (.send _ ticket), .ok () => [ticket]
  | _, _ => []

def acceptedBy (calls : List (Entry P)) : List Ticket :=
  calls.flatMap accepted

def eventsOf (calls : List (Entry P)) : List Event :=
  calls.flatMap Entry.events

theorem eventsOf_append (first second : List (Entry P)) :
    eventsOf (first ++ second) = eventsOf first ++ eventsOf second :=
  List.flatMap_append

theorem eventsOf_singleton (e : Entry P) : eventsOf [e] = e.events :=
  List.flatMap_singleton _ _

end Entry

def Event.call? : Event → Option Call
  | .call made => some made
  | _ => none

def Event.calls (events : List Event) : List Call :=
  events.filterMap call?

theorem Event.calls_append (first second : List Event) :
    calls (first ++ second) = calls first ++ calls second :=
  List.filterMap_append

theorem Event.mem_calls {made : Call} {events : List Event} :
    made ∈ calls events ↔ .call made ∈ events := by
  rw [calls, List.mem_filterMap]
  constructor
  · rintro ⟨event, member, same⟩
    cases event with
    | call other => exact Option.some.inj same ▸ member
    | _ => cases same
  · exact fun member => ⟨_, member, rfl⟩

def Entry.calls (e : Entry P) : List Call :=
  Event.calls e.events

namespace Connection

/-- Calls in order and then the drop, which reads no clock. -/
def history (c : Connection P) (s : P.State) : List (Turn P) → List (Entry P)
  | [] =>
    let run := c.discard s
    [⟨c, 0, none, .ok (), run.events, run.value⟩]
  | turn :: rest =>
    let run := c.carryOut turn.now turn.request (turn.meanwhile s)
    ⟨c, turn.now, some turn.request, run.value.1, run.events, run.value.2⟩ ::
      history run.value.2 run.state rest

/-- The attempt of whose owner the callbacks are kept is the one under way. -/
theorem Step.attempt {c left : Connection P} {now : Instant} {request : Option Request}
    {result : Except Error Unit} {es : List Event} (h : c.Step now request result es left)
    (sound : c.Sound) :
    left.listener.map (·.ticket) =
      Entry.attemptAfter ⟨c, now, request, result, es, left⟩ (c.listener.map (·.ticket)) := by
  cases h with
  | startRejected live => rfl
  | lookupRefused idle e => rfl
  | starts idle lookup => rfl
  | closeIgnored idle => rfl
  | closes live => rfl
  | sendRejected unopened => rfl
  | sendUnaffordable opened size => rfl
  | queues opened => rfl
  | rests still => rfl
  | opens owner opened => rw [opened.listener owner, owner]; rfl
  | transfers owner phase transferred => rw [transferred.listener]; rfl
  | ignores => rfl
  | vanishes idle => rw [sound.unowned idle]; rfl
  | abandons live => rfl

/-- Calls one after the other, each a step from where the one before it ended. -/
inductive Linked : Connection P → List (Entry P) → Connection P → Prop
  | nil (c : Connection P) : Linked c [] c
  | cons {c middle last : Connection P} {now : Instant} {request : Option Request}
      {result : Except Error Unit} {events : List Event} {rest : List (Entry P)}
      (step : c.Step now request result events middle) (later : Linked middle rest last) :
      Linked c (⟨c, now, request, result, events, middle⟩ :: rest) last

namespace Linked

variable {c middle last : Connection P} {first second : List (Entry P)}

theorem sound (h : Linked c first last) (start : c.Sound) : last.Sound := by
  induction h with
  | nil c => exact start
  | cons step later ih => exact ih (step.sound start)

theorem config (h : Linked c first last) : last.config = c.config := by
  induction h with
  | nil c => rfl
  | cons step later ih => rw [ih, step.config]

theorem append (h : Linked c first middle) (more : Linked middle second last) :
    Linked c (first ++ second) last := by
  induction h with
  | nil c => exact more
  | cons step later ih => exact .cons step (ih more)

theorem split (h : Linked c (first ++ second) last) :
    ∃ middle, Linked c first middle ∧ Linked middle second last := by
  induction first generalizing c with
  | nil => exact ⟨c, .nil c, h⟩
  | cons e rest ih =>
      cases h with
      | cons step later =>
          obtain ⟨middle, before, after⟩ := ih later
          exact ⟨middle, .cons step before, after⟩

/-- The call at one place, with what came before and after it. -/
theorem at_ {e : Entry P} (h : Linked c (first ++ e :: second) last) :
    Linked c first e.before ∧ e.before.Step e.now e.request e.result e.events e.after ∧
      Linked e.after second last := by
  obtain ⟨middle, before, after⟩ := h.split
  cases after with
  | cons step later => exact ⟨before, step, later⟩

theorem attempt (h : Linked c first last) (sound : c.Sound) :
    last.listener.map (·.ticket) =
      first.foldl (fun current e => e.attemptAfter current) (c.listener.map (·.ticket)) := by
  induction h with
  | nil c => rfl
  | cons step later ih => rw [List.foldl_cons, ← step.attempt sound, ih (step.sound sound)]

/-- What holds of every kind of event holds of all that calls show. -/
theorem all {p : Event → Bool} (h : Linked c first last) (covers : Event.Covers p)
    (read : ∀ room stored answer, p (.call (.read room stored answer)))
    (received : ∀ ticket bytes, p (.callback (.received ticket bytes))) :
    (Entry.eventsOf first).all p = true := by
  induction h with
  | nil c => rfl
  | cons step later ih =>
      rw [Entry.eventsOf, List.flatMap_cons, List.all_append, step.all covers read received]
      exact ih

theorem faultless (h : Linked c first last) : (Entry.eventsOf first).all Event.faultless = true :=
  h.all Event.covers_faultless (fun _ _ _ => rfl) fun _ _ => rfl

end Linked

theorem Step.closed {c left : Connection P} {now : Instant} {ticket : Ticket}
    {result : Except Error Unit} {es : List Event}
    (h : c.Step now (some (.close ticket)) result es left) : left.status = .notOpen := by
  cases h with
  | closeIgnored idle => exact idle
  | closes live => rfl

theorem Step.dropped {c left : Connection P} {now : Instant} {result : Except Error Unit}
    {es : List Event} (h : c.Step now none result es left) : left.status = .notOpen := by
  cases h with
  | vanishes idle => exact idle
  | abandons live => rfl

/-- A history is made of steps, the last of which is the drop. -/
theorem history_linked {c : Connection P} (sound : c.Sound) (s : P.State)
    (turns : List (Turn P)) :
    ∃ last, Linked c (c.history s turns) last ∧ last.status = .notOpen := by
  induction turns generalizing c s with
  | nil =>
      have step : c.Step 0 none _ _ _ := discard_step sound s
      exact ⟨_, .cons step (.nil _), step.dropped⟩
  | cons turn rest ih =>
      have step := carryOut_step sound turn.now turn.request (turn.meanwhile s)
      obtain ⟨last, later, gone⟩ := ih (step.sound sound) _
      exact ⟨last, .cons step later, gone⟩

/-- A call of a history is a step from where the calls before it have led. -/
theorem history_at {config : Config} {s : P.State} {turns : List (Turn P)}
    {past later : List (Entry P)} {e : Entry P}
    (split : (idle config : Connection P).history s turns = past ++ e :: later) :
    Linked (idle config) past e.before ∧
      e.before.Step e.now e.request e.result e.events e.after := by
  obtain ⟨last, linked, -⟩ := history_linked (sound_idle config) s turns
  rw [split] at linked
  obtain ⟨before, step, -⟩ := linked.at_
  exact ⟨before, step⟩

end Connection
end PolledTls
