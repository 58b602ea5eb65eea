import PolledTls.Proofs.Step

/-!
The kinds of events the calls on a connection are made of. What holds of every event of these kinds
holds of all that a call shows, so it is looked at once for each kind and not once for each case.
-/
namespace PolledTls

variable {P : Platform} {p : Event → Bool}

namespace Event

/-- Whether an event is part of making or of giving back what an attempt owns: nothing fires, and
no session is read, written or shut down. -/
def setup : Event → Bool
  | .call (.read ..) | .call (.write ..) | .call .shutdown | .callback _ | .fault _ => false
  | _ => true

theorem all_of_setup {events : List Event} (making : events.all setup = true)
    (each : ∀ event, setup event = true → p event = true) : events.all p = true := by
  apply List.all_eq_true.mpr
  intro event member
  exact each event (List.all_eq_true.mp making event member)

theorem setup_remarks (notices : List Notice) : (remarks notices).all setup = true := by
  induction notices with
  | nil => rfl
  | cons notice rest ih => exact ih

/-- What is gathered from the events, one event at a time. -/
theorem filterMap_cons {α : Type} (part : Event → Option α) (event : Event) (rest : List Event) :
    (event :: rest).filterMap part = (part event).toList ++ rest.filterMap part := by
  rw [List.filterMap_cons]
  cases part event <;> rfl

theorem filterMap_remarks {α : Type} {part : Event → Option α}
    (silent : ∀ notice, part (.log (.notice notice)) = none) (notices : List Notice) :
    (remarks notices).filterMap part = [] := by
  apply List.filterMap_eq_nil_iff.mpr
  intro event member
  obtain ⟨notice, -, rfl⟩ := List.mem_map.mp member
  exact silent notice

@[simp] theorem call_not_mem_remarks (made : Call) (notices : List Notice) :
    .call made ∉ remarks notices := by
  simp [remarks]

/-- A property of all that is seen outside the polls of an open connection. -/
structure Spans (p : Event → Bool) : Prop where
  setup : ∀ event, Event.setup event = true → p event = true
  opened : ∀ ticket result, p (.callback (.opened ticket result)) = true
  sent : ∀ ticket result, p (.callback (.sent ticket result)) = true
  closed : ∀ ticket, p (.callback (.closed ticket)) = true
  shutdown : p (.call .shutdown) = true

/-- A property of all events but those of a poll that reads. -/
structure Covers (p : Event → Bool) : Prop extends Spans p where
  failed : ∀ ticket error, p (.callback (.failed ticket error)) = true
  write : ∀ offered answer, p (.call (.write offered answer)) = true

/-- Nothing is gathered from what a teardown shows before its line in the log. -/
structure Skips {α : Type} (part : Event → Option α) : Prop where
  release : ∀ resource, part (.release resource) = none
  shutdown : part (.call .shutdown) = none
  told : ∀ serverName, part (.log (.shutDown serverName)) = none
  opened : ∀ ticket result, part (.callback (.opened ticket result)) = none
  sent : ∀ ticket result, part (.callback (.sent ticket result)) = none

/-- Whether an event leaves the connection's own rules unbroken. -/
def faultless : Event → Bool
  | .fault _ => false
  | _ => true

theorem covers_faultless : Covers faultless where
  setup event making := by
    cases event with
    | fault fault => cases making
    | _ => rfl
  opened _ _ := rfl
  sent _ _ := rfl
  failed _ _ := rfl
  closed _ := rfl
  write _ _ := rfl
  shutdown := rfl

theorem Spans.log (spans : Spans p) (event : LogEvent) : p (.log event) = true :=
  spans.setup _ rfl

theorem Spans.release (spans : Spans p) (resource : Resource) : p (.release resource) = true :=
  spans.setup _ rfl

theorem Spans.remarks (spans : Spans p) (notices : List Notice) :
    (Event.remarks notices).all p = true :=
  all_of_setup (setup_remarks notices) spans.setup

end Event

theorem Dial.setup_releases (dial : Dial P) : dial.releases.all Event.setup = true := by
  rw [releases]
  split <;> rfl

namespace Phase

theorem setup_releases (phase : Phase P) : phase.releases.all Event.setup = true := by
  cases phase with
  | connecting dial => exact dial.setup_releases
  | _ => rfl

theorem filterMap_releases {α : Type} {part : Event → Option α} (phase : Phase P)
    (silent : ∀ resource, part (.release resource) = none) :
    phase.releases.filterMap part = [] := by
  cases phase with
  | connecting dial =>
      rw [releases, Dial.releases]
      split <;> simp [silent]
  | _ => simp [releases, Channel.releases, silent]

theorem filterMap_partings {α : Type} {part : Event → Option α} (phase : Phase P)
    (skips : Event.Skips part) : phase.partings.filterMap part = [] := by
  cases phase with
  | handshaking channel | opened channel =>
      simp [partings, Channel.releases, skips.shutdown, skips.told, skips.release]
  | connecting dial => exact filterMap_releases (.connecting dial) skips.release
  | resolving query => exact filterMap_releases (.resolving query) skips.release
  | notOpen | failed => rfl

theorem Polls.setup {config : Config} {phase : Phase P} {es : List Event} {finding : Finding P}
    (h : phase.Polls config es finding) : es.all Event.setup = true := by
  cases h with
  | setupFailed dial setup => cases setup <;> rfl
  | connected dial setup => cases setup; rfl
  | _ => rfl

theorem all_partings (phase : Phase P) (spans : Event.Spans p) :
    phase.partings.all p = true := by
  cases phase with
  | handshaking channel | opened channel =>
      rw [partings, List.all_cons, spans.shutdown, Bool.true_and]
      exact Event.all_of_setup rfl spans.setup
  | connecting dial => exact Event.all_of_setup dial.setup_releases spans.setup
  | notOpen | resolving query | failed => exact Event.all_of_setup rfl spans.setup

end Phase

namespace Connection

variable {c left : Connection P} {now : Instant} {ticket : Ticket} {es : List Event}
  {request : Option Request} {result : Except Error Unit}

theorem Opens.all (h : c.Opens now ticket es left) (spans : Event.Spans p) :
    es.all p = true := by
  have made {events : List Event} (making : events.all Event.setup = true) : events.all p = true :=
    Event.all_of_setup making spans.setup
  cases h with
  | waits polled inTime => exact made polled.setup
  | expires polled late =>
      rw [List.all_append, List.all_append, made polled.setup, made (Phase.setup_releases _)]
      simp [failure, spans.log, spans.opened]
  | moves polled => exact made polled.setup
  | breaks polled =>
      rw [List.all_append, made polled.setup]
      simp [failure, spans.log, spans.opened]
  | completes polled =>
      rw [List.all_append, made polled.setup]
      simp [spans.log, spans.opened]

theorem Serves.all {channel : Channel P} (h : c.Serves now ticket channel es left)
    (covers : Event.Covers p) : es.all p = true := by
  cases h <;>
    simp [covers.log, covers.release, covers.remarks, covers.sent, covers.failed, covers.write,
      Channel.releases]

theorem Transfers.all {channel : Channel P} (h : c.Transfers now ticket channel es left)
    (covers : Event.Covers p) (read : ∀ room stored answer, p (.call (.read room stored answer)))
    (received : ∀ t bytes, p (.callback (.received t bytes))) : es.all p = true := by
  cases h with
  | receives stored notices session some served =>
      simp [read, covers.remarks, covers.log, received, served.all covers]
  | listens stored notices session stalled served =>
      simp [read, covers.remarks, served.all covers]
  | breaks stored notices hard =>
      simp [read, covers.remarks, covers.release, covers.log, covers.failed, Channel.releases]

theorem all_farewell (c : Connection P) (spans : Event.Spans p) : c.farewell.all p = true := by
  have settled : c.cancellation.all p = true := by
    unfold cancellation
    split
    · simp [spans.opened]
    · rfl
  simp [farewell, settled, c.phase.all_partings spans, spans.log, Message.completion, spans.sent]

/-- Of a teardown only its line in the log is gathered. -/
theorem filterMap_farewell {α : Type} {part : Event → Option α} (c : Connection P)
    (skips : Event.Skips part) : c.farewell.filterMap part =
      (part (.log (.closed c.host c.outbox.size))).toList := by
  have settled : c.cancellation.filterMap part = [] := by
    unfold cancellation
    split
    · simp [skips.opened]
    · rfl
  have drained : (c.outbox.messages.map fun m =>
      Event.callback (m.completion .cancelled)).filterMap part = [] := by
    simp [Message.completion, skips.sent]
  rw [farewell, List.filterMap_append, List.filterMap_append, List.filterMap_append, settled,
    c.phase.filterMap_partings skips, drained, Event.filterMap_cons]
  exact List.append_nil _

/-- Either a call polls an open connection, or it shows nothing that only such a poll shows. -/
theorem Step.transfers_or_spans (h : c.Step now request result es left) :
    (∃ ticket channel, request = some .poll ∧ c.listener = some ⟨ticket, false⟩ ∧
      c.phase = .opened channel ∧ c.Transfers now ticket channel es left) ∨
    ∀ p, Event.Spans p → es.all p = true := by
  cases h with
  | transfers owner phase transferred => exact .inl ⟨_, _, rfl, owner, phase, transferred⟩
  | opens owner opened => exact .inr fun p spans => opened.all spans
  | closes live =>
      refine .inr fun p spans => ?_
      simp [c.all_farewell spans, spans.closed]
  | abandons live =>
      refine .inr fun p spans => ?_
      simp [c.all_farewell spans, spans.log]
  | lookupRefused idle e | starts idle lookup =>
      refine .inr fun p spans => ?_
      have asked (answer : Except Error Unit) : p (.call (.beginLookup c.host answer)) = true :=
        spans.setup _ rfl
      simp [asked, spans.log, spans.opened]
  | _ =>
      refine .inr fun p spans => ?_
      simp [spans.log, spans.opened, spans.closed]

theorem Step.all (h : c.Step now request result es left) (covers : Event.Covers p)
    (read : ∀ room stored answer, p (.call (.read room stored answer)))
    (received : ∀ t bytes, p (.callback (.received t bytes))) : es.all p = true := by
  rcases h.transfers_or_spans with ⟨ticket, channel, -, -, -, transferred⟩ | spans
  · exact transferred.all covers read received
  · exact spans p covers.toSpans

end Connection
end PolledTls
