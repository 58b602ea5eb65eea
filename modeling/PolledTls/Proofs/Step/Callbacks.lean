import PolledTls.Proofs.Step.Invariant
import PolledTls.Proofs.Step.Kinds

/-!
The callbacks among the events of a step. Polling the resources of a phase and giving them back is
quiet: nothing fires, nothing is written and no session is shut down.
-/
namespace PolledTls

variable {P : Platform}

namespace Event

/-- Whether an event fires nothing, writes nothing and shuts nothing down. -/
def quiet : Event → Bool
  | .callback _ | .call (.write ..) | .call .shutdown => false
  | _ => true

@[simp] theorem callbacks_nil : callbacks [] = [] := rfl

@[simp] theorem callbacks_append (first second : List Event) :
    callbacks (first ++ second) = callbacks first ++ callbacks second :=
  List.filterMap_append

@[simp] theorem callbacks_callback (fired : Callback) (rest : List Event) :
    callbacks (.callback fired :: rest) = fired :: callbacks rest := rfl

@[simp] theorem callbacks_call (call : Call) (rest : List Event) :
    callbacks (.call call :: rest) = callbacks rest := rfl

@[simp] theorem callbacks_log (event : LogEvent) (rest : List Event) :
    callbacks (.log event :: rest) = callbacks rest := rfl

theorem mem_callbacks {fired : Callback} {events : List Event} :
    fired ∈ callbacks events ↔ .callback fired ∈ events := by
  rw [callbacks, List.mem_filterMap]
  constructor
  · rintro ⟨event, member, same⟩
    cases event with
    | callback other => exact Option.some.inj same ▸ member
    | _ => cases same
  · exact fun member => ⟨_, member, rfl⟩

theorem callbacks_of_quiet {events : List Event} (silent : events.all quiet = true) :
    callbacks events = [] := by
  apply List.eq_nil_iff_forall_not_mem.mpr
  intro fired member
  cases List.all_eq_true.mp silent _ (mem_callbacks.mp member)

theorem quiet_of_setup (event : Event) (making : event.setup = true) : event.quiet = true := by
  unfold quiet
  split
  · cases making
  · cases making
  · cases making
  · rfl

theorem quiet_remarks (notices : List Notice) : (remarks notices).all quiet = true :=
  all_of_setup (setup_remarks notices) quiet_of_setup

@[simp] theorem callbacks_remarks (notices : List Notice) : callbacks (remarks notices) = [] :=
  callbacks_of_quiet (quiet_remarks notices)

theorem callbacks_map (fired : List Callback) :
    callbacks (fired.map .callback) = fired := by
  induction fired with
  | nil => rfl
  | cons first rest ih => exact congrArg (first :: ·) ih

/-- The completions of messages, as callbacks that fire. -/
theorem map_completion (messages : List Message) (result : Completion) :
    (messages.map fun m => .callback (m.completion result)) =
      (messages.map (·.completion result)).map callback :=
  List.map_map.symm

@[simp] theorem callbacks_completions (messages : List Message) (result : Completion) :
    callbacks (messages.map fun m => .callback (m.completion result)) =
      messages.map (·.completion result) := by
  rw [map_completion, callbacks_map]

end Event

theorem Dial.quiet_releases (dial : Dial P) : dial.releases.all Event.quiet = true :=
  Event.all_of_setup dial.setup_releases Event.quiet_of_setup

@[simp] theorem Channel.callbacks_releases : Event.callbacks releases = [] := rfl

namespace Phase

theorem quiet_releases (phase : Phase P) : phase.releases.all Event.quiet = true :=
  Event.all_of_setup phase.setup_releases Event.quiet_of_setup

theorem Polls.quiet {config : Config} {phase : Phase P} {es : List Event} {finding : Finding P}
    (h : phase.Polls config es finding) : es.all Event.quiet = true :=
  Event.all_of_setup h.setup Event.quiet_of_setup

theorem callbacks_partings (phase : Phase P) : Event.callbacks phase.partings = [] := by
  cases phase with
  | connecting dial => exact Event.callbacks_of_quiet dial.quiet_releases
  | _ => rfl

end Phase

namespace Connection

variable {c left : Connection P} {now : Instant} {ticket : Ticket} {es : List Event}

/-- How an attempt is settled by the status it is moved to. -/
def settlement : Status → Option Completion
  | .opened => some .ok
  | .failed => some .error
  | _ => none

theorem settlement_of_isOpening {status : Status} (opening : status.isOpening = true) :
    settlement status = none := by
  cases status <;> first | rfl | cases opening

/-- A poll of an opening connection fires the open completion exactly when it leaves the opening
phases. -/
theorem Opens.callbacks (h : c.Opens now ticket es left) :
    Event.callbacks es = (settlement left.status).toList.map (.opened ticket ·) := by
  cases h with
  | waits polled inTime =>
      rw [Event.callbacks_of_quiet polled.quiet, status,
        settlement_of_isOpening polled.waiting_isOpening]
      rfl
  | expires polled late =>
      rw [Event.callbacks_append, Event.callbacks_append, Event.callbacks_of_quiet polled.quiet,
        Event.callbacks_of_quiet (Phase.quiet_releases _)]
      rfl
  | moves polled =>
      rw [Event.callbacks_of_quiet polled.quiet, status,
        settlement_of_isOpening polled.moved_isOpening]
      rfl
  | breaks polled =>
      rw [Event.callbacks_append, Event.callbacks_of_quiet polled.quiet]
      rfl
  | completes polled =>
      rw [Event.callbacks_append, Event.callbacks_of_quiet polled.quiet]
      rfl

theorem Serves.callbacks {channel : Channel P} (h : c.Serves now ticket channel es left) :
    ∀ fired ∈ Event.callbacks es,
      (∃ t result, fired = .sent t result) ∨ ∃ e, fired = .failed ticket e := by
  cases h <;> simp

theorem Transfers.callbacks {channel : Channel P} (h : c.Transfers now ticket channel es left) :
    ∀ fired ∈ Event.callbacks es, (∃ bytes, fired = .received ticket bytes) ∨
      (∃ t result, fired = .sent t result) ∨ ∃ e, fired = .failed ticket e := by
  intro fired member
  cases h with
  | receives stored notices session some served =>
      simp only [Event.callbacks_append, Event.callbacks_call, Event.callbacks_remarks,
        Event.callbacks_log, Event.callbacks_callback, Event.callbacks_nil, List.nil_append,
        List.singleton_append, List.mem_cons] at member
      rcases member with rfl | later
      · exact .inl ⟨_, rfl⟩
      · exact .inr (served.callbacks fired later)
  | listens stored notices session stalled served =>
      simp only [Event.callbacks_append, Event.callbacks_call, Event.callbacks_remarks,
        List.nil_append] at member
      exact .inr (served.callbacks fired member)
  | breaks stored notices hard =>
      simp at member
      exact .inr (.inr ⟨_, member⟩)

theorem callbacks_farewell (c : Connection P) : Event.callbacks c.farewell =
    Event.callbacks c.cancellation ++ c.outbox.messages.map (·.completion .cancelled) := by
  simp [farewell, Phase.callbacks_partings]

end Connection
end PolledTls
