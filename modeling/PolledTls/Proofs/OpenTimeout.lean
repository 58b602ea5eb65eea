import PolledTls.Proofs.Attempt
import PolledTls.Scripted

/-!
The one deadline of an attempt. It runs from the open that began the attempt, through all of its
phases, and it counts only where the phase polled was not ready: whatever answers is never late.
-/
namespace PolledTls

variable {P : Platform}

namespace Deadline

/-- There always is the difference that is taken. -/
theorem elapsed_checked (deadline : Deadline) (now : Instant) :
    deadline.elapsed? now = some (deadline.elapsed now) := by
  rw [elapsed_eq, elapsed?_eq]

theorem elapsed_le (deadline : Deadline) (now : Instant) : deadline.elapsed now ≤ now := by
  rw [elapsed_eq]
  exact Nat.sub_le now deadline.started

theorem late_iff {started now : Instant} {window : Duration} :
    window < elapsed ⟨started, window⟩ now ↔ started < now ∧ window < now - started := by
  have begun : window < now - started → started < now := by
    intro late
    exact Nat.lt_of_sub_pos (Nat.lt_of_le_of_lt (Nat.zero_le window) late)
  rw [elapsed_eq]
  exact ⟨fun late => ⟨begun late, late⟩, And.right⟩

end Deadline

namespace Call

/-- The opening status whose wait the call asks about. -/
def polls : Call → Option Status
  | .isComplete _ => some .openingDns
  | .pollConnect _ => some .openingSocket
  | .handshake _ => some .openingTls
  | _ => none

/-- Whether the answer is to ask again later. -/
def notReady : Call → Bool
  | .isComplete complete => !complete
  | .pollConnect (.ok connected) => !connected
  | .handshake (.error e) => e.kind.isNotReady
  | _ => false

end Call

def Error.openTimeout? : Error → Option (Status × Duration)
  | .openTimeout status elapsed => some (status, elapsed)
  | _ => none

namespace Error

@[simp] theorem openTimeout?_asDns (e : Error) : e.asDns.openTimeout? = none := by
  cases e <;> rfl

@[simp] theorem openTimeout?_asConnect (e : Error) : e.asConnect.openTimeout? = none := by
  cases e <;> rfl

@[simp] theorem openTimeout?_asTls (e : Error) (step : String) :
    (e.asTls step).openTimeout? = none := by
  cases e <;> rfl

end Error

namespace Event

/-- The error that the connection reports with the event. -/
def error? : Event → Option Error
  | .log (.lookupRefused _ e) | .log (.openFailed _ _ e) | .log (.sendTimedOut _ e)
  | .log (.readFailed _ e) | .log (.writeFailed _ e) | .callback (.failed _ e) => some e
  | _ => none

/-- The timeouts of opens among the errors that are reported: the status and the time gone by. -/
def openTimeouts (events : List Event) : List (Status × Duration) :=
  (events.filterMap error?).filterMap Error.openTimeout?

theorem openTimeouts_eq (events : List Event) :
    openTimeouts events = events.filterMap fun event => event.error?.bind Error.openTimeout? :=
  List.filterMap_filterMap

@[simp] theorem openTimeouts_nil : openTimeouts [] = [] := rfl

@[simp] theorem openTimeouts_cons (event : Event) (rest : List Event) :
    openTimeouts (event :: rest) =
      (event.error?.bind Error.openTimeout?).toList ++ openTimeouts rest := by
  rw [openTimeouts_eq, openTimeouts_eq, filterMap_cons]

@[simp] theorem openTimeouts_append (first second : List Event) :
    openTimeouts (first ++ second) = openTimeouts first ++ openTimeouts second := by
  rw [openTimeouts, List.filterMap_append, List.filterMap_append]
  rfl

@[simp] theorem openTimeouts_remarks (notices : List Notice) :
    openTimeouts (remarks notices) = [] :=
  (openTimeouts_eq _).trans (filterMap_remarks (fun _ => rfl) notices)

end Event

/-- The reading of the clock at the open that began the last attempt. -/
def Entry.openedAt (calls : List (Entry P)) : Option Instant :=
  calls.foldl (fun opened e => if e.begins then some e.now else opened) none

def Entry.openTimeouts (e : Entry P) : List (Status × Duration) :=
  Event.openTimeouts e.events

/-! The phases. -/

def Finding.waits : Finding P → Bool
  | .waiting _ => true
  | _ => false

namespace Phase

theorem openTimeouts_releases (phase : Phase P) : Event.openTimeouts phase.releases = [] :=
  (Event.openTimeouts_eq _).trans (phase.filterMap_releases fun _ => rfl)

namespace Polls

variable {config : Config} {phase : Phase P} {es : List Event} {finding : Finding P}

/-- A phase is polled with a call of its own, and waits exactly if that was not ready. -/
theorem polled (h : phase.Polls config es finding) :
    ∃ polled rest, Event.calls es = polled :: rest ∧ polled.polls = some phase.status ∧
      polled.notReady = finding.waits := by
  cases h with
  | handshakePending channel session notReady => exact ⟨_, _, rfl, rfl, notReady⟩
  | handshakeFailed channel hard => exact ⟨_, _, rfl, rfl, hard⟩
  | _ => exact ⟨_, _, rfl, rfl, rfl⟩

theorem openTimeouts (h : phase.Polls config es finding) : Event.openTimeouts es = [] := by
  cases h with
  | setupFailed dial setup => cases setup <;> rfl
  | connected dial setup =>
      cases setup
      rfl
  | _ => rfl

theorem openTimeout?_broken {e : Error} (h : phase.Polls config es (.broken e)) :
    e.openTimeout? = none := by
  cases h with
  | connectRefused query somewhere e => exact e.openTimeout?_asConnect
  | setupFailed dial setup => cases setup <;> exact Error.openTimeout?_asTls _ _
  | _ => rfl

end Polls
end Phase

namespace Connection

variable {c left last : Connection P} {now : Instant} {ticket : Ticket} {es : List Event}
  {request : Option Request} {result : Except Error Unit} {calls : List (Entry P)}
  {opened : Option Instant}

/-! The deadline is that of the open. -/

/-- As long as it opens, the connection has the deadline of an open at that reading of the clock. -/
def ArmedAt (c : Connection P) (opened : Option Instant) : Prop :=
  c.status.isOpening = true →
    ∃ began, opened = some began ∧ c.openDeadline = some ⟨began, c.config.operationTimeout⟩

theorem Opens.openDeadline (h : c.Opens now ticket es left)
    (opening : left.status.isOpening = true) : left.openDeadline = c.openDeadline := by
  cases h with
  | waits polled inTime | moves polled => rfl
  | expires polled late | breaks polled | completes polled => cases opening

theorem Step.armedAt (h : c.Step now request result es left) (sound : c.Sound)
    (armed : c.ArmedAt opened) :
    left.ArmedAt
      (if Entry.begins ⟨c, now, request, result, es, left⟩ then some now else opened) := by
  have kept := h.sound sound
  cases h with
  | starts idle lookup =>
      intro _
      exact ⟨now, rfl, rfl⟩
  | closes live | abandons live =>
      intro opening
      cases opening
  | opens owner polled =>
      intro opening
      obtain ⟨began, at_, deadline⟩ := armed polled.opening
      rw [polled.openDeadline opening, polled.config]
      exact ⟨began, at_, deadline⟩
  | transfers owner phase transferred =>
      intro opening
      have decided := kept.awaiting _ (transferred.listener.trans owner)
      rw [opening] at decided
      cases decided
  | _ => exact armed

theorem Linked.armedAt (h : Linked c calls last) (sound : c.Sound) (armed : c.ArmedAt opened) :
    last.ArmedAt (calls.foldl (fun opened e => if e.begins then some e.now else opened) opened) := by
  induction h generalizing opened with
  | nil c => exact armed
  | cons step later ih => exact ih (step.sound sound) (step.armedAt sound armed)

/-! Where an open can time out. -/

theorem Step.of_opening_poll (h : c.Step now (some .poll) result es left)
    (opening : c.status.isOpening = true) : ∃ ticket, c.Opens now ticket es left := by
  cases h with
  | rests still => rcases still with idle | failed <;> simp_all [Status.isOpening]
  | opens owner polled => exact ⟨_, polled⟩
  | transfers owner phase transferred =>
      simp [status, phase, Phase.status, Status.isOpening] at opening

/-- A poll of an opening phase reports a timeout exactly if the phase waits and the deadline has
passed, and fails the connection with it. -/
theorem Opens.found (h : c.Opens now ticket es left) {deadline : Deadline}
    (armed : c.openDeadline = some deadline) :
    ∃ finding first more, c.phase.Polls c.config first finding ∧ es = first ++ more ∧
      Event.openTimeouts more =
        (if finding.waits = true ∧ deadline.window < deadline.elapsed now then
          [(c.status, deadline.elapsed now)] else []) ∧
      (Event.openTimeouts more ≠ [] → left.status = .failed) := by
  have passed : c.openDeadline.bind (·.passed? now) = deadline.passed? now := by rw [armed]; rfl
  cases h with
  | waits polled inTime =>
      rw [passed, Deadline.passed?_eq_none_iff] at inTime
      refine ⟨_, _, [], polled, (List.append_nil _).symm, ?_, fun some => absurd rfl some⟩
      rw [if_neg (fun late => Nat.not_lt.mpr inTime late.2)]
      rfl
  | @expires _ phase elapsed polled late =>
      rw [passed, Deadline.passed?_eq_some_iff] at late
      obtain ⟨rfl, late⟩ := late
      refine ⟨_, _, _, polled, List.append_assoc _ _ _, ?_, fun _ => rfl⟩
      rw [if_pos ⟨rfl, late⟩, Event.openTimeouts_append, phase.openTimeouts_releases]
      rfl
  | moves polled =>
      exact ⟨_, _, [], polled, (List.append_nil _).symm, rfl, fun some => absurd rfl some⟩
  | breaks polled =>
      refine ⟨_, _, _, polled, rfl, ?_, fun _ => rfl⟩
      simp [failure, Event.error?, polled.openTimeout?_broken, Finding.waits]
  | completes polled => exact ⟨_, _, _, polled, rfl, rfl, fun some => absurd rfl some⟩

/-- The same in terms of the call that polls the phase and of the readings of the clock. -/
theorem Opens.timed_out (h : c.Opens now ticket es left) {began : Instant} {window : Duration}
    (armed : c.openDeadline = some ⟨began, window⟩) :
    ∃ polled rest, Event.calls es = polled :: rest ∧ polled.polls = some c.status ∧
      Event.openTimeouts es =
        (if polled.notReady = true ∧ began < now ∧ window < now - began then
          [(c.status, now - began)] else []) ∧
      (Event.openTimeouts es ≠ [] → left.status = .failed) := by
  obtain ⟨finding, first, more, polls, rfl, timeouts, failed⟩ := h.found armed
  obtain ⟨polled, rest, made, asks, waits⟩ := polls.polled
  have shown : Event.openTimeouts (first ++ more) = Event.openTimeouts more := by
    rw [Event.openTimeouts_append, polls.openTimeouts]
    rfl
  refine ⟨polled, rest ++ Event.calls more, ?_, asks, ?_, ?_⟩
  · rw [Event.calls_append, made]
    rfl
  · rw [shown, timeouts, waits]
    simp only [Deadline.late_iff]
    rw [Deadline.elapsed_eq]
  · rw [shown]
    exact failed

theorem Serves.openTimeouts {channel : Channel P} (h : c.Serves now ticket channel es left) :
    Event.openTimeouts es = [] := by
  cases h <;> simp [Event.error?, Error.openTimeout?, Channel.releases]

theorem Transfers.openTimeouts {channel : Channel P} (h : c.Transfers now ticket channel es left) :
    Event.openTimeouts es = [] := by
  cases h with
  | receives stored notices session some served | listens stored notices session stalled served =>
      simp [Event.error?, served.openTimeouts]
  | breaks stored notices hard => simp [Event.error?, Error.openTimeout?, Channel.releases]

theorem openTimeouts_farewell (c : Connection P) : Event.openTimeouts c.farewell = [] := by
  rw [Event.openTimeouts_eq, c.filterMap_farewell
    ⟨fun _ => rfl, rfl, fun _ => rfl, fun _ _ => rfl, fun _ _ => rfl⟩]
  rfl

/-- Only a poll of an opening phase reports a timeout. -/
theorem Step.openTimeouts (h : c.Step now request result es left)
    (other : request ≠ some .poll ∨ c.status.isOpening = false) : Event.openTimeouts es = [] := by
  cases h with
  | lookupRefused idle e => simp [Event.error?]
  | closes live | abandons live => simp [c.openTimeouts_farewell, Event.error?]
  | opens owner polled =>
      rcases other with unpolled | settled
      · exact absurd rfl unpolled
      · rw [polled.opening] at settled
        cases settled
  | transfers owner phase transferred => exact transferred.openTimeouts
  | _ => rfl

/-- For every history, with any clock and any window. A poll in an opening status first asks for what
this status waits for. It fails the connection with a timeout exactly if that was not ready and the
clock reads later than at the open that began the attempt, by more than the window; the timeout
carries the status and the difference of the readings. The deadline is that of the open in all of the
opening statuses, and no other call reports a timeout. No difference is taken where there is none,
and the elapsed time is never longer than what the clock reads. -/
theorem open_times_out (config : Config) (s : P.State) (turns : List (Turn P)) :
    let calls := (idle config : Connection P).history s turns
    (∀ past e later, calls = past ++ e :: later → e.request = some .poll →
      e.before.status.isOpening = true →
      ∃ began polled rest, Entry.openedAt past = some began ∧
        e.before.openDeadline = some ⟨began, config.operationTimeout⟩ ∧
        e.calls = polled :: rest ∧ polled.polls = some e.before.status ∧
        e.openTimeouts =
          (if polled.notReady = true ∧ began < e.now ∧ config.operationTimeout < e.now - began then
            [(e.before.status, e.now - began)] else []) ∧
        (e.openTimeouts ≠ [] → e.after.status = .failed) ∧
        (e.after.status.isOpening = true → e.after.openDeadline = e.before.openDeadline)) ∧
    (∀ e ∈ calls, e.request ≠ some .poll ∨ e.before.status.isOpening = false →
      e.openTimeouts = []) ∧
    ∀ (deadline : Deadline) (now : Instant),
      deadline.elapsed? now = some (deadline.elapsed now) ∧ deadline.elapsed now ≤ now := by
  intro calls
  refine ⟨?_, ?_, fun deadline now => ⟨deadline.elapsed_checked now, deadline.elapsed_le now⟩⟩
  · intro past e later split asked opening
    obtain ⟨before, step⟩ := history_at split
    have armed : (idle config : Connection P).ArmedAt none := nofun
    obtain ⟨began, at_, deadline⟩ := before.armedAt (sound_idle config) armed opening
    have same : e.before.config = config := before.config
    rw [same] at deadline
    rw [asked] at step
    obtain ⟨ticket, opens⟩ := step.of_opening_poll opening
    obtain ⟨polled, rest, made, asks, timeouts, failed⟩ := opens.timed_out deadline
    exact ⟨began, polled, rest, at_, deadline, made, asks, timeouts, failed, opens.openDeadline⟩
  · intro e member other
    obtain ⟨past, later, split⟩ := List.append_of_mem member
    obtain ⟨-, step⟩ := history_at split
    exact step.openTimeouts other

/-- Opened at 10 with a window of 5. At 15 the deadline has not passed; the lookup is done at 30,
which is never too late; the connect, still pending at 8 and then at 16, has waited for too long. -/
example :
    let config : Config := { host := "h", port := 1, operationTimeout := 5 }
    let s : Script := { isComplete := [false, true], pollConnect := [.ok false, .ok false] }
    let calls := (idle config : Connection Script.platform).history s
      [⟨id, 10, .start 1⟩, ⟨id, 15, .poll⟩, ⟨id, 30, .poll⟩, ⟨id, 8, .poll⟩, ⟨id, 16, .poll⟩]
    calls.map (·.openTimeouts) = [[], [], [], [], [(.openingSocket, 6)], []] := by
  decide

end Connection
end PolledTls
