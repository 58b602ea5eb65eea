import Mathlib.Data.List.Destutter
import PolledTls.Proofs.Attempt
import PolledTls.Scripted

/-!
The course of a connection through its statuses. A poll takes it at most one step on, and each step
is marked in the log; an attempt comes to be open by no other way than through all that lies before,
and one that failed stays so to its end.
-/
namespace PolledTls

variable {P : Platform}

namespace Status

/-- Whether a poll may take a connection from the one status to the other. -/
def advances : Status → Status → Bool
  | .openingDns, .openingSocket | .openingSocket, .openingTls | .openingTls, .opened => true
  | .openingDns, .failed | .openingSocket, .failed | .openingTls, .failed | .opened, .failed => true
  | _, _ => false

/-- The way of an attempt that succeeds. -/
def ascent : List Status :=
  [.openingDns, .openingSocket, .openingTls, .opened]

theorem advances_failed {status : Status} (opening : status.isOpening = true) :
    status.advances .failed = true := by
  cases status <;> simp_all [isOpening, advances]

theorem ne_of_advances {before after : Status} (step : before.advances after = true) :
    after ≠ before := by
  rintro rfl
  cases after <;> cases step

/-- After a step that can still lead to being open, the rest of the way is one status shorter. -/
theorem ascent_of_advances {before after : Status} (step : before.advances after = true)
    (sound : after ≠ .failed) : ascent.dropWhile (· ≠ before) =
      before :: ascent.dropWhile (· ≠ after) := by
  cases before <;> cases after <;> simp_all [advances, ascent]

end Status

/-- The status that the connection has come to when it logs the event. -/
def LogEvent.reaches? : LogEvent → Option Status
  | .created .. | .closed .. => some .notOpen
  | .opening .. => some .openingDns
  | .connecting .. => some .openingSocket
  | .handshaking .. => some .openingTls
  | .opened .. => some .opened
  | .openFailed .. | .readFailed .. | .writeFailed .. => some .failed
  | _ => none

namespace Event

def reaches? : Event → Option Status
  | .log event => event.reaches?
  | _ => none

/-- The statuses come to among the events, as the log marks them. -/
def passed (events : List Event) : List Status :=
  events.filterMap reaches?

@[simp] theorem passed_nil : passed [] = [] := rfl

@[simp] theorem passed_cons (event : Event) (rest : List Event) :
    passed (event :: rest) = event.reaches?.toList ++ passed rest :=
  filterMap_cons _ _ _

@[simp] theorem passed_append (first second : List Event) :
    passed (first ++ second) = passed first ++ passed second :=
  List.filterMap_append

@[simp] theorem passed_remarks (notices : List Notice) : passed (remarks notices) = [] :=
  filterMap_remarks (fun _ => rfl) notices

end Event

namespace Entry

/-- The statuses that calls led to, each once for as long as it lasted. -/
def course (calls : List (Entry P)) : List Status :=
  (calls.map (·.after.status)).destutter (· ≠ ·)

/-- The statuses before and after each poll. -/
def polled (calls : List (Entry P)) : List (Status × Status) :=
  calls.filterMap fun e =>
    match e.request with
    | some .poll => some (e.before.status, e.after.status)
    | _ => none

end Entry

namespace Phase

theorem passed_releases (phase : Phase P) : Event.passed phase.releases = [] :=
  phase.filterMap_releases fun _ => rfl

namespace Polls

variable {config : Config} {before after : Phase P} {es : List Event}

theorem passed_waiting (h : before.Polls config es (.waiting after)) : Event.passed es = [] := by
  cases h <;> rfl

theorem passed_moved (h : before.Polls config es (.moved after)) :
    Event.passed es = [after.status] := by
  cases h with
  | resolved query somewhere socket => rfl
  | connected dial setup =>
      cases setup
      rfl

theorem passed_opened {channel : Channel P} (h : before.Polls config es (.opened channel)) :
    before.status = .openingTls ∧ Event.passed es = [] := by
  cases h
  exact ⟨rfl, rfl⟩

theorem passed_broken {e : Error} (h : before.Polls config es (.broken e)) :
    Event.passed es = [] := by
  cases h with
  | setupFailed dial setup => cases setup <;> rfl
  | _ => rfl

end Polls
end Phase

namespace Connection

variable {c left last : Connection P} {now : Instant} {ticket : Ticket} {es : List Event}
  {request : Option Request} {result : Except Error Unit} {calls : List (Entry P)}

/-- Nothing happened to the status, or one step that the log marks. -/
def StepsOnce (c left : Connection P) (es : List Event) : Prop :=
  left.status = c.status ∧ Event.passed es = [] ∨
    c.status.advances left.status = true ∧ Event.passed es = [left.status]

theorem Opens.stepsOnce (h : c.Opens now ticket es left) : c.StepsOnce left es := by
  cases h with
  | waits polled inTime => exact .inl ⟨polled.waiting.1, polled.passed_waiting⟩
  | expires polled late =>
      refine .inr ⟨Status.advances_failed polled.opening, ?_⟩
      simp [polled.passed_waiting, Phase.passed_releases, failure, Event.reaches?,
        LogEvent.reaches?, broken, status, Phase.status]
  | @moves _ phase polled =>
      refine .inr ⟨?_, polled.passed_moved⟩
      change c.phase.status.advances phase.status = true
      rcases polled.moved.1 with ⟨before, after⟩ | ⟨before, after⟩ <;> rw [before, after] <;> rfl
  | breaks polled =>
      refine .inr ⟨Status.advances_failed polled.opening, ?_⟩
      simp [polled.passed_broken, failure, Event.reaches?, LogEvent.reaches?, broken, status,
        Phase.status]
  | @completes _ channel polled =>
      obtain ⟨before, passed⟩ := polled.passed_opened
      refine .inr ⟨?_, ?_⟩
      · change c.phase.status.advances .opened = true
        rw [before]
        rfl
      · rw [Event.passed_append, passed]
        rfl

theorem Serves.stepsOnce {channel : Channel P} (h : c.Serves now ticket channel es left)
    (opened : c.status = .opened) : c.StepsOnce left es := by
  cases h with
  | breaks head inTime some notices hard =>
      refine .inr ⟨by rw [opened]; rfl, ?_⟩
      simp [Event.reaches?, LogEvent.reaches?, Channel.releases, status, Phase.status]
  | _ =>
      refine .inl ⟨by rw [opened]; rfl, ?_⟩
      simp [Event.reaches?, LogEvent.reaches?]

theorem Transfers.stepsOnce {channel : Channel P} (h : c.Transfers now ticket channel es left)
    (opened : c.status = .opened) : c.StepsOnce left es := by
  cases h with
  | receives stored notices session some served =>
      have once : c.StepsOnce left _ := served.stepsOnce opened
      simpa [StepsOnce, Event.reaches?, LogEvent.reaches?] using once
  | listens stored notices session stalled served =>
      have once : c.StepsOnce left _ := served.stepsOnce opened
      simpa [StepsOnce, Event.reaches?] using once
  | breaks stored notices hard =>
      refine .inr ⟨by rw [opened]; rfl, ?_⟩
      simp [Event.reaches?, LogEvent.reaches?, Channel.releases, status, Phase.status]

theorem Step.stepsOnce (h : c.Step now (some .poll) result es left) : c.StepsOnce left es := by
  cases h with
  | rests still => exact .inl ⟨rfl, rfl⟩
  | opens owner opened => exact opened.stepsOnce
  | transfers owner phase transferred =>
      exact transferred.stepsOnce (congrArg Phase.status phase)

/-- An open that is accepted is the only one to change the status. -/
theorem Step.of_start (h : c.Step now (some (.start ticket)) result es left) :
    result = .ok () ∧ c.status = .notOpen ∧ left.status = .openingDns ∨
      (∃ e, result = .error e) ∧ left.status = c.status := by
  cases h with
  | startRejected live => exact .inr ⟨⟨_, rfl⟩, rfl⟩
  | lookupRefused idle e => exact .inr ⟨⟨_, rfl⟩, rfl⟩
  | starts idle lookup => exact .inl ⟨rfl, idle, rfl⟩

theorem Step.of_send {bytes : List UInt8}
    (h : c.Step now (some (.send bytes ticket)) result es left) : left.status = c.status := by
  cases h <;> rfl

theorem Step.of_setOption {name : String} {value : Options.Value}
    (h : c.Step now (some (.setOption name value)) result es left) : left = c := by
  cases h
  rfl

theorem Step.opening_of_begins (h : c.Step now request result es left)
    (begins : Entry.begins ⟨c, now, request, result, es, left⟩ = true) :
    left.status = .openingDns := by
  cases h with
  | starts idle lookup => rfl
  | _ => cases begins

/-- What does not end an attempt leaves its status or takes it one step on. -/
theorem Step.of_goesOn (h : c.Step now request result es left) (live : c.status ≠ .notOpen)
    (goesOn : Entry.ends ⟨c, now, request, result, es, left⟩ = false) :
    left.status = c.status ∨ c.status.advances left.status = true := by
  cases h with
  | lookupRefused idle e => exact .inl rfl
  | starts idle lookup => exact absurd idle live
  | closes live | vanishes idle | abandons live => cases goesOn
  | opens owner opened => exact opened.stepsOnce.imp And.left And.left
  | transfers owner phase transferred =>
      exact (transferred.stepsOnce (congrArg Phase.status phase)).imp And.left And.left
  | _ => exact .inl rfl

theorem Step.live_of_goesOn (h : c.Step now request result es left) (live : c.status ≠ .notOpen)
    (goesOn : Entry.ends ⟨c, now, request, result, es, left⟩ = false) :
    left.status ≠ .notOpen := by
  rcases h.of_goesOn live goesOn with same | step
  · rw [same]
    exact live
  · intro idle
    rw [idle] at step
    cases before : c.status <;> rw [before] at step <;> cases step

/-! Any number of calls within an attempt. -/

theorem Linked.begins_of_goesOn (h : Linked c calls last) (live : c.status ≠ .notOpen)
    (goesOn : ∀ e ∈ calls, e.ends = false) : ∀ e ∈ calls, e.begins = false := by
  induction h with
  | nil c =>
      intro e member
      cases member
  | cons step later ih =>
      obtain ⟨first, rest⟩ := List.forall_mem_cons.mp goesOn
      refine List.forall_mem_cons.mpr ⟨?_, ih (step.live_of_goesOn live first) rest⟩
      rw [Bool.eq_false_iff]
      exact fun begins => live (step.idle_of_begins begins)

theorem Linked.failed (h : Linked c calls last) (failed : c.status = .failed)
    (goesOn : ∀ e ∈ calls, e.ends = false) :
    (∀ e ∈ calls, e.after.status = .failed) ∧ last.status = .failed := by
  induction h with
  | nil c =>
      refine ⟨?_, failed⟩
      intro e member
      cases member
  | @cons c middle last _ _ _ _ _ step later ih =>
      obtain ⟨first, rest⟩ := List.forall_mem_cons.mp goesOn
      have still : middle.status = .failed := by
        rcases step.of_goesOn (by rw [failed]; nofun) first with same | step
        · rw [same, failed]
        · rw [failed] at step
          cases step
      obtain ⟨others, end_⟩ := ih still rest
      exact ⟨List.forall_mem_cons.mpr ⟨still, others⟩, end_⟩

/-- Where the calls lead to an open connection, the statuses from the first on are the rest of the
way. -/
theorem Linked.ascent (h : Linked c calls last) (live : c.status ≠ .notOpen)
    (goesOn : ∀ e ∈ calls, e.ends = false) (opened : last.status = .opened) :
    (calls.map (·.after.status)).destutter' (· ≠ ·) c.status =
      Status.ascent.dropWhile (· ≠ c.status) := by
  induction h with
  | nil c =>
      rw [opened]
      rfl
  | @cons c middle last _ _ _ _ _ step later ih =>
      obtain ⟨first, rest⟩ := List.forall_mem_cons.mp goesOn
      have on := ih (step.live_of_goesOn live first) rest opened
      rw [List.map_cons]
      rcases step.of_goesOn live first with same | advance
      · rw [List.destutter'_cons_neg _ (by rw [same]; exact not_not.mpr rfl), ← same]
        exact on
      · have sound : middle.status ≠ .failed := by
          intro failed
          rw [(later.failed failed rest).2] at opened
          cases opened
        rw [List.destutter'_cons_pos _ (Status.ne_of_advances advance).symm, on,
          Status.ascent_of_advances advance sound]

/-- An open connection has come all the way since the open that began its attempt. -/
theorem course_of_opened {config : Config} {past : List (Entry P)}
    (h : Linked (idle config) past last) (opened : last.status = .opened) :
    ∃ earlier first work, past = earlier ++ first :: work ∧ first.begins = true ∧
      (∀ e ∈ work, e.begins = false ∧ e.ends = false) ∧
      Entry.course (first :: work) = Status.ascent := by
  have fresh : (idle config : Connection P).Sound := sound_idle config
  obtain ⟨ticket, owner⟩ := (h.sound fresh).listener (by rw [opened]; nofun)
  have under := h.attempt fresh
  rw [owner] at under
  rcases Entry.attempt_foldl under.symm with ⟨earlier, first, work, rfl, begins, goesOn⟩ | ⟨none, -⟩
  · obtain ⟨-, step, later⟩ := h.at_
    have started : first.after.status = .openingDns := step.opening_of_begins begins
    have live : first.after.status ≠ .notOpen := by rw [started]; nofun
    refine ⟨earlier, first, work, rfl, begins, ?_, ?_⟩
    · intro e member
      exact ⟨later.begins_of_goesOn live goesOn e member, goesOn e member⟩
    · rw [Entry.course, List.map_cons, List.destutter_cons', later.ascent live goesOn opened, started]
      rfl
  · cases none

/-- Each of the steps is taken: those of a way that succeeds until a read fails, and the failures on
the way. -/
theorem advances_taken {before after : Status} (step : before.advances after = true) :
    ∃ s : Script, (before, after) ∈ Entry.polled
      ((idle { host := "h", port := 1 } : Connection Script.platform).history s
        (⟨id, 0, .start 1⟩ :: List.replicate 4 ⟨id, 0, .poll⟩)) := by
  let reset := IoKind.connectionReset.error
  match before, after, step with
  | .openingDns, .openingSocket, _ | .openingSocket, .openingTls, _ | .openingTls, .opened, _ =>
      exact ⟨{}, by decide⟩
  | .openingDns, .failed, _ => exact ⟨{ result := [none] }, by decide⟩
  | .openingSocket, .failed, _ => exact ⟨{ pollConnect := [.error reset] }, by decide⟩
  | .openingTls, .failed, _ => exact ⟨{ handshake := [.error reset] }, by decide⟩
  | .opened, .failed, _ => exact ⟨{ read := [.error reset] }, by decide⟩

/-- In every history a poll leaves the status or takes it one step on, which the log marks; an open
changes the status exactly if it is accepted, and then from not open to the first of the opening
statuses; sends and options never change it, and a close ends in not open. So where a connection is
open, the statuses since the last accepted open are the opening ones in order and then open; and
where it has failed it stays failed until a close or the drop. No step is left out that can be
taken. -/
theorem statuses_in_order (config : Config) (s : P.State) (turns : List (Turn P)) :
    let calls := (idle config : Connection P).history s turns
    (∀ e ∈ calls,
      (e.request = some .poll → e.before.StepsOnce e.after e.events) ∧
      (∀ ticket, e.request = some (.start ticket) →
        (e.after.status ≠ e.before.status ↔ e.result = .ok ()) ∧
        (e.result = .ok () → e.before.status = .notOpen ∧ e.after.status = .openingDns)) ∧
      (∀ ticket, e.request = some (.close ticket) → e.after.status = .notOpen) ∧
      (∀ bytes ticket, e.request = some (.send bytes ticket) →
        e.after.status = e.before.status) ∧
      ∀ name value, e.request = some (.setOption name value) →
        e.after.status = e.before.status) ∧
    (∀ past e later, calls = past ++ e :: later → e.after.status = .opened →
      ∃ earlier first work, past ++ [e] = earlier ++ first :: work ∧ first.begins = true ∧
        (∀ w ∈ work, w.begins = false ∧ w.ends = false) ∧
        Entry.course (first :: work) = [.openingDns, .openingSocket, .openingTls, .opened]) ∧
    (∀ past e work later, calls = past ++ e :: (work ++ later) → e.after.status = .failed →
      (∀ w ∈ work, w.ends = false) → ∀ w ∈ work, w.after.status = .failed) ∧
    ∀ before after : Status, before.advances after = true →
      ∃ s : Script, (before, after) ∈ Entry.polled
        ((idle { host := "h", port := 1 } : Connection Script.platform).history s
          (⟨id, 0, .start 1⟩ :: List.replicate 4 ⟨id, 0, .poll⟩)) := by
  intro calls
  obtain ⟨last, linked, -⟩ := history_linked (sound_idle config) s turns
  refine ⟨?_, ?_, ?_, fun before after step => advances_taken step⟩
  · intro e member
    obtain ⟨past, later, split⟩ := List.append_of_mem member
    obtain ⟨-, step⟩ := history_at split
    refine ⟨?_, ?_, ?_, ?_, ?_⟩
    · intro asked
      rw [asked] at step
      exact step.stepsOnce
    · intro ticket asked
      rw [asked] at step
      rcases step.of_start with ⟨ok, idle, opening⟩ | ⟨⟨error, refused⟩, same⟩
      · refine ⟨iff_of_true ?_ ok, fun _ => ⟨idle, opening⟩⟩
        rw [idle, opening]
        nofun
      · rw [refused]
        exact ⟨iff_of_false (not_not.mpr same) nofun, nofun⟩
    · intro ticket asked
      rw [asked] at step
      exact step.closed
    · intro bytes ticket asked
      rw [asked] at step
      exact step.of_send
    · intro name value asked
      rw [asked] at step
      rw [step.of_setOption]
  · intro past e later split opened
    obtain ⟨before, step⟩ := history_at split
    exact course_of_opened (before.append (.cons step (.nil _))) opened
  · intro past e work later split failed goesOn
    have linked : Linked (idle config : Connection P) (past ++ e :: (work ++ later)) last :=
      split ▸ linked
    obtain ⟨-, -, rest⟩ := linked.at_
    obtain ⟨middle, within, -⟩ := rest.split
    exact (within.failed failed goesOn).1

/-- A connection that failed while handshaking and was opened again: open has been come to by the
whole way, of which the first attempt is no part. -/
example :
    let s : Script := { handshake := [.error IoKind.connectionReset.error] }
    let polls := List.replicate 4 ⟨id, 0, .poll⟩
    let calls := (idle { host := "h", port := 1 } : Connection Script.platform).history s
      (⟨id, 0, .start 1⟩ :: polls ++ ⟨id, 0, .close 2⟩ :: ⟨id, 0, .start 3⟩ :: polls)
    Entry.course calls =
      [.openingDns, .openingSocket, .openingTls, .failed, .notOpen, .openingDns, .openingSocket,
        .openingTls, .opened, .notOpen] := by
  decide

end Connection
end PolledTls
