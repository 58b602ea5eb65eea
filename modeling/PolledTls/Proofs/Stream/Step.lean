import PolledTls.Proofs.History
import PolledTls.Proofs.Step.Callbacks
import PolledTls.Proofs.Stream.Flow

/-!
Every step of a connection keeps the flow of its messages.
-/
namespace PolledTls

variable {P : Platform}

namespace Entry

def message (e : Entry P) : List (List UInt8) :=
  match e.request, e.result with
  | some (.send bytes _), .ok () => [bytes]
  | _, _ => []

def messages (calls : List (Entry P)) : List (List UInt8) :=
  calls.flatMap message

end Entry

/-- What writes nothing and completes nothing has nothing to do with the stream. -/
theorem Event.plain_of_quiet {events : List Event} (silent : events.all quiet = true) :
    events.all plain = true := by
  apply List.all_eq_true.mpr
  intro event member
  have alone := List.all_eq_true.mp silent event member
  unfold plain
  split
  · cases alone
  · cases alone
  · cases alone
  · rfl

@[simp] theorem Event.plain_remarks (notices : List Notice) :
    (remarks notices).all plain = true :=
  plain_of_quiet (quiet_remarks notices)

theorem Phase.plain_partings (phase : Phase P) : phase.partings.all Event.plain = true := by
  cases phase with
  | connecting dial => exact Event.plain_of_quiet dial.quiet_releases
  | _ => rfl

namespace Connection

variable {c left last : Connection P} {now : Instant} {ticket : Ticket} {es : List Event}
  {request : Option Request} {result : Except Error Unit} {calls : List (Entry P)}

theorem Opens.carries (h : c.Opens now ticket es left) : Carries c.outbox es left.outbox := by
  cases h with
  | waits polled inTime => exact .plain (Event.plain_of_quiet polled.quiet)
  | expires polled late =>
      apply Carries.plain
      rw [List.all_append, List.all_append, Event.plain_of_quiet polled.quiet,
        Event.plain_of_quiet (Phase.quiet_releases _)]
      rfl
  | moves polled => exact .plain (Event.plain_of_quiet polled.quiet)
  | breaks polled =>
      apply Carries.plain
      rw [List.all_append, Event.plain_of_quiet polled.quiet]
      rfl
  | completes polled =>
      apply Carries.plain
      rw [List.all_append, Event.plain_of_quiet polled.quiet]
      rfl

/-- A late message has something left, for an empty one is never armed. -/
theorem unsent_of_late {m : Message} (sound : m.Sound) {window elapsed : Duration}
    (late : (m.deadlineAt now window).passed? now = some elapsed) : m.unsent ≠ 0 := by
  apply sound.unfinished
  intro empty
  rw [Message.passed?_of_unarmed (sound.unarmed empty)] at late
  cases late

theorem Serves.carries {channel : Channel P} (h : c.Serves now ticket channel es left)
    (sound : c.outbox.Sound) : Carries c.outbox es left.outbox := by
  cases h with
  | rests nothing => exact .nil c.outbox
  | @expires m rest elapsed head late =>
      have some := unsent_of_late (sound.spelled head).head late
      rw [show c.outbox = ⟨m :: rest⟩ from congrArg Outbox.mk head]
      exact (Carries.log _ _).trans (.expire some ticket elapsed)
  | @passes m rest head inTime nothing =>
      rw [show c.outbox = ⟨m :: rest⟩ from congrArg Outbox.mk head]
      exact .complete (fun _ => nothing) nofun nofun
  | @stalls m rest answer head inTime some notices session stalled =>
      rw [show c.outbox = ⟨m :: rest⟩ from congrArg Outbox.mk head]
      have untaken : (Event.call (.write m.rest.toList answer)).accepted = [] := by
        cases answer with
        | ok count => cases stalled; rfl
        | error e => rfl
      have wrote : Carries ⟨m :: rest⟩ [.call (.write m.rest.toList answer)]
          ⟨m.arm now c.config.sendTimeout :: rest⟩ :=
        .write some rfl (by rw [untaken]; rfl)
      exact wrote.trans (.plain (Event.plain_remarks notices))
  | @writes m rest count head inTime notices session some part =>
      rw [show c.outbox = ⟨m :: rest⟩ from congrArg Outbox.mk head]
      have wrote : Carries ⟨m :: rest⟩ [.call (.write m.rest.toList (.ok count))]
          ⟨(m.arm now c.config.sendTimeout).accept count :: rest⟩ :=
        .write (by omega) rfl (List.take_append_drop count _)
      exact (wrote.trans (.plain (Event.plain_remarks notices))).trans (.plain rfl)
  | @finishes m rest count head inTime some notices session all =>
      rw [show c.outbox = ⟨m :: rest⟩ from congrArg Outbox.mk head]
      have wrote : Carries ⟨m :: rest⟩ [.call (.write m.rest.toList (.ok count))]
          ⟨m.accept count :: rest⟩ :=
        .write some rfl (List.take_append_drop count _)
      have done : (m.accept count).unsent = 0 := by
        rw [Message.unsent_accept]
        omega
      have completed : Carries ⟨m.accept count :: rest⟩ [.callback (m.completion .ok)] ⟨rest⟩ :=
        .complete (fun _ => done) nofun nofun
      exact (wrote.trans (.plain (Event.plain_remarks notices))).trans
        ((Carries.log _ _).trans completed)
  | @breaks m rest e head inTime some notices hard =>
      rw [show c.outbox = ⟨m :: rest⟩ from congrArg Outbox.mk head]
      have wrote : Carries ⟨m :: rest⟩ [.call (.write m.rest.toList (.error e))] ⟨m :: rest⟩ :=
        .write some rfl rfl
      have completed : Carries ⟨m :: rest⟩ [.callback (m.completion .error)] ⟨rest⟩ :=
        .complete nofun (fun _ => some) nofun
      exact ((wrote.trans (.plain (Event.plain_remarks notices))).trans (.plain rfl)).trans
        ((Carries.log _ _).trans (completed.trans (.plain rfl)))

theorem Transfers.carries {channel : Channel P} (h : c.Transfers now ticket channel es left)
    (sound : c.outbox.Sound) : Carries c.outbox es left.outbox := by
  cases h with
  | receives stored notices session some served =>
      refine Carries.trans (.plain ?_) (served.carries sound)
      simp [Event.plain]
  | listens stored notices session stalled served =>
      refine Carries.trans (.plain ?_) (served.carries sound)
      simp [Event.plain]
  | breaks stored notices hard =>
      refine .plain ?_
      simp [Event.plain, Channel.releases]

theorem carries_farewell (c : Connection P) (sound : c.outbox.Sound) :
    Carries c.outbox c.farewell ⟨[]⟩ := by
  have settled : Carries c.outbox c.cancellation c.outbox := by
    refine .plain ?_
    unfold cancellation
    split <;> rfl
  have parted : Carries c.outbox c.phase.partings c.outbox := .plain c.phase.plain_partings
  have drained : Carries c.outbox _ ⟨[]⟩ := .drain fun m member => (sound.each m member).unfinished
  exact ((settled.trans parted).trans drained).trans (.plain rfl)

/-- The record of a step follows on, and the flow is kept with the message the step accepted. -/
theorem Step.flow {messages : List (List UInt8)} {before : List Event}
    (h : c.Step now request result es left) (sound : c.Sound)
    (flow : Flow messages before c.outbox) :
    Follows messages before es ∧
      Flow (messages ++ Entry.message ⟨c, now, request, result, es, left⟩) (before ++ es)
        left.outbox := by
  have unsaid {o : Outbox} (carries : Carries c.outbox es o) :
      Follows messages before es ∧ Flow (messages ++ []) (before ++ es) o := by
    rw [List.append_nil]
    exact carries messages before flow
  cases h with
  | closes live => exact unsaid ((carries_farewell c sound.outbox).trans (.plain rfl))
  | abandons live =>
      exact unsaid ((Carries.log c.outbox _).trans (carries_farewell c sound.outbox))
  | @queues bytes ticket opened =>
      obtain ⟨follows, flow⟩ := Carries.log c.outbox _ messages before flow
      exact ⟨follows, flow.push bytes ticket⟩
  | opens owner opened => exact unsaid opened.carries
  | transfers owner phase transferred => exact unsaid (transferred.carries sound.outbox)
  | _ => exact unsaid (.plain rfl)

theorem Linked.flow {messages : List (List UInt8)} {before : List Event}
    (h : Linked c calls last) (sound : c.Sound) (flow : Flow messages before c.outbox) :
    Flow (messages ++ Entry.messages calls) (before ++ Entry.eventsOf calls) last.outbox := by
  induction h generalizing messages before with
  | nil c =>
      rw [Entry.messages, Entry.eventsOf, List.flatMap_nil, List.flatMap_nil, List.append_nil,
        List.append_nil]
      exact flow
  | cons step later ih =>
      have whole := ih (step.sound sound) (step.flow sound flow).2
      rw [List.append_assoc, List.append_assoc] at whole
      exact whole

end Connection
end PolledTls
