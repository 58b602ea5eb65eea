import PolledTls.Proofs.Course
import PolledTls.Proofs.Holdings

/-!
Failures give back before they tell. When a poll fails the attempt, all that the attempt owned is
back before the first callback of the failure; the session goes before the context it was made from,
here and everywhere; and short of a failure a poll gives back nothing but the lookup that led to an
address.
-/
namespace PolledTls

variable {P : Platform}

/-- Whether a callback tells of a failure. -/
def Callback.alarms : Callback → Bool
  | .opened _ .error | .sent _ .error | .failed .. => true
  | _ => false

namespace Event

/-- What the events give back, in order. -/
def released (events : List Event) : List Resource :=
  events.filterMap frees

@[simp] theorem released_nil : released [] = [] := rfl

@[simp] theorem released_cons (event : Event) (rest : List Event) :
    released (event :: rest) = event.frees.toList ++ released rest :=
  filterMap_cons _ _ _

@[simp] theorem released_append (first second : List Event) :
    released (first ++ second) = released first ++ released second :=
  List.filterMap_append

@[simp] theorem released_remarks (notices : List Notice) : released (remarks notices) = [] :=
  filterMap_remarks (fun _ => rfl) notices

end Event

namespace Holdings

variable {held middle : Holdings} {first second : List Event}

/-- Whether a context is given back only while no session is held. -/
def parts (held : Holdings) : List Event → Bool
  | [] => true
  | event :: rest =>
    (event.frees != some .context || !held.session) &&
      ((held.after event).elim true fun left => left.parts rest)

theorem parts_trans (before : held.parts first = true) (ledger : held.afterAll first = some middle)
    (later : middle.parts second = true) : held.parts (first ++ second) = true := by
  induction first generalizing held with
  | nil =>
      obtain rfl := Option.some.inj ledger
      exact later
  | cons event rest ih =>
      rw [parts, Bool.and_eq_true] at before
      rw [List.cons_append, parts, Bool.and_eq_true]
      refine ⟨before.1, ?_⟩
      rw [afterAll, List.foldlM_cons] at ledger
      cases next : held.after event with
      | none =>
          rw [next] at ledger
          cases ledger
      | some left =>
          rw [next] at before ledger
          exact ih before.2 ledger

theorem parts_of_kept (kept : .context ∉ Event.released first) : held.parts first = true := by
  induction first generalizing held with
  | nil => rfl
  | cons event rest ih =>
      rw [Event.released_cons, List.mem_append, not_or] at kept
      have other : event.frees ≠ some .context := fun frees => kept.1 (by simp [frees])
      rw [parts, Bool.and_eq_true, Bool.or_eq_true, bne_iff_ne]
      refine ⟨.inl other, ?_⟩
      cases held.after event with
      | none => rfl
      | some left => exact ih kept.2

/-- Where a context is given back the ledger shows no session. -/
theorem session_of_parts {rest : List Event}
    (parts : held.parts (first ++ .release .context :: rest) = true)
    (ledger : held.afterAll first = some middle) : middle.session = false := by
  induction first generalizing held with
  | nil =>
      obtain rfl := Option.some.inj ledger
      rw [List.nil_append, Holdings.parts, Bool.and_eq_true] at parts
      simpa [Event.frees] using parts.1
  | cons event later ih =>
      rw [List.cons_append, Holdings.parts, Bool.and_eq_true] at parts
      rw [afterAll, List.foldlM_cons] at ledger
      cases next : held.after event with
      | none =>
          rw [next] at ledger
          cases ledger
      | some left =>
          rw [next] at parts ledger
          exact ih parts.2 ledger

/-- The ledger that comes to the end has come past every place before it. -/
theorem afterAll_before (whole : held.afterAll (first ++ second) = some middle) :
    ∃ between, held.afterAll first = some between := by
  rw [afterAll_append] at whole
  obtain ⟨between, ledger, -⟩ := Option.bind_eq_some_iff.mp whole
  exact ⟨between, ledger⟩

end Holdings

/-- The phase that a finding leads to. -/
def Finding.phase : Finding P → Phase P
  | .waiting phase | .moved phase => phase
  | .opened channel => .opened channel
  | .broken _ => .failed

namespace Phase

variable {config : Config} {phase : Phase P} {es : List Event}

theorem Polls.parts {finding : Finding P} (h : phase.Polls config es finding) :
    phase.status.holdings.parts es = true := by
  cases h with
  | setupFailed dial setup => cases setup <;> rfl
  | connected dial setup => cases setup; rfl
  | _ => rfl

theorem parts_releases (phase : Phase P) : phase.status.holdings.parts phase.releases = true := by
  cases phase with
  | connecting dial =>
      rw [releases, Dial.releases]
      split <;> rfl
  | _ => rfl

theorem parts_partings (phase : Phase P) : phase.status.holdings.parts phase.partings = true := by
  cases phase with
  | connecting dial => exact parts_releases (.connecting dial)
  | _ => rfl

/-- A poll that does not break off gives back the lookup if that led to an address, and no more. -/
theorem Polls.released {finding : Finding P} (h : phase.Polls config es finding)
    (sound : finding.phase.status ≠ .failed) : Event.released es =
      if phase.status = .openingDns ∧ finding.phase.status = .openingSocket then [.lookup]
      else [] := by
  cases h with
  | connected dial setup =>
      cases setup
      rfl
  | lookupPending | resolved | connectPending | handshakePending | handshakeDone => rfl
  | _ => exact absurd rfl sound

/-- A connect is begun right after the lookup was given back. -/
theorem Polls.of_beginConnect {finding : Finding P} {endpoint : Endpoint}
    {answer : Except Error Unit} (h : phase.Polls config es finding)
    (begun : .call (.beginConnect endpoint answer) ∈ es) :
    ∃ rest, es = .call (.isComplete true) :: .call (.result (some endpoint.ip)) ::
        .release .lookup :: .call (.beginConnect endpoint answer) :: rest ∧
      Event.calls rest = [] ∧ Event.released rest = [] := by
  cases h with
  | connectRefused query somewhere e | resolved query somewhere socket =>
      simp at begun
      obtain ⟨rfl, rfl⟩ := begun
      exact ⟨_, rfl, rfl, rfl⟩
  | setupFailed dial setup => cases setup <;> simp at begun
  | connected dial setup =>
      cases setup
      simp at begun
  | _ => simp [Channel.releases] at begun

theorem Polls.not_begun_waiting {phase' : Phase P} {endpoint : Endpoint}
    {answer : Except Error Unit} (h : phase.Polls config es (.waiting phase')) :
    .call (.beginConnect endpoint answer) ∉ es := by
  cases h <;> simp

theorem call_not_mem_releases (made : Call) (phase : Phase P) : .call made ∉ phase.releases := by
  cases phase with
  | connecting dial =>
      rw [releases, Dial.releases]
      split <;> simp
  | _ => simp [releases, Channel.releases]

end Phase

namespace Connection

variable {c left last : Connection P} {now : Instant} {ticket : Ticket} {es : List Event}
  {request : Option Request} {result : Except Error Unit} {calls : List (Entry P)}

/-- A failure in the order in which it shows: all that was held goes back, then come its line in the
log and its callbacks. -/
def FailsInOrder (c : Connection P) (es : List Event) : Prop :=
  ∃ work line first others, es = work ++ .log line :: .callback first :: others.map .callback ∧
    (∀ alarm ∈ first :: others, alarm.alarms = true) ∧
    (∀ fired ∈ Event.callbacks work, fired.alarms = false) ∧
    c.status.holdings.afterAll work = some {}

/-- What comes before and neither tells of a failure nor changes what is held does not count. -/
theorem FailsInOrder.after {before : List Event} (h : c.FailsInOrder es)
    (silent : ∀ fired ∈ Event.callbacks before, fired.alarms = false)
    (still : c.status.holdings.afterAll before = some c.status.holdings) :
    c.FailsInOrder (before ++ es) := by
  obtain ⟨work, line, first, others, rfl, alarms, quiet, ledger⟩ := h
  refine ⟨before ++ work, line, first, others, (List.append_assoc _ _ _).symm, alarms, ?_,
    Holdings.afterAll_trans still ledger⟩
  intro fired member
  rw [Event.callbacks_append, List.mem_append] at member
  exact member.elim (silent fired) (quiet fired)

theorem Opens.failsInOrder (h : c.Opens now ticket es left) (failed : left.status = .failed) :
    c.FailsInOrder es := by
  cases h with
  | waits polled inTime =>
      cases (congrArg Status.isOpening failed).symm.trans polled.waiting_isOpening
  | @expires polls phase _ polled late =>
      refine ⟨polls ++ phase.releases, _, _, [], rfl, by simp [Callback.alarms], ?_, ?_⟩
      · rw [Event.callbacks_append, Event.callbacks_of_quiet polled.quiet,
          Event.callbacks_of_quiet phase.quiet_releases]
        nofun
      · exact Holdings.afterAll_trans polled.afterAll (phase.afterAll_releases polled.waiting.2)
  | moves polled =>
      cases (congrArg Status.isOpening failed).symm.trans polled.moved_isOpening
  | breaks polled =>
      refine ⟨_, _, _, [], rfl, by simp [Callback.alarms], ?_, polled.afterAll⟩
      rw [Event.callbacks_of_quiet polled.quiet]
      nofun
  | completes polled => cases failed

theorem Serves.failsInOrder {channel : Channel P} (h : c.Serves now ticket channel es left)
    (opened : c.status = .opened) (failed : left.status = .failed) : c.FailsInOrder es := by
  cases h with
  | @breaks m _ e head inTime some notices hard =>
      refine ⟨_, _, _, [.failed ticket (.io ("write failed: " ++ e.text))], rfl,
        by simp [Callback.alarms], by simp, ?_⟩
      rw [opened]
      exact Holdings.afterAll_trans (Holdings.afterAll_remarks _ notices) rfl
  | _ => cases failed

theorem Transfers.failsInOrder {channel : Channel P} (h : c.Transfers now ticket channel es left)
    (opened : c.status = .opened) (failed : left.status = .failed) : c.FailsInOrder es := by
  cases h with
  | receives stored notices session some served =>
      refine FailsInOrder.after (served.failsInOrder opened failed) (by simp [Callback.alarms]) ?_
      rw [opened]
      exact Holdings.afterAll_trans (Holdings.afterAll_remarks _ notices) rfl
  | listens stored notices session stalled served =>
      refine FailsInOrder.after (served.failsInOrder opened failed) (by simp) ?_
      rw [opened]
      exact Holdings.afterAll_remarks _ notices
  | @breaks e stored notices hard =>
      refine ⟨_, _, _, [], rfl, by simp [Callback.alarms], by simp, ?_⟩
      rw [opened]
      exact Holdings.afterAll_trans (Holdings.afterAll_remarks _ notices) rfl

theorem Step.failsInOrder (h : c.Step now (some .poll) result es left)
    (sound : c.status ≠ .failed) (failed : left.status = .failed) : c.FailsInOrder es := by
  cases h with
  | rests still => exact absurd failed sound
  | opens owner opened => exact opened.failsInOrder failed
  | transfers owner phase transferred =>
      exact transferred.failsInOrder (congrArg Phase.status phase) failed

/-! What goes back short of a failure. -/

theorem Opens.released (h : c.Opens now ticket es left) (unfailed : left.status ≠ .failed) :
    Event.released es =
      if c.status = .openingDns ∧ left.status = .openingSocket then [.lookup] else [] := by
  cases h with
  | waits polled inTime | moves polled => exact polled.released unfailed
  | completes polled =>
      rw [Event.released_append, polled.released unfailed]
      exact List.append_nil _
  | expires polled late | breaks polled => exact absurd rfl unfailed

theorem Serves.released {channel : Channel P} (h : c.Serves now ticket channel es left)
    (unfailed : left.status ≠ .failed) : Event.released es = [] := by
  cases h with
  | breaks head inTime some notices hard => exact absurd rfl unfailed
  | _ => simp [Event.frees]

theorem Transfers.released {channel : Channel P} (h : c.Transfers now ticket channel es left)
    (unfailed : left.status ≠ .failed) : Event.released es = [] := by
  cases h with
  | receives stored notices session some served =>
      simp [Event.frees, served.released unfailed]
  | listens stored notices session stalled served =>
      simp [Event.frees, served.released unfailed]
  | breaks stored notices hard => exact absurd rfl unfailed

theorem Step.released (h : c.Step now (some .poll) result es left)
    (unfailed : c.status = .failed ∨ left.status ≠ .failed) : Event.released es =
      if c.status = .openingDns ∧ left.status = .openingSocket then [.lookup] else [] := by
  cases h with
  | rests still => rcases still with idle | failed <;> simp [*]
  | opens owner opened =>
      have opening : c.status.isOpening = true := opened.opening
      have sound : c.status ≠ .failed := fun failed => by simp [failed, Status.isOpening] at opening
      exact opened.released (unfailed.resolve_left sound)
  | transfers owner phase transferred =>
      have opened : c.status = .opened := congrArg Phase.status phase
      have sound : c.status ≠ .failed := by simp [opened]
      rw [opened]
      exact transferred.released (unfailed.resolve_left sound)

theorem Opens.of_beginConnect {endpoint : Endpoint} {answer : Except Error Unit}
    (h : c.Opens now ticket es left) (begun : .call (.beginConnect endpoint answer) ∈ es) :
    ∃ rest, es = .call (.isComplete true) :: .call (.result (some endpoint.ip)) ::
        .release .lookup :: .call (.beginConnect endpoint answer) :: rest ∧
      Event.calls rest = [] ∧ Event.released rest = [] := by
  cases h with
  | waits polled inTime | moves polled => exact polled.of_beginConnect begun
  | expires polled late =>
      simp [failure, polled.not_begun_waiting, Phase.call_not_mem_releases] at begun
  | breaks polled | completes polled =>
      obtain ⟨rest, rfl, calls, released⟩ := polled.of_beginConnect (by simpa [failure] using begun)
      refine ⟨rest ++ _, rfl, ?_, ?_⟩
      · rw [Event.calls_append, calls]
        rfl
      · rw [Event.released_append, released]
        rfl

/-- Only the poll that resolved the name begins a connect. -/
theorem Step.of_beginConnect {endpoint : Endpoint} {answer : Except Error Unit}
    (h : c.Step now (some .poll) result es left)
    (begun : .call (.beginConnect endpoint answer) ∈ es) :
    ∃ rest, es = .call (.isComplete true) :: .call (.result (some endpoint.ip)) ::
        .release .lookup :: .call (.beginConnect endpoint answer) :: rest ∧
      Event.calls rest = [] ∧ Event.released rest = [] := by
  cases h with
  | rests still => cases begun
  | opens owner opened => exact opened.of_beginConnect begun
  | transfers owner phase transferred =>
      cases transferred with
      | receives stored notices session some served
      | listens stored notices session stalled served =>
          cases served <;> simp [Channel.releases] at begun
      | breaks stored notices hard => simp [Channel.releases] at begun

/-! A session goes before the context it was made from. -/

theorem Opens.parts (h : c.Opens now ticket es left) : c.status.holdings.parts es = true := by
  cases h with
  | waits polled inTime | moves polled => exact polled.parts
  | @expires polls phase _ polled late =>
      have released : phase.status.holdings.parts phase.releases = true := phase.parts_releases
      refine Holdings.parts_trans (Holdings.parts_trans polled.parts polled.afterAll released)
        (Holdings.afterAll_trans polled.afterAll (phase.afterAll_releases polled.waiting.2)) rfl
  | breaks polled | completes polled => exact Holdings.parts_trans polled.parts polled.afterAll rfl

theorem Serves.parts {channel : Channel P} (h : c.Serves now ticket channel es left) :
    Status.opened.holdings.parts es = true := by
  cases h with
  | breaks head inTime some notices hard =>
      rw [List.append_assoc]
      refine Holdings.parts_trans ?_ (Holdings.afterAll_remarks _ notices) rfl
      exact Holdings.parts_of_kept (by simp [Event.frees])
  | _ => exact Holdings.parts_of_kept (by simp [Event.frees])

theorem Transfers.parts {channel : Channel P} (h : c.Transfers now ticket channel es left) :
    Status.opened.holdings.parts es = true := by
  cases h with
  | receives stored notices session some served =>
      refine Holdings.parts_trans ?_
        (Holdings.afterAll_trans (Holdings.afterAll_remarks _ notices) rfl) served.parts
      exact Holdings.parts_of_kept (by simp [Event.frees])
  | listens stored notices session stalled served =>
      refine Holdings.parts_trans ?_ (Holdings.afterAll_remarks _ notices) served.parts
      exact Holdings.parts_of_kept (by simp [Event.frees])
  | breaks stored notices hard =>
      rw [List.append_assoc]
      refine Holdings.parts_trans ?_ (Holdings.afterAll_remarks _ notices) rfl
      exact Holdings.parts_of_kept (by simp [Event.frees])

theorem parts_farewell (sound : c.Sound) : c.status.holdings.parts c.farewell = true := by
  have cancelled : c.status.holdings.parts c.cancellation = true ∧
      c.status.holdings.afterAll c.cancellation = some c.status.holdings := by
    unfold cancellation
    split <;> exact ⟨rfl, rfl⟩
  obtain ⟨kept, settled⟩ := cancelled
  have parted : c.status.holdings.parts c.phase.partings = true := c.phase.parts_partings
  have freed := c.phase.afterAll_partings sound.dialing
  rw [farewell, List.append_assoc]
  refine Holdings.parts_trans (Holdings.parts_trans kept settled parted)
    (Holdings.afterAll_trans settled freed) (Holdings.parts_of_kept ?_)
  simp [Event.released, Event.frees]

theorem Step.parts (h : c.Step now request result es left) (sound : c.Sound) :
    c.status.holdings.parts es = true := by
  cases h with
  | closes live =>
      exact Holdings.parts_trans (parts_farewell sound) (afterAll_farewell sound) rfl
  | abandons live => exact parts_farewell sound
  | opens owner opened => exact opened.parts
  | transfers owner phase transferred =>
      rw [status, phase]
      exact transferred.parts
  | _ => exact Holdings.parts_of_kept (by simp [Event.frees])

theorem Linked.parts (h : Linked c calls last) (sound : c.Sound) :
    c.status.holdings.parts (Entry.eventsOf calls) = true := by
  induction h with
  | nil c => rfl
  | cons step later ih =>
      exact Holdings.parts_trans (step.parts sound) (step.afterAll sound) (ih (step.sound sound))

/-- In every history a poll that fails the attempt has given back all that was made, before the
first callback that tells of the failure, and it tells the peer nothing; wherever a context is
given back no session is held; a poll that does not fail the attempt gives back the lookup if it led
on to a connect, and nothing else; and wherever a connect is begun the lookup that led to it went
right before. -/
theorem failures_release_first (config : Config) (s : P.State) (turns : List (Turn P)) :
    let calls := (idle config : Connection P).history s turns
    (∀ past e later, calls = past ++ e :: later → e.request = some .poll →
      (e.before.status ≠ .failed → e.after.status = .failed →
        ∃ work line first others,
          e.events = work ++ .log line :: .callback first :: others.map .callback ∧
          (∀ alarm ∈ first :: others, alarm.alarms = true) ∧
          (∀ fired ∈ Event.callbacks work, fired.alarms = false) ∧
          Holdings.afterAll {} (Entry.eventsOf past ++ work) = some {}) ∧
      Event.shutdowns e.events = 0 ∧
      (e.before.status = .failed ∨ e.after.status ≠ .failed → Event.released e.events =
        if e.before.status = .openingDns ∧ e.after.status = .openingSocket then [.lookup]
        else []) ∧
      ∀ endpoint answer, .beginConnect endpoint answer ∈ e.calls →
        ∃ rest, e.events = .call (.isComplete true) :: .call (.result (some endpoint.ip)) ::
            .release .lookup :: .call (.beginConnect endpoint answer) :: rest ∧
          Event.calls rest = [] ∧ Event.released rest = []) ∧
    ∀ earlier rest, Entry.eventsOf calls = earlier ++ .release .context :: rest →
      ∃ held, Holdings.afterAll {} earlier = some held ∧ held.session = false := by
  intro calls
  have fresh : (idle config : Connection P).Sound := sound_idle config
  refine ⟨?_, ?_⟩
  · intro past e later split asked
    obtain ⟨before, step⟩ := history_at split
    rw [asked] at step
    refine ⟨?_, step.shutdowns, step.released, ?_⟩
    · intro sound failed
      obtain ⟨work, line, first, others, shown, alarms, silent, ledger⟩ :=
        step.failsInOrder sound failed
      exact ⟨work, line, first, others, shown, alarms, silent,
        Holdings.afterAll_trans (before.afterAll fresh) ledger⟩
    · intro endpoint answer begun
      exact step.of_beginConnect (Event.mem_calls.mp begun)
  · intro earlier rest shown
    obtain ⟨last, linked, -⟩ := history_linked fresh s turns
    have parts : Holdings.parts {} (Entry.eventsOf calls) = true := linked.parts fresh
    have ledger : Holdings.afterAll {} (Entry.eventsOf calls) = _ := linked.afterAll fresh
    rw [shown] at parts ledger
    obtain ⟨held, here⟩ := Holdings.afterAll_before ledger
    exact ⟨held, here, Holdings.session_of_parts parts here⟩

/-- A bind that fails: the socket goes back, then the session, then its context, and then the open
is told. -/
theorem failures_release_first_bind :
    let calls := (idle { host := "h", port := 1 } : Connection Script.platform).history
      { bindSocket := [.error (.tls "no")] } [⟨id, 0, .start 1⟩, ⟨id, 0, .poll⟩, ⟨id, 0, .poll⟩]
    ∃ past e later, calls = past ++ e :: later ∧ e.request = some .poll ∧
      e.before.status = .openingSocket ∧ e.after.status = .failed ∧
      Event.released e.events = [.socket, .session, .context] ∧
      Event.callbacks e.events = [.opened 1 .error] ∧
      ∃ (work : List Event) (line : LogEvent) (first : Callback) (others : List Callback),
        e.events = work ++ .log line :: .callback first :: others.map .callback ∧
        Holdings.afterAll {} (Entry.eventsOf past ++ work) = some {} := by
  intro calls
  have split : calls = calls.take 2 ++ calls[2] :: calls.drop 3 := rfl
  have asked : calls[2].request = some .poll := rfl
  have before : calls[2].before.status = .openingSocket := rfl
  have failed : calls[2].after.status = .failed := rfl
  obtain ⟨polls, -⟩ := failures_release_first _ _ _
  obtain ⟨fails, -⟩ := polls _ _ _ split asked
  obtain ⟨work, line, first, others, shown, -, -, ledger⟩ :=
    fails (by rw [before]; nofun) failed
  exact ⟨_, _, _, split, asked, before, failed, rfl, rfl, work, line, first, others, shown, ledger⟩

end Connection
end PolledTls
