import PolledTls.Proofs.Holdings
import PolledTls.Proofs.Sends
import PolledTls.Scripted

/-!
What a close and a drop show, in order: the open that still waits is cancelled, the peer is told
where there is a session, what is held goes back, and the sends that wait are cancelled, oldest
first. A session goes back before the socket it owns and before its context.
-/
namespace PolledTls

variable {P : Platform}

/-- What is held, in the order in which it goes back. -/
def Holdings.inOrder (held : Holdings) : List Resource :=
  [.lookup, .session, .socket, .context].filter held.holds

/-- The end of an attempt found at the status: its owner's open, the host its session was made for
and the sends that wait. -/
def teardown (status : Status) (owner : Ticket) (host : String) (waiting : List Ticket) :
    List Event :=
  (if status.isOpening then [.callback (.opened owner .cancelled)] else []) ++
    (if status.hasSession then [.call .shutdown, .log (.shutDown host)] else []) ++
    status.holdings.inOrder.map .release ++
    waiting.map (fun ticket => .callback (.sent ticket .cancelled)) ++
    [.log (.closed host waiting.length)]

namespace Phase

variable {config : Config} {before after : Phase P} {es : List Event} {channel : Channel P}

/-- Whether a session of the phase goes by the name. -/
def GoesBy (name : String) : Phase P → Prop
  | .handshaking channel | .opened channel => channel.serverName = name
  | .notOpen | .resolving _ | .connecting _ | .failed => True

theorem Polls.waiting_goesBy (h : before.Polls config es (.waiting after))
    (named : before.GoesBy config.host) : after.GoesBy config.host := by
  cases h with
  | lookupPending query lookup => trivial
  | connectPending dial socket => trivial
  | handshakePending channel session notReady => exact named

theorem Polls.moved_goesBy (h : before.Polls config es (.moved after)) :
    after.GoesBy config.host := by
  cases h with
  | resolved query somewhere socket => trivial
  | connected dial setup =>
      cases setup
      rfl

theorem Polls.opened_goesBy (h : before.Polls config es (.opened channel))
    (named : before.GoesBy config.host) : channel.serverName = config.host := by
  cases h with
  | handshakeDone channel session => exact named

/-- Leaving a phase tells the peer where there is a session and gives back all that is held. -/
theorem partings_eq (phase : Phase P) {name : String} (named : phase.GoesBy name)
    (whole : ∀ dial, phase = .connecting dial → dial.socket.isSome) :
    phase.partings =
      (if phase.status.hasSession then [.call .shutdown, .log (.shutDown name)] else []) ++
        phase.status.holdings.inOrder.map .release := by
  cases phase with
  | connecting dial =>
      rw [partings, releases, Dial.releases, if_pos (whole dial rfl)]
      · rfl
      · intro channel other
        cases other
      · intro channel other
        cases other
  | handshaking channel | opened channel =>
      subst named
      rfl
  | _ => rfl

end Phase

namespace Connection

variable {c left last : Connection P} {now : Instant} {ticket owner : Ticket} {es : List Event}
  {request : Option Request} {result : Except Error Unit} {calls : List (Entry P)}

/-! A session goes by the name of the host. -/

theorem Opens.goesBy (h : c.Opens now ticket es left) (named : c.phase.GoesBy c.host) :
    left.phase.GoesBy left.host := by
  cases h with
  | waits polled inTime => exact polled.waiting_goesBy named
  | expires polled late => trivial
  | moves polled => exact polled.moved_goesBy
  | breaks polled => trivial
  | completes polled => exact polled.opened_goesBy named

theorem Serves.goesBy {channel : Channel P} (h : c.Serves now ticket channel es left)
    (named : channel.serverName = c.host) : left.phase.GoesBy left.host := by
  cases h with
  | breaks head inTime some notices hard => trivial
  | _ => exact named

theorem Transfers.goesBy {channel : Channel P} (h : c.Transfers now ticket channel es left)
    (named : channel.serverName = c.host) : left.phase.GoesBy left.host := by
  cases h with
  | receives stored notices session some served => exact served.goesBy named
  | listens stored notices session stalled served => exact served.goesBy named
  | breaks stored notices hard => trivial

theorem Step.goesBy (h : c.Step now request result es left) (named : c.phase.GoesBy c.host) :
    left.phase.GoesBy left.host := by
  cases h with
  | starts idle lookup | closes live | abandons live => trivial
  | opens listener opened => exact opened.goesBy named
  | transfers listener phase transferred =>
      rw [phase] at named
      exact transferred.goesBy named
  | _ => exact named

theorem Linked.goesBy (h : Linked c calls last) (named : c.phase.GoesBy c.host) :
    last.phase.GoesBy last.host := by
  induction h with
  | nil c => exact named
  | cons step later ih => exact ih (step.goesBy named)

/-! The end of an attempt. -/

theorem cancellation_eq (sound : c.Sound) (owned : c.listener.map (·.ticket) = some owner) :
    c.cancellation =
      if c.status.isOpening then [.callback (.opened owner .cancelled)] else [] := by
  obtain ⟨⟨ticket, awaiting⟩, listener, rfl⟩ := Option.map_eq_some_iff.mp owned
  have decided : awaiting = c.status.isOpening := sound.awaiting _ listener
  rw [cancellation, listener, ← decided]
  cases awaiting <;> rfl

theorem farewell_eq (sound : c.Sound) (named : c.phase.GoesBy c.host)
    (owned : c.listener.map (·.ticket) = some owner) :
    c.farewell = teardown c.status owner c.host c.outbox.tickets := by
  have told := c.phase.partings_eq named sound.dialing
  rw [farewell, teardown, cancellation_eq sound owned, told, Outbox.tickets, List.map_map,
    List.length_map]
  simp only [List.append_assoc]
  rfl

theorem Step.of_close (h : c.Step now (some (.close ticket)) result es left)
    (live : c.status ≠ .notOpen) :
    result = .ok () ∧ left = c.cleared ∧ es = c.farewell ++ [.callback (.closed ticket)] := by
  cases h with
  | closeIgnored idle => exact absurd idle live
  | closes live => exact ⟨rfl, rfl, rfl⟩

theorem Step.of_drop (h : c.Step now none result es left) (live : c.status ≠ .notOpen) :
    es = .log (.abandoned c.host c.status) :: c.farewell := by
  cases h with
  | vanishes idle => exact absurd idle live
  | abandons live => rfl

/-- Wherever calls have led a connection that is not idle, its close and its drop show the teardown
of the attempt under way. What goes back is what the record leaves in hand, and the sends that are
cancelled are those that were accepted and have not completed. The close succeeds, and nothing waits
after it. -/
theorem close_tears_down (config : Config) (s : P.State) (turns : List (Turn P)) :
    let calls := (idle config : Connection P).history s turns
    ∀ past e later, calls = past ++ e :: later → e.before.status ≠ .notOpen →
      Holdings.afterAll {} (Entry.eventsOf past) = some e.before.status.holdings ∧
      ∃ owner waiting, Entry.attempt past = some owner ∧
        Entry.completedBy past ++ waiting = Entry.acceptedBy past ∧
        waiting.length = e.before.pendingSends ∧
        (∀ now ticket s,
          let closed := e.before.carryOut now (.close ticket) s
          closed.value.1 = .ok () ∧ closed.value.2.status = .notOpen ∧
            closed.value.2.pendingSends = 0 ∧
            closed.events = teardown e.before.status owner config.host waiting ++
              [.callback (.closed ticket)]) ∧
        ∀ s, (e.before.discard s).events = .log (.abandoned config.host e.before.status) ::
          teardown e.before.status owner config.host waiting := by
  intro calls past e later split live
  have fresh : (idle config : Connection P).Sound := sound_idle config
  obtain ⟨before, -⟩ := history_at split
  have sound := before.sound fresh
  have host : e.before.host = config.host := congrArg Config.host before.config
  obtain ⟨owner, listener⟩ := sound.listener live
  have owned : e.before.listener.map (·.ticket) = some owner := by rw [listener]; rfl
  have shown := farewell_eq sound (before.goesBy trivial) owned
  rw [host] at shown
  have under : Entry.attempt past = some owner := by
    rw [← owned, before.attempt fresh]
    rfl
  refine ⟨before.afterAll fresh, owner, e.before.outbox.tickets, under,
    before.sends_of_empty rfl, List.length_map _, ?_, ?_⟩
  · intro now ticket s closed
    have step : e.before.Step now _ closed.value.1 closed.events closed.value.2 :=
      carryOut_step sound now (.close ticket) s
    obtain ⟨result, left, events⟩ := step.of_close live
    rw [result, left, events, shown]
    exact ⟨rfl, rfl, rfl, rfl⟩
  · intro s
    have step : e.before.Step 0 none _ _ _ := discard_step sound s
    rw [step.of_drop live, shown, host]

/-- A connection that is open with one send waiting: the peer is told, the session goes back before
its socket and its context, and the send is cancelled before the close reports. -/
theorem close_tears_down_opened :
    let calls := (idle { host := "h", port := 1 } : Connection Script.platform).history {}
      [⟨id, 0, .start 1⟩, ⟨id, 0, .poll⟩, ⟨id, 0, .poll⟩, ⟨id, 0, .poll⟩, ⟨id, 0, .send [5] 2⟩]
    ∃ past e, calls = past ++ [e] ∧ e.before.status = .opened ∧
      (e.before.carryOut 0 (.close 3) {}).events =
        [.call .shutdown, .log (.shutDown "h"), .release .session, .release .socket,
          .release .context, .callback (.sent 2 .cancelled), .log (.closed "h" 1),
          .callback (.closed 3)] := by
  intro calls
  have last : calls = calls.take 5 ++ [calls[5]] := rfl
  have opened : calls[5].before.status = .opened := rfl
  refine ⟨_, _, last, opened, ?_⟩
  obtain ⟨-, owner, waiting, -, accepted, -, closes, -⟩ :=
    close_tears_down _ _ _ _ _ _ last (by rw [opened]; nofun)
  have completed : Entry.completedBy (calls.take 5) = [] := rfl
  have sent : Entry.acceptedBy (calls.take 5) = [2] := rfl
  rw [completed, sent, List.nil_append] at accepted
  obtain ⟨-, -, -, events⟩ := closes 0 3 {}
  rw [events, opened, accepted]
  rfl

end Connection
end PolledTls
