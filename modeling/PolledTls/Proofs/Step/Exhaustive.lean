import PolledTls.Proofs.Step

/-!
The cases of a step are all there are: whatever is asked of a sound connection, its answer, its
events and the connection left are one of them.
-/
namespace PolledTls

variable {P : Platform}

namespace Phase

theorem release_yields (phase : Phase P) :
    phase.release.Yields fun _ es => es = phase.releases := by
  cases phase with
  | notOpen => exact .pure rfl
  | resolving query => exact query.release_yields
  | connecting dial => exact dial.release_yields
  | handshaking channel => exact channel.release_yields
  | opened channel => exact channel.release_yields
  | failed => exact .pure rfl

theorem shutDown_yields (phase : Phase P) :
    phase.shutDown.Yields fun _ es => es = phase.partings := by
  cases phase with
  | notOpen => exact .pure rfl
  | resolving query => exact query.release_yields
  | connecting dial => exact dial.release_yields
  | handshaking channel => exact channel.shutDown_yields
  | opened channel => exact channel.shutDown_yields
  | failed => exact .pure rfl

end Phase

namespace Connection

variable {c : Connection P} {ticket : Ticket} {now : Instant}

theorem settleOpen_yields (owner : c.listener = some ⟨ticket, true⟩) (result : Completion) :
    (c.settleOpen result).Yields fun left es =>
      left = { c with listener := some ⟨ticket, false⟩ } ∧
        es = [.callback (.opened ticket result)] := by
  rw [settleOpen, owner]
  exact .after (Act.fire_yields _) fun _ => .pure ⟨rfl, rfl⟩

theorem failOpen_yields (owner : c.listener = some ⟨ticket, true⟩) (status : Status) (e : Error) :
    (c.failOpen status e).Yields fun left es => left = c.broken ticket ∧
      es = [.log (.openFailed c.host status e), .callback (.opened ticket .error)] := by
  refine .after (Act.log_yields _) fun _ => ?_
  refine (settleOpen_yields (c := { c with phase := .failed, openDeadline := none })
    owner _).mono ?_
  rintro _ _ ⟨rfl, rfl⟩
  exact ⟨rfl, rfl⟩

/-- The deadline is looked at with what the poll left of the phase stored back. -/
theorem checkDeadline_opens {es : List Event} {phase : Phase P}
    (owner : c.listener = some ⟨ticket, true⟩) (same : phase.status = c.status)
    (polled : c.phase.Polls c.config es (.waiting phase)) :
    (checkDeadline { c with phase } now).Yields fun left more =>
      c.Opens now ticket (es ++ more) left := by
  simp only [checkDeadline]
  split
  · rename_i inTime
    refine .pure ?_
    rw [List.append_nil]
    exact .waits polled inTime
  · rename_i elapsed late
    refine .after phase.release_yields fun _ => ?_
    refine (failOpen_yields (c := { c with phase }) owner _ _).mono ?_
    rintro _ _ ⟨rfl, rfl⟩
    have expired : c.Opens now ticket _ _ := .expires polled late
    rw [failure, ← same, List.append_assoc] at expired
    exact expired

theorem failOpen_opens {es : List Event} {e : Error} (owner : c.listener = some ⟨ticket, true⟩)
    (polled : c.phase.Polls c.config es (.broken e)) :
    (c.failOpen c.status e).Yields fun left more => c.Opens now ticket (es ++ more) left := by
  refine (failOpen_yields owner _ _).mono ?_
  rintro _ _ ⟨rfl, rfl⟩
  exact .breaks polled

theorem pollQuery_opens {query : Query P} (phase : c.phase = .resolving query)
    (owner : c.listener = some ⟨ticket, true⟩) :
    (c.pollQuery now query).Yields fun left es => c.Opens now ticket es left := by
  have status : c.status = .openingDns := congrArg Phase.status phase
  refine query.poll_yields.bind ?_
  rintro _ _ (lookup | ⟨lookup, nowhere⟩ | ⟨lookup, somewhere⟩)
  · refine checkDeadline_opens owner status.symm ?_
    rw [phase]
    exact .lookupPending query lookup
  · refine .after (Query.release_yields _) fun _ => ?_
    have polled : Phase.Polls c.config _ _ _ := .lookupFailed query nowhere
    rw [← phase] at polled
    rw [← status]
    exact failOpen_opens owner polled
  · rename_i ip
    refine .after (Query.release_yields _) fun _ => ?_
    refine (Dial.start_yields ⟨ip, c.port⟩).bind ?_
    rintro _ _ (e | socket)
    · have polled : Phase.Polls c.config _ _ _ := .connectRefused query somewhere e
      rw [← phase] at polled
      rw [← status]
      exact failOpen_opens owner polled
    · have polled : Phase.Polls c.config _ _ _ := .resolved query somewhere socket
      rw [← phase] at polled
      exact .after (Act.log_yields _) fun _ => .pure (.moves polled)

theorem pollDial_opens {dial : Dial P} (phase : c.phase = .connecting dial)
    (whole : dial.socket.isSome) (owner : c.listener = some ⟨ticket, true⟩) :
    (c.pollDial now dial).Yields fun left es => c.Opens now ticket es left := by
  have status : c.status = .openingSocket := congrArg Phase.status phase
  refine dial.poll_yields.bind ?_
  rintro _ _ (none | ⟨_, socket⟩ | ⟨_, socket⟩ | ⟨_, e⟩)
  · rw [none] at whole
    cases whole
  · refine checkDeadline_opens owner status.symm ?_
    rw [phase]
    exact .connectPending dial socket
  · refine (Channel.start_yields socket c.host).bind ?_
    rintro (e | channel) es setup
    · have polled : Phase.Polls c.config _ _ _ := .setupFailed dial setup
      rw [← phase] at polled
      rw [← status]
      exact failOpen_opens owner polled
    · have polled : Phase.Polls c.config _ _ _ := .connected dial setup
      rw [← phase] at polled
      exact .after (Act.log_yields _) fun _ => .pure (.moves polled)
  · have polled : Phase.Polls c.config _ _ _ := .connectFailed dial e
    rw [← phase] at polled
    rw [← status]
    refine .after (Dial.release_yields _) fun _ => ?_
    exact failOpen_opens owner polled

theorem pollHandshake_opens {channel : Channel P} (phase : c.phase = .handshaking channel)
    (owner : c.listener = some ⟨ticket, true⟩) :
    (c.pollHandshake now channel).Yields fun left es => c.Opens now ticket es left := by
  have status : c.status = .openingTls := congrArg Phase.status phase
  refine channel.handshake_yields.bind ?_
  rintro _ _ (⟨session, notReady⟩ | ⟨session, hard⟩ | session)
  · refine checkDeadline_opens owner status.symm ?_
    rw [phase]
    exact .handshakePending channel session notReady
  · have polled : Phase.Polls c.config _ _ _ := .handshakeFailed channel hard
    rw [← phase] at polled
    rw [← status]
    refine .after (Channel.release_yields _) fun _ => ?_
    exact failOpen_opens owner polled
  · have polled : Phase.Polls c.config _ _ _ := .handshakeDone channel session
    rw [← phase] at polled
    refine .after (Act.log_yields _) fun _ => ?_
    refine (settleOpen_yields owner .ok
      (c := { c with phase := .opened { channel with session }, openDeadline := none })).mono ?_
    rintro _ _ ⟨rfl, rfl⟩
    exact .completes polled

theorem completeHead_yields {m : Message} {rest : List Message}
    (head : c.outbox = ⟨m :: rest⟩) (result : Completion) :
    (c.completeHead result).Yields fun left es =>
      left = { c with outbox := ⟨rest⟩ } ∧ es = [.callback (.sent m.ticket result)] := by
  rw [completeHead, head]
  exact .after (Act.fireAll_yields _) fun _ => .pure ⟨rfl, rfl⟩

theorem reportFailure_yields {l : Listener} (owner : c.listener = some l) (e : Error) :
    (c.reportFailure e).Yields fun _ es => es = [.callback (.failed l.ticket e)] := by
  rw [reportFailure, owner]
  exact Act.fire_yields _

theorem deliver_yields {l : Listener} (owner : c.listener = some l) (bytes : List UInt8) :
    (c.deliver bytes).Yields fun _ es => es = [.callback (.received l.ticket bytes)] := by
  rw [deliver, owner]
  exact Act.fire_yields _

theorem writeHead_serves {channel : Channel P} {m : Message} {rest : List Message}
    (owner : c.listener = some ⟨ticket, false⟩) (head : c.outbox.messages = m :: rest)
    (sound : m.Sound) (inTime : (m.deadlineAt now c.config.sendTimeout).passed? now = none)
    (some : m.unsent ≠ 0) :
    (writeHead
      { c with phase := .opened channel, outbox := ⟨m.arm now c.config.sendTimeout :: rest⟩ }
      channel (m.arm now c.config.sendTimeout)).Yields
        fun left es => c.Serves now ticket channel es left := by
  -- Both rules hold: a message has no more left than it had, and no count exceeds what was offered.
  refine .after (Act.check_yields _ sound.unsent_le) fun _ => ?_
  refine (Channel.write_yields channel some).bind ?_
  rintro _ _ (@⟨count, notices, session, counted⟩ | ⟨notices, session, stalled⟩ |
    ⟨notices, session, hard⟩)
  · refine .after (Act.check_yields _ (Nat.min_le_right _ _)) fun _ => ?_
    refine .after (Act.log_yields _) fun _ => ?_
    by_cases part : count < m.unsent
    · have least : min count m.rest.size = count := Nat.min_eq_left (Nat.le_of_lt part)
      have left : ((m.arm now c.config.sendTimeout).accept count).unsent ≠ 0 := by
        rw [Message.unsent_accept, Message.unsent_arm]
        omega
      simp only [least, if_neg left]
      exact .pure (.writes head inTime notices session counted part)
    · have all : m.unsent ≤ count := Nat.le_of_not_lt part
      have least : min count m.rest.size = m.unsent := Nat.min_eq_right all
      have done : ((m.arm now c.config.sendTimeout).accept m.unsent).unsent = 0 := by
        rw [Message.unsent_accept, Message.unsent_arm, Nat.sub_self]
      simp only [least, if_pos done]
      refine (completeHead_yields rfl _).mono ?_
      rintro _ _ ⟨rfl, rfl⟩
      rw [done]
      exact .finishes head inTime some notices session all
  · refine .pure ?_
    simp only [List.append_nil, List.nil_append]
    exact .stalls head inTime some notices session stalled
  · rename_i e
    refine .after (Channel.release_yields _) fun _ => ?_
    refine .after (Act.log_yields _) fun _ => ?_
    refine (completeHead_yields rfl _).bind ?_
    rintro _ _ ⟨rfl, rfl⟩
    refine .after (reportFailure_yields owner _) fun _ => .pure ?_
    have broken : c.Serves now ticket channel _ _ := .breaks head inTime some notices hard
    simp only [List.append_assoc, List.nil_append, List.cons_append, List.append_nil] at broken ⊢
    exact broken

theorem serviceHead_serves (channel : Channel P) (owner : c.listener = some ⟨ticket, false⟩)
    (sound : c.outbox.Sound) :
    (c.serviceHead now channel).Yields fun left es => c.Serves now ticket channel es left := by
  rw [serviceHead]
  cases head : c.outbox.messages with
  | nil =>
      simp only [Outbox.head?, head, List.head?_nil]
      exact .pure (.rests head)
  | cons m rest =>
      have messages : c.outbox = ⟨m :: rest⟩ := by rw [← head]
      have armed : (c.outbox.mapHead fun _ => m.arm now c.config.sendTimeout) =
          ⟨m.arm now c.config.sendTimeout :: rest⟩ := by rw [messages]; rfl
      rw [messages] at sound
      simp only [Outbox.head?, head, List.head?_cons, armed, Message.unsent_arm]
      cases late : (m.deadlineAt now c.config.sendTimeout).passed? now with
      | some elapsed =>
          refine .after (Act.log_yields _) fun _ => ?_
          refine (completeHead_yields rfl _).bind ?_
          rintro _ _ ⟨rfl, rfl⟩
          refine .after (reportFailure_yields owner _) fun _ => .pure ?_
          exact .expires head late
      | none =>
          by_cases nothing : m.unsent = 0
          · simp only [nothing, if_true]
            refine (completeHead_yields rfl _).mono ?_
            rintro _ _ ⟨rfl, rfl⟩
            exact .passes (m := m) head late nothing
          · simp only [nothing, if_false]
            exact writeHead_serves owner head sound.head late nothing

theorem transfer_transfers (channel : Channel P) (owner : c.listener = some ⟨ticket, false⟩)
    (sound : c.outbox.Sound) :
    (c.transfer now channel).Yields fun left es => c.Transfers now ticket channel es left := by
  refine (channel.read_yields c.buffer).bind ?_
  rintro _ _ (⟨stored, notices, session, counted⟩ | ⟨stored, notices, session, stalled⟩ |
    ⟨stored, notices, session, hard⟩)
  · refine .after (Act.log_yields _) fun _ => ?_
    refine .after (Act.check_yields _ (Nat.min_le_right _ _)) fun _ => ?_
    refine .after (deliver_yields owner _) fun _ => ?_
    refine (serviceHead_serves (c := { c with buffer := c.buffer.store stored })
      { channel with session } owner sound).mono fun left es served => ?_
    have received : c.Transfers now ticket channel _ _ :=
      .receives stored notices session counted served
    simpa only [List.append_assoc, List.nil_append, List.cons_append] using received
  · refine (serviceHead_serves (c := { c with buffer := c.buffer.store stored })
      { channel with session } owner sound).mono fun left es served => ?_
    exact .listens stored notices session stalled served
  · refine .after (Channel.release_yields _) fun _ => ?_
    refine .after (Act.log_yields _) fun _ => ?_
    refine .after (reportFailure_yields
      (c := { c with phase := .failed, buffer := c.buffer.store stored }) owner _) fun _ => .pure ?_
    have broken : c.Transfers now ticket channel _ _ := .breaks stored notices hard
    simpa only [List.append_assoc, List.nil_append, List.cons_append, List.append_nil] using broken

/-- The open is settled first; all else is one sequence. -/
theorem windDown_eq (c : Connection P) : c.windDown =
    (if c.status.isOpening then c.settleOpen .cancelled else pure c) >>= fun d => (do
      d.phase.shutDown
      Act.fireAll (d.outbox.messages.map (·.completion .cancelled))
      Act.log (.closed d.host d.outbox.size)
      return d.cleared) := by
  simp only [windDown, Outbox.drain_eq, List.length_map]
  cases c.status.isOpening <;> rfl

theorem windDown_yields (sound : c.Sound) (live : c.status ≠ .notOpen) :
    c.windDown.Yields fun left es => left = c.cleared ∧ es = c.farewell := by
  obtain ⟨ticket, owner⟩ := sound.listener live
  have settled : (if c.status.isOpening then c.settleOpen .cancelled else pure c).Yields
      fun left es => (∃ l, left = { c with listener := l }) ∧ es = c.cancellation := by
    cases opening : c.status.isOpening with
    | true =>
        rw [opening] at owner
        refine (settleOpen_yields owner .cancelled).mono ?_
        rintro _ _ ⟨rfl, rfl⟩
        exact ⟨⟨_, rfl⟩, by rw [cancellation, owner]⟩
    | false =>
        rw [opening] at owner
        exact .pure ⟨⟨_, rfl⟩, by rw [cancellation, owner]⟩
  rw [windDown_eq]
  refine settled.bind ?_
  rintro _ _ ⟨⟨l, rfl⟩, rfl⟩
  refine .after (Phase.shutDown_yields _) fun _ => ?_
  refine .after (Act.fireAll_yields _) fun _ => ?_
  refine .after (Act.log_yields _) fun _ => .pure ⟨rfl, ?_⟩
  simp [farewell, host, Outbox.size, Function.comp_def]

theorem start_step :
    (c.start now ticket).Yields fun r es => c.Step now (some (.start ticket)) r.1 es r.2 := by
  rw [start]
  cases phase : c.phase with
  | notOpen =>
      have idle : c.status = .notOpen := congrArg Phase.status phase
      refine (Query.start_yields c.host).bind ?_
      rintro _ _ (e | lookup)
      · refine .after (Act.log_yields _) fun _ => ?_
        refine .after (Act.fire_yields _) fun _ => ?_
        exact .pure (.lookupRefused idle e)
      · exact .after (Act.log_yields _) fun _ => .pure (.starts idle lookup)
  | _ =>
      have live : c.status ≠ .notOpen := by simp [Connection.status, phase, Phase.status]
      refine .after (Act.log_yields _) fun _ => ?_
      refine .after (Act.fire_yields _) fun _ => ?_
      exact .pure (.startRejected live)

theorem close_step (sound : c.Sound) :
    (c.close ticket).Yields fun r es => c.Step now (some (.close ticket)) r.1 es r.2 := by
  rw [close]
  cases phase : c.phase with
  | notOpen =>
      have idle : c.status = .notOpen := congrArg Phase.status phase
      refine .after (Act.log_yields _) fun _ => ?_
      refine .after (Act.fire_yields _) fun _ => ?_
      exact .pure (.closeIgnored idle)
  | _ =>
      have live : c.status ≠ .notOpen := by simp [Connection.status, phase, Phase.status]
      refine (windDown_yields sound live).bind ?_
      rintro _ _ ⟨rfl, rfl⟩
      exact .after (Act.fire_yields _) fun _ => .pure (.closes live)

/-- What the connection is left as when it is dropped no one sees; it is as after a close. -/
theorem discard_step (sound : c.Sound) :
    c.discard.Yields fun left es => c.Step now none (.ok ()) es left := by
  rw [discard]
  cases phase : c.phase with
  | notOpen =>
      have idle : c.status = .notOpen := congrArg Phase.status phase
      exact .pure (.vanishes idle)
  | _ =>
      have live : c.status ≠ .notOpen := by simp [Connection.status, phase, Phase.status]
      refine .after (Act.log_yields _) fun _ => ?_
      refine (windDown_yields sound live).mono ?_
      rintro _ _ ⟨rfl, rfl⟩
      exact .abandons live

theorem send_step (bytes : List UInt8) :
    (c.send bytes ticket).Yields fun r es => c.Step now (some (.send bytes ticket)) r.1 es r.2 := by
  rw [send]
  cases phase : c.phase with
  | opened channel =>
      have opened : c.status = .opened := congrArg Phase.status phase
      refine .after Act.granting_yields fun grants => ?_
      cases pushed : c.outbox.push grants bytes ticket with
      | error e =>
          obtain ⟨size, rfl⟩ : ∃ size, e = .allocation size := by
            simp only [Outbox.push] at pushed
            split at pushed
            · exact ⟨_, (Except.error.inj pushed).symm⟩
            · split at pushed
              · exact ⟨_, (Except.error.inj pushed).symm⟩
              · cases pushed
          exact .pure (.sendUnaffordable opened size)
      | ok queue =>
          have messages := Outbox.messages_push pushed
          obtain rfl : queue = ⟨c.outbox.messages ++ [.fresh bytes ticket]⟩ := by rw [← messages]
          refine .after (Act.log_yields _) fun _ => .pure ?_
          have queued : c.Step now (some (.send bytes ticket)) _ _ _ := .queues opened
          simpa [Outbox.size, ← phase] using queued
  | _ =>
      have unopened : c.status ≠ .opened := by simp [Connection.status, phase, Phase.status]
      exact .pure (.sendRejected unopened)

theorem poll_step (sound : c.Sound) :
    (c.poll now).Yields fun left es => c.Step now (some .poll) (.ok ()) es left := by
  rw [poll]
  cases phase : c.phase with
  | notOpen => exact .pure (.rests (.inl (congrArg Phase.status phase)))
  | failed => exact .pure (.rests (.inr (congrArg Phase.status phase)))
  | resolving query =>
      obtain ⟨ticket, owner⟩ := sound.owner phase nofun
      exact (pollQuery_opens phase owner).mono fun _ _ opened => .opens owner opened
  | connecting dial =>
      obtain ⟨ticket, owner⟩ := sound.owner phase nofun
      exact (pollDial_opens phase (sound.dialing dial phase) owner).mono fun _ _ opened =>
        .opens owner opened
  | handshaking channel =>
      obtain ⟨ticket, owner⟩ := sound.owner phase nofun
      exact (pollHandshake_opens phase owner).mono fun _ _ opened => .opens owner opened
  | opened channel =>
      obtain ⟨ticket, owner⟩ := sound.owner phase nofun
      exact (transfer_transfers channel owner sound.outbox).mono fun _ _ transferred =>
        .transfers owner phase transferred

/-- Every answer to a request is one of the cases. -/
theorem carryOut_step (sound : c.Sound) (now : Instant) (request : Request) :
    (c.carryOut now request).Yields fun r es => c.Step now (some request) r.1 es r.2 := by
  cases request with
  | start ticket => exact start_step
  | close ticket => exact close_step sound
  | send bytes ticket => exact send_step bytes
  | poll =>
      refine Act.Yields.bind (poll_step sound) fun left es step => .pure ?_
      rw [List.append_nil]
      exact step
  | setOption name value => exact .after (Act.log_yields _) fun _ => .pure .ignores

end Connection
end PolledTls
