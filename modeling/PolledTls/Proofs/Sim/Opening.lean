import Mathlib.Tactic.SplitIfs
import PolledTls.Proofs.OpenCompletion
import PolledTls.Proofs.OpenTimeout
import PolledTls.Proofs.Sim.Pacing
import PolledTls.Proofs.Sim.Script

/-!
How many polls an open takes. On a simulated network each opening phase counts down the delay that
was set when it began, and the poll that finds it at an end goes on to the next phase.
-/
namespace PolledTls

theorem Phase.eq_notOpen {P : Platform} {phase : Phase P} (idle : phase.status = .notOpen) :
    phase = .notOpen := by
  cases phase <;> first | rfl | cases idle

namespace Connection

variable {P : Platform} {c : Connection P} {now : Instant} {s first second third last : P.State}

/-! What an open and the polls of the opening phases leave, by the answers of the platform. -/

theorem start_of_lookup {ticket : Ticket} {lookup : P.Lookup} (phase : c.phase = .notOpen)
    (begun : P.beginLookup c.host s = (.ok lookup, last)) :
    (c.start now ticket s).value = (.ok (), { c with
      phase := .resolving ⟨c.host, lookup⟩
      listener := some ⟨ticket, true⟩
      openDeadline := some ⟨now, c.config.operationTimeout⟩ }) := by
  simp [start, phase, Query.start, Act.beginLookup, begun, Act.log, Act.emit]

theorem start_of_refusal {ticket : Ticket} {e : Error} (phase : c.phase = .notOpen)
    (refused : P.beginLookup c.host s = (.error e, last)) :
    (c.start now ticket s).value.1 = .error e.asDns := by
  simp [start, phase, Query.start, Act.beginLookup, refused]

theorem poll_resolving_waits {hostname : String} {lookup left : P.Lookup}
    (phase : c.phase = .resolving ⟨hostname, lookup⟩)
    (inTime : c.openDeadline.bind (·.passed? now) = none)
    (incomplete : P.isComplete lookup s = (false, left, last)) :
    (c.poll now s).value = { c with phase := .resolving ⟨hostname, left⟩ } := by
  simp [poll, phase, pollQuery, Query.poll, Act.isComplete, incomplete, checkDeadline, inTime]

theorem poll_resolving_moves {hostname : String} {lookup left : P.Lookup} {ip : IPv4}
    {socket : P.Socket} (phase : c.phase = .resolving ⟨hostname, lookup⟩)
    (complete : P.isComplete lookup s = (true, left, first))
    (found : P.result left first = (some ip, second)) (somewhere : ip ≠ .unspecified)
    (begun : P.beginConnect ⟨ip, c.port⟩ (P.releaseLookup left second) = (.ok socket, last)) :
    (c.poll now s).value = { c with phase := .connecting ⟨⟨ip, c.port⟩, some socket⟩ } := by
  simp [poll, phase, pollQuery, Query.poll, Act.isComplete, complete, Act.result, found, somewhere,
    Query.release, Act.releaseLookup, Dial.start, Act.beginConnect, begun, Act.log, Act.emit]

theorem poll_connecting_waits {endpoint : Endpoint} {socket left : P.Socket}
    (phase : c.phase = .connecting ⟨endpoint, some socket⟩)
    (inTime : c.openDeadline.bind (·.passed? now) = none)
    (pending : P.pollConnect socket s = (.ok false, left, last)) :
    (c.poll now s).value = { c with phase := .connecting ⟨endpoint, some left⟩ } := by
  simp [poll, phase, pollDial, Dial.poll, Act.pollConnect, pending, checkDeadline, inTime]

theorem poll_connecting_moves {endpoint : Endpoint} {socket left : P.Socket} {context : P.Context}
    {session bound : P.Session} (phase : c.phase = .connecting ⟨endpoint, some socket⟩)
    (connected : P.pollConnect socket s = (.ok true, left, first))
    (made : P.newContext first = (.ok context, second))
    (opened : P.newSession context c.host second = (.ok session, third))
    (binds : P.bindSocket session left third = (.ok (), bound, last)) :
    (c.poll now s).value =
      { c with phase := .handshaking ⟨bound, left, context, c.host⟩ } := by
  simp [poll, phase, pollDial, Dial.poll, Act.pollConnect, connected, Channel.start,
    Act.newContext, made, Act.newSession, opened, Act.bindSocket, binds, Act.log, Act.emit]

theorem poll_handshaking_waits {channel : Channel P} {session : P.Session} {e : IoError}
    (phase : c.phase = .handshaking channel)
    (inTime : c.openDeadline.bind (·.passed? now) = none) (notReady : e.kind.isNotReady = true)
    (pending : P.handshake channel.session s = (.error e, session, last)) :
    (c.poll now s).value = { c with phase := .handshaking { channel with session } } := by
  simp [poll, phase, pollHandshake, Channel.handshake, Act.handshake, pending, notReady,
    checkDeadline, inTime]

theorem phase_settleOpen (c : Connection P) (result : Completion) (s : P.State) :
    (c.settleOpen result s).value.phase = c.phase := by
  unfold settleOpen
  rcases c.listener with _ | ⟨ticket, _ | _⟩ <;> rfl

theorem poll_handshaking_completes {channel : Channel P} {session : P.Session}
    (phase : c.phase = .handshaking channel)
    (done : P.handshake channel.session s = (.ok (), session, last)) :
    (c.poll now s).value.phase = .opened { channel with session } := by
  simp [poll, phase, pollHandshake, Channel.handshake, Act.handshake, done, phase_settleOpen]

/-- A connection at work that is not polled stays in its phase as long as the attempt goes on. -/
theorem Step.of_unpolled {left : Connection P} {request : Option Request}
    {result : Except Error Unit} {es : List Event} (h : c.Step now request result es left)
    (live : c.status ≠ .notOpen)
    (goesOn : Entry.ends ⟨c, now, request, result, es, left⟩ = false)
    (unpolled : request ≠ some .poll) : left.phase = c.phase ∧ left.listener = c.listener := by
  cases h with
  | starts idle lookup => exact absurd idle live
  | closes live | vanishes idle | abandons live => cases goesOn
  | rests | opens | transfers => exact absurd rfl unpolled
  | _ => exact ⟨rfl, rfl⟩

end Connection

namespace Sim

namespace Network

/-- No step of an attempt to open is set to fail, nor the next read or write, and the name has an
address. -/
structure Unfailing (net : Network) : Prop extends net.Faultless where
  resolves : ∃ ip, net.address = some ip ∧ ip ≠ .unspecified
  dials : net.refusesConnects = false
  connects : net.connectFault = none
  builds : net.failingStep = none
  agrees : net.handshakeFails = false

/-- How many more times a lookup, a connect and a handshake answer that they are not ready. -/
structure Delays where
  lookup : Nat
  connect : Nat
  handshake : Nat

def delays (net : Network) : Delays :=
  ⟨net.lookupDelay, net.connectDelay, net.handshakeDelay⟩

namespace Delays

/-- The status after so many polls of an attempt to open. -/
def statusAfter (d : Delays) (polls : Nat) : Status :=
  if polls ≤ d.lookup then .openingDns
  else if polls ≤ d.lookup + d.connect + 1 then .openingSocket
  else if polls ≤ d.lookup + d.connect + d.handshake + 2 then .openingTls
  else .opened

/-- How many polls an open takes: one more than its delay for each phase. -/
def total (d : Delays) : Nat :=
  d.lookup + d.connect + d.handshake + 3

/-- A phase after so many polls of an attempt to open: what is left of its delay is what has not
been polled away since it began. -/
inductive Reached (d : Delays) (polls : Nat) : Phase platform → Prop
  | resolving {hostname : String} {lookup : Lookup} (left : lookup.remaining + polls = d.lookup) :
      Reached d polls (.resolving ⟨hostname, lookup⟩)
  | connecting {endpoint : Endpoint} {socket : Socket} (fine : socket.fault = none)
      (began : d.lookup < polls) (left : socket.remaining + polls = d.lookup + d.connect + 1) :
      Reached d polls (.connecting ⟨endpoint, some socket⟩)
  | handshaking {session : Session} {socket : Socket} {serverName : String}
      (bound : session.bound = true) (fine : session.fails = false)
      (began : d.lookup + d.connect + 1 < polls)
      (left : session.remaining + polls = d.lookup + d.connect + d.handshake + 2) :
      Reached d polls (.handshaking ⟨session, socket, (), serverName⟩)
  | opened {channel : Channel platform} (began : d.lookup + d.connect + d.handshake + 2 < polls) :
      Reached d polls (.opened channel)

variable {d : Delays} {polls : Nat}

theorem statusAfter_live (d : Delays) (polls : Nat) : d.statusAfter polls ≠ .notOpen := by
  unfold statusAfter
  split_ifs <;> nofun

theorem isOpening_statusAfter (d : Delays) (polls : Nat) :
    (d.statusAfter polls).isOpening = decide (polls < d.total) := by
  unfold statusAfter total
  split_ifs <;> simp [Status.isOpening] <;> omega

theorem settlement_statusAfter (d : Delays) (polls : Nat) :
    Connection.settlement (d.statusAfter polls) = if polls < d.total then none else some .ok := by
  unfold statusAfter total
  split_ifs <;> first | rfl | omega

/-- The completion is owed until the poll that is the last. -/
theorem owes_statusAfter (d : Delays) (polls : Nat) :
    ((d.statusAfter polls).isOpening &&
      (Connection.settlement (d.statusAfter (polls + 1))).isNone) =
        (d.statusAfter (polls + 1)).isOpening := by
  rw [isOpening_statusAfter, isOpening_statusAfter, settlement_statusAfter]
  by_cases early : polls + 1 < d.total
  · simp [early, Nat.lt_of_succ_lt early]
  · simp [early]

theorem due_statusAfter (d : Delays) (polls : Nat) :
    (if (d.statusAfter polls).isOpening then
      (Connection.settlement (d.statusAfter (polls + 1))).toList else []) =
        if polls + 1 = d.total then [.ok] else [] := by
  rw [isOpening_statusAfter, settlement_statusAfter]
  rcases Nat.lt_trichotomy (polls + 1) d.total with early | last | late
  · simp [early, Nat.ne_of_lt early]
  · simp [← last]
  · have settled : ¬ polls < d.total := by omega
    simp [settled, Nat.ne_of_gt late]

theorem Reached.status_eq {phase : Phase platform} (h : d.Reached polls phase) :
    phase.status = d.statusAfter polls := by
  unfold statusAfter
  cases h with
  | resolving left =>
      rw [if_pos (by omega)]
      rfl
  | connecting fine began left =>
      rw [if_neg (by omega), if_pos (by omega)]
      rfl
  | handshaking bound fine began left =>
      rw [if_neg (by omega), if_neg (by omega), if_pos (by omega)]
      rfl
  | opened began =>
      rw [if_neg (by omega), if_neg (by omega), if_neg (by omega)]
      rfl

end Delays

variable {net : Network} {polls : Nat} {c : Connection platform} {now : Instant}

/-! What an unfailing network answers. -/

theorem Unfailing.begins (h : net.Unfailing) (endpoint : Endpoint) :
    ∃ last, beginConnect endpoint (releaseLookup net) = (.ok ⟨net.connectDelay, none⟩, last) := by
  simp [beginConnect, releaseLookup, h.dials, h.connects]

/-- A session is made with the delay set at that time and bound. -/
theorem Unfailing.binds (h : net.Unfailing) (serverName : String) (socket : Socket) :
    ∃ first second last, newContext net = (.ok (), first) ∧
      newSession () serverName first = (.ok ⟨net.handshakeDelay, false, false⟩, second) ∧
      bindSocket ⟨net.handshakeDelay, false, false⟩ socket second =
        (.ok (), ⟨net.handshakeDelay, false, true⟩, last) := by
  simp [newContext, newSession, bindSocket, h.builds, h.agrees]

/-- A poll in time takes one off the delay, or finds it at an end and goes on to the next phase. -/
theorem reached_poll (h : net.delays.Reached polls c.phase) (unfailing : net.Unfailing)
    (inTime : c.openDeadline.bind (·.passed? now) = none) :
    net.delays.Reached (polls + 1) (c.poll now net).value.phase := by
  generalize phase : c.phase = reached at h
  cases h with
  | @resolving hostname lookup left =>
      rcases remaining : lookup.remaining with _ | more
      · obtain ⟨ip, found, somewhere⟩ := unfailing.resolves
        obtain ⟨last, begun⟩ := unfailing.begins ⟨ip, c.port⟩
        have complete : isComplete lookup net = (true, ⟨0⟩, net) := by
          simp [isComplete, remaining]
        have result : (net.address, net) = (some ip, net) := by rw [found]
        rw [Connection.poll_resolving_moves phase complete result somewhere begun]
        exact .connecting rfl (by omega) (by dsimp only [delays] at left ⊢; omega)
      · have incomplete : isComplete lookup net = (false, ⟨more⟩, net) := by
          simp [isComplete, remaining]
        rw [Connection.poll_resolving_waits phase inTime incomplete]
        exact .resolving (by dsimp only; omega)
  | @connecting endpoint socket fine began left =>
      rcases remaining : socket.remaining with _ | more
      · have connected : pollConnect socket net = (.ok true, socket, net) := by
          simp [pollConnect, remaining, fine]
        obtain ⟨_, _, _, made, opened, binds⟩ := unfailing.binds c.host socket
        rw [Connection.poll_connecting_moves phase connected made opened binds]
        exact .handshaking rfl rfl (by omega) (by dsimp only [delays] at left ⊢; omega)
      · have pending : pollConnect socket net =
            (.ok false, { socket with remaining := more }, net) := by
          simp [pollConnect, remaining]
        rw [Connection.poll_connecting_waits phase inTime pending]
        exact .connecting fine (by omega) (by dsimp only; omega)
  | @handshaking session socket serverName bound fine began left =>
      rcases remaining : session.remaining with _ | more
      · have done : handshake session net = (.ok (), session, net) := by
          simp [handshake, bound, remaining, fine]
        rw [Connection.poll_handshaking_completes phase done]
        exact .opened (by omega)
      · have pending : handshake session net =
            (.error IoKind.wouldBlock.error, { session with remaining := more }, net) := by
          simp [handshake, bound, remaining]
        rw [Connection.poll_handshaking_waits phase inTime rfl pending]
        exact .handshaking bound fine (by omega) (by dsimp only; omega)
  | @opened channel began =>
      have calm : net.Alike net := ⟨rfl, unfailing.reads, unfailing.writes⟩
      have polled : c.Akin (c.poll now net).value := (blind.poll_opened (.refl _) phase net calm).1
      rw [polled.phase_eq, phase]
      exact .opened (by omega)

theorem delays_of_script {other : Network} (same : other.script = net.script) :
    other.delays = net.delays := by
  change other.script.delays = net.script.delays
  rw [same]

theorem Unfailing.of_script {other : Network} (h : net.Unfailing)
    (same : other.script = net.script) : other.Unfailing where
  reads := (congrArg readFault same).trans h.reads
  writes := (congrArg writeFault same).trans h.writes
  resolves := by
    obtain ⟨ip, found, somewhere⟩ := h.resolves
    exact ⟨ip, (congrArg address same).trans found, somewhere⟩
  dials := (congrArg refusesConnects same).trans h.dials
  connects := (congrArg connectFault same).trans h.connects
  builds := (congrArg failingStep same).trans h.builds
  agrees := (congrArg handshakeFails same).trans h.agrees

end Network

namespace Rig

open Connection (Request)

/-- Whether the deed goes on with an attempt: the network keeps its script, and the connection is
not closed. -/
def Deed.goesOn : Deed → Bool
  | .close => false
  | deed => deed.unscripted

/-- A rig so many polls into an attempt to open that was begun at a reading of the clock, with the
network scripted as it was then. -/
structure Opening (rig : Rig) (start : Network) (began : Instant) (polls : Nat) : Prop where
  script : rig.network.script = start.script
  reached : start.delays.Reached polls rig.connection.phase
  owes : rig.connection.owes plainTicket = rig.status.isOpening
  armed : rig.connection.ArmedAt (some began)

variable {rig : Rig} {start : Network} {began : Instant} {polls : Nat} {deed : Deed}
  {config : Config} {calls : List (Entry Network.platform)}

namespace Opening

theorem status_eq (h : rig.Opening start began polls) :
    rig.status = start.delays.statusAfter polls :=
  h.reached.status_eq

theorem live (h : rig.Opening start began polls) : rig.connection.status ≠ .notOpen := by
  intro idle
  have status : rig.connection.status = _ := h.status_eq
  rw [status] at idle
  exact start.delays.statusAfter_live polls idle

/-- An open that is accepted begins an attempt, with the delay of the lookup ahead. -/
theorem of_start (sound : rig.connection.Sound) (fine : rig.network.Unfailing)
    (accepted : rig.start.1 = .ok ()) :
    rig.start.2.Opening rig.network rig.clock.now 0 := by
  have answer : (rig.connection.start rig.clock.now plainTicket rig.network).value.1 = .ok () :=
    accepted
  have begins : (rig.entry (.start plainTicket)).begins = true := by
    rw [Entry.begins, show (rig.entry (.start plainTicket)).result = .ok () from accepted]
    rfl
  have step := Connection.carryOut_step sound rig.clock.now (.start plainTicket) rig.network
  have idle := Phase.eq_notOpen (step.idle_of_begins begins)
  cases refuses : rig.network.refusesLookups with
  | true =>
      obtain ⟨e, refused⟩ : ∃ e, Network.beginLookup rig.connection.host rig.network =
          (.error e, rig.network) := by
        simp [Network.beginLookup, refuses]
      rw [Connection.start_of_refusal idle refused] at answer
      cases answer
  | false =>
      obtain ⟨last, begun⟩ : ∃ last, Network.beginLookup rig.connection.host rig.network =
          (.ok ⟨rig.network.lookupDelay⟩, last) := by
        simp [Network.beginLookup, refuses]
      have left : rig.start.2.connection = { rig.connection with
          phase := .resolving ⟨rig.connection.host, (⟨rig.network.lookupDelay⟩ : Network.Lookup)⟩
          listener := some ⟨plainTicket, true⟩
          openDeadline := some ⟨rig.clock.now, rig.connection.config.operationTimeout⟩ } :=
        congrArg Prod.snd (Connection.start_of_lookup idle begun)
      have script := script_request ⟨fine.reads, fine.writes⟩ (.start plainTicket)
      refine ⟨script, ?_, ?_, fun _ => ⟨_, rfl, ?_⟩⟩
      · rw [left]
        exact .resolving rfl
      · rw [status, left]
        rfl
      · rw [left]

/-- The deadline of the attempt does not count at a poll within the window. -/
theorem inTime (h : rig.Opening start began polls) (sound : rig.connection.Sound)
    (within : rig.clock.now ≤ began + rig.connection.config.operationTimeout) :
    rig.connection.openDeadline.bind (·.passed? rig.clock.now) = none := by
  cases opening : rig.connection.status.isOpening with
  | false =>
      have unarmed : rig.connection.openDeadline.isSome = false := sound.armed.trans opening
      rw [Option.isSome_eq_false_iff, Option.isNone_iff_eq_none] at unarmed
      rw [unarmed]
      rfl
  | true =>
      obtain ⟨_, ⟨rfl⟩, armed⟩ := h.armed opening
      rw [armed, Option.bind_some, Deadline.passed?_eq_none_iff, Deadline.elapsed_eq]
      exact Nat.sub_le_iff_le_add'.mpr within

/-- A poll in time goes one poll on, and fires the completion exactly if it is the last. -/
theorem poll (h : rig.Opening start began polls) (sound : rig.connection.Sound)
    (unfailing : start.Unfailing)
    (within : rig.clock.now ≤ began + rig.connection.config.operationTimeout) :
    rig.poll.Opening start began (polls + 1) ∧
      Event.opened plainTicket (rig.entry .poll).events =
        if polls + 1 = start.delays.total then [.ok] else [] := by
  have fine := unfailing.of_script h.script
  have step := Connection.carryOut_step sound rig.clock.now .poll rig.network
  have reached : start.delays.Reached (polls + 1) rig.poll.connection.phase := by
    have before := h.reached
    rw [← Network.delays_of_script h.script] at before ⊢
    exact Network.reached_poll before fine (h.inTime sound within)
  have script := (script_request ⟨fine.reads, fine.writes⟩ .poll).trans h.script
  have before : rig.connection.status = start.delays.statusAfter polls := h.status_eq
  have left : rig.poll.connection.status = start.delays.statusAfter (polls + 1) := reached.status_eq
  have owes : rig.poll.connection.owes plainTicket =
      (rig.connection.owes plainTicket &&
        (Connection.settlement rig.poll.connection.status).isNone) := step.owes sound plainTicket
  have fired : Event.opened plainTicket (rig.entry .poll).events =
      if rig.connection.owes plainTicket then
        (Connection.settlement rig.poll.connection.status).toList else [] :=
    step.opened sound plainTicket
  rw [h.owes, Rig.status, before, left] at owes fired
  rw [Network.Delays.owes_statusAfter, ← left] at owes
  rw [Network.Delays.due_statusAfter] at fired
  exact ⟨⟨script, reached, owes, step.armedAt sound h.armed⟩, fired⟩

/-- Whatever else is asked that does not end the attempt goes by. -/
theorem of_unpolled (h : rig.Opening start began polls) (sound : rig.connection.Sound)
    (unfailing : start.Unfailing) (request : Request) (goesOn : (rig.entry request).ends = false)
    (unpolled : request ≠ .poll) :
    (rig.request request).2.Opening start began polls ∧
      .ok ∉ Event.opened plainTicket (rig.entry request).events := by
  have fine := unfailing.of_script h.script
  have step := Connection.carryOut_step sound rig.clock.now request rig.network
  have other : some request ≠ some .poll := unpolled ∘ Option.some.inj
  obtain ⟨phase, listener⟩ := step.of_unpolled h.live goesOn other
  have armed : (rig.request request).2.connection.ArmedAt
      (if (rig.entry request).begins then some rig.clock.now else some began) :=
    step.armedAt sound h.armed
  have begins : ¬ (rig.entry request).begins = true :=
    fun begins => h.live (step.idle_of_begins begins)
  rw [if_neg begins] at armed
  refine ⟨⟨?_, phase ▸ h.reached, ?_, armed⟩, ?_⟩
  · exact (script_request ⟨fine.reads, fine.writes⟩ request).trans h.script
  · have owes : (rig.request request).2.connection.owes plainTicket =
        rig.connection.owes plainTicket := congrArg (fun l => decide (l = _)) listener
    have status : (rig.request request).2.status = rig.status := congrArg Phase.status phase
    rw [owes, status, h.owes]
  · have fired : Event.opened plainTicket (rig.entry request).events = _ :=
      step.opened sound plainTicket
    rw [fired, Connection.ok_mem_due]
    exact fun asked => other asked.1

/-- A deed that goes on with the attempt counts if it is a poll, and fires the completion exactly if
it is the last poll of the open. -/
theorem act (h : rig.Opening start began polls) (sound : rig.connection.Sound)
    (unfailing : start.Unfailing) (goesOn : deed.goesOn = true)
    (within : deed.isPoll = true →
      rig.clock.now ≤ began + rig.connection.config.operationTimeout) :
    (rig.act deed).Opening start began (polls + [deed].countP Deed.isPoll) ∧
      let fired := Event.opened plainTicket (Entry.eventsOf (rig.calls [deed]))
      if deed.isPoll then fired = (if polls + 1 = start.delays.total then [.ok] else [])
      else .ok ∉ fired := by
  cases deed with
  | close => cases goesOn
  | poll =>
      rw [eventsOf_calls rfl]
      exact h.poll sound unfailing (within rfl)
  | start =>
      rw [eventsOf_calls rfl]
      exact h.of_unpolled sound unfailing (.start plainTicket) rfl nofun
  | setOption name value =>
      rw [eventsOf_calls rfl]
      exact h.of_unpolled sound unfailing (.setOption name value) rfl nofun
  | send bytes =>
      obtain ⟨later, unfired⟩ := h.of_unpolled sound unfailing (.send bytes rig.sends) rfl nofun
      obtain ⟨sends, same⟩ := rig.send_request bytes
      rw [eventsOf_calls rfl, Rig.act, same]
      exact ⟨⟨later.script, later.reached, later.owes, later.armed⟩, unfired⟩
  | advance step =>
      refine ⟨?_, List.not_mem_nil⟩
      rw [Rig.act, advance?]
      cases rig.clock.advance? step <;> exact ⟨h.script, h.reached, h.owes, h.armed⟩
  | commands list =>
      refine ⟨⟨?_, h.reached, h.owes, h.armed⟩, List.not_mem_nil⟩
      exact (Network.script_commands goesOn).trans h.script

/-- Deeds that go on with the attempt count as many polls as are among them. -/
theorem actAll (h : rig.Opening start began polls) (traces : rig.Traces config calls)
    (unfailing : start.Unfailing) {deeds : List Deed} (goesOn : ∀ deed ∈ deeds, deed.goesOn = true)
    (within : ∀ n (inside : n < deeds.length), deeds[n].isPoll = true →
      (rig.actAll (deeds.take n)).clock.now ≤ began + config.operationTimeout) :
    (rig.actAll deeds).Opening start began (polls + deeds.countP Deed.isPoll) := by
  induction deeds generalizing rig polls calls with
  | nil => exact h
  | cons deed rest ih =>
      obtain ⟨first, others⟩ := List.forall_mem_cons.mp goesOn
      obtain ⟨more, moves⟩ := rig.act_moves deed
      have same : rig.connection.config = config := traces.linked.config
      have inTime : deed.isPoll = true →
          rig.clock.now ≤ began + rig.connection.config.operationTimeout := by
        rw [same]
        exact within 0 (Nat.zero_lt_succ _)
      have next := (h.act traces.sound unfailing first inTime).1
      rw [← List.singleton_append, List.countP_append, ← Nat.add_assoc]
      exact ih next (moves.traces traces) others fun n inside =>
        within (n + 1) (Nat.succ_lt_succ inside)

end Opening
end Rig

/-- An open takes one poll more than its delay for each of lookup, connect and handshake. On a
network where no step is set to fail, after an open that was accepted, and with the clock at every
poll within the window of the open: whatever else a rig is put through short of a close and of other
commands than deliveries, its status is a matter of how many polls there were, and the completion
fires in the poll that comes last and in no other. -/
theorem open_takes_its_delays (name : String) (config : Config) (network : Network) (rig : Rig)
    (past deeds : List Rig.Deed) (created : Rig.create name config network = .ok rig)
    (unfailing : (rig.actAll past).network.Unfailing)
    (accepted : (rig.actAll past).start.1 = .ok ())
    (goesOn : ∀ deed ∈ deeds, deed.goesOn = true)
    (within : ∀ n (inside : n < deeds.length), deeds[n].isPoll = true →
      (((rig.actAll past).act .start).actAll (deeds.take n)).clock.now ≤
        (rig.actAll past).clock.now + config.operationTimeout) :
    let opened := (rig.actAll past).act .start
    let delays := (rig.actAll past).network.delays
    (opened.actAll deeds).status = delays.statusAfter (deeds.countP Rig.Deed.isPoll) ∧
      ∀ n (inside : n < deeds.length),
        let fired := Event.opened Rig.plainTicket
          (Entry.eventsOf ((opened.actAll (deeds.take n)).calls [deeds[n]]))
        (deeds[n].isPoll = true → fired =
          if (deeds.take n).countP Rig.Deed.isPoll + 1 = delays.total then [.ok] else []) ∧
        (deeds[n].isPoll = false → .ok ∉ fired) := by
  intro opened delays
  obtain ⟨calls, traces⟩ := Rig.actAll_traces (Rig.traces_create created) past
  obtain ⟨begun, whole⟩ := Rig.actAll_traces traces [.start]
  have start : opened.Opening (rig.actAll past).network (rig.actAll past).clock.now 0 :=
    .of_start traces.sound unfailing accepted
  have reached (n : Nat) : (opened.actAll (deeds.take n)).Opening (rig.actAll past).network
      (rig.actAll past).clock.now ((deeds.take n).countP Rig.Deed.isPoll) := by
    rw [← Nat.zero_add (List.countP _ _)]
    refine start.actAll whole unfailing (fun deed member => goesOn deed ?_) fun m inside polls => ?_
    · exact List.mem_of_mem_take member
    · rw [List.length_take, Nat.lt_min] at inside
      rw [List.getElem_take] at polls
      rw [List.take_take, Nat.min_eq_left (Nat.le_of_lt inside.1)]
      exact within m inside.2 polls
  constructor
  · have last := (reached deeds.length).status_eq
    rw [List.take_length] at last
    exact last
  · intro n inside
    obtain ⟨more, here⟩ := Rig.actAll_traces whole (deeds.take n)
    have same : (opened.actAll (deeds.take n)).connection.config = config := here.linked.config
    have inTime := within n inside
    rw [← same] at inTime
    have follows := goesOn _ (List.getElem_mem inside)
    have fired := ((reached n).act here.sound unfailing follows inTime).2
    constructor
    · intro polls
      rwa [if_pos polls] at fired
    · intro unpolled
      rwa [if_neg (Bool.eq_false_iff.mp unpolled)] at fired

/-- Delays of 2, 1 and 3, so nine polls. Among them are a send that comes too early, a delivery, and
a wait for as long as the window; a tenth poll comes after that. -/
theorem open_takes_its_delays_nine :
    let config : Config := { host := "h", port := 1, operationTimeout := 10 }
    let setup := [.delayLookups 2, .delayConnects 1, .delayHandshakes 3]
    let deeds := [.poll, .poll, .send [7], .poll, .poll, .advance 10, .poll, .poll,
      .commands [.deliver [1, 2]], .poll, .start, .poll, .poll, .poll]
    ∃ rig, Rig.create "client" config (Network.ofSeed 0) = .ok rig ∧
      let ready := rig.actAll [.commands setup]
      let opened := ready.act .start
      ready.network.delays.total = 9 ∧ (opened.actAll (deeds.take 12)).status = .openingTls ∧
        (opened.actAll deeds).status = .opened ∧
        Event.opened Rig.plainTicket
          (Entry.eventsOf ((opened.actAll (deeds.take 12)).calls [.poll])) = [.ok] ∧
        Event.opened Rig.plainTicket
          (Entry.eventsOf ((opened.actAll (deeds.take 13)).calls [.poll])) = [] := by
  intro config setup deeds
  have checked : Config.check { host := "h", port := 1, operationTimeout := 10 } = .ok () := rfl
  have created := Rig.create_ok checked "client" (Network.ofSeed 0) rfl
  have takes := open_takes_its_delays _ _ _ _ [.commands setup] deeds created
    ⟨⟨rfl, rfl⟩, ⟨_, rfl, by decide⟩, rfl, rfl, rfl, rfl⟩ rfl (by decide +kernel)
    (by decide +kernel)
  refine ⟨_, created, by decide +kernel, by decide +kernel, takes.1, ?_, ?_⟩
  · exact (takes.2 12 (by decide)).1 rfl
  · exact (takes.2 13 (by decide)).1 rfl

end Sim
end PolledTls
