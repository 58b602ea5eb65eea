import PolledTls.Proofs.Parallel
import PolledTls.Proofs.Sends
import PolledTls.Proofs.Sim.Backlog
import PolledTls.Proofs.Sim.Script

/-!
An open connection at work on its queue over a network that takes every write in pieces of one size.
Each poll sends one piece of the head, whatever the peer delivers, and a message completes with its
last piece.
-/
namespace PolledTls

theorem Phase.eq_opened {P : Platform} {phase : Phase P} (opened : phase.status = .opened) :
    ∃ channel, phase = .opened channel := by
  cases phase with
  | opened channel => exact ⟨channel, rfl⟩
  | _ => cases opened

/-- The bytes of a message that have not left, and its ticket. -/
def Message.waits (m : Message) : List UInt8 × Ticket :=
  (m.rest.toList, m.ticket)

theorem Outbox.eq_of_messages {o : Outbox} {messages : List Message} (h : o.messages = messages) :
    o = ⟨messages⟩ := by
  cases h
  rfl

namespace Connection

variable {P : Platform} {c : Connection P} {now : Instant} {s middle last : P.State}
  {channel : Channel P} {m : Message} {rest : List Message}

/-! What a poll of an open connection leaves, by the answers of the platform. -/

theorem serviceHead_rests (nothing : c.outbox.messages = []) :
    c.serviceHead now channel s = ⟨{ c with phase := .opened channel }, s, []⟩ := by
  simp [serviceHead, Outbox.head?, nothing]

theorem serviceHead_passes (head : c.outbox.messages = m :: rest)
    (inTime : (m.deadlineAt now c.config.sendTimeout).passed? now = none)
    (nothing : m.unsent = 0) :
    c.serviceHead now channel s =
      ⟨{ c with phase := .opened channel, outbox := ⟨rest⟩ }, s,
        [.callback (.sent m.ticket .ok)]⟩ := by
  have queue := Outbox.eq_of_messages head
  simp [serviceHead, queue, Outbox.head?, inTime, nothing, completeHead, Outbox.mapHead, Outbox.pop,
    Act.fireAll, Message.completion]

/-- What a write that is taken comes to, in part or as a whole. -/
theorem write_takes {offered : Bytes} {count : Nat} {session : P.Session}
    (answer : P.write offered channel.session s = ({ answer := .ok count }, session, last))
    (moved : count ≠ 0) (within : count ≤ offered.size) :
    channel.write offered s =
      ⟨(.done count, { channel with session }), last,
        [.call (.write offered.toList (.ok count))]⟩ := by
  simp [Channel.write, Act.write, answer, moved, Nat.min_eq_left within]

/-- A write that takes a part of the head leaves the rest of it. -/
theorem serviceHead_writes {count : Nat} {session : P.Session} (sound : m.Sound)
    (head : c.outbox.messages = m :: rest)
    (inTime : (m.deadlineAt now c.config.sendTimeout).passed? now = none)
    (answer : P.write m.rest channel.session s = ({ answer := .ok count }, session, last))
    (moved : count ≠ 0) (part : count < m.unsent) :
    c.serviceHead now channel s =
      ⟨{ c with
          phase := .opened { channel with session }
          outbox := ⟨(m.arm now c.config.sendTimeout).accept count :: rest⟩ }, last,
        [.call (.write m.rest.toList (.ok count)), .log (.sent count (m.unsent - count))]⟩ := by
  have queue := Outbox.eq_of_messages head
  have within := Nat.le_of_lt part
  have wrote := write_takes answer moved within
  have tail : m.unsent ≤ m.size := sound.unsent_le
  have some : m.unsent ≠ 0 := by omega
  have left : m.unsent - count ≠ 0 := by omega
  have armed : (m.arm now c.config.sendTimeout).rest = m.rest := rfl
  have size : (m.arm now c.config.sendTimeout).size = m.size := rfl
  simp [serviceHead, queue, Outbox.head?, inTime, some, Outbox.mapHead, writeHead, Act.check, size,
    tail, armed, wrote, within, Act.log, Act.emit, left]

/-- A write that takes all that is left of the head completes it. -/
theorem serviceHead_finishes {session : P.Session} (sound : m.Sound)
    (head : c.outbox.messages = m :: rest)
    (inTime : (m.deadlineAt now c.config.sendTimeout).passed? now = none)
    (answer : P.write m.rest channel.session s = ({ answer := .ok m.unsent }, session, last))
    (some : m.unsent ≠ 0) :
    c.serviceHead now channel s =
      ⟨{ c with phase := .opened { channel with session }, outbox := ⟨rest⟩ }, last,
        [.call (.write m.rest.toList (.ok m.unsent)), .log (.sent m.unsent 0),
          .callback (.sent m.ticket .ok)]⟩ := by
  have queue := Outbox.eq_of_messages head
  have wrote := write_takes answer some (Nat.le_refl _)
  have tail : m.unsent ≤ m.size := sound.unsent_le
  have armed : (m.arm now c.config.sendTimeout).rest = m.rest := rfl
  have size : (m.arm now c.config.sendTimeout).size = m.size := rfl
  simp [serviceHead, queue, Outbox.head?, inTime, some, Outbox.mapHead, writeHead, Act.check, size,
    tail, armed, wrote, Act.log, Act.emit, completeHead, Outbox.pop, Act.fireAll,
    Message.completion]

theorem send_of_push {bytes : List UInt8} {ticket : Ticket} {outbox : Outbox}
    (phase : c.phase = .opened channel)
    (pushed : c.outbox.push (fun size => P.grants size s) bytes ticket = .ok outbox) :
    c.send bytes ticket s =
      ⟨(.ok (), { c with outbox }), s, [.log (.sendQueued bytes.length outbox.size)]⟩ := by
  simp [send, phase, Act.granting, pushed, Act.log, Act.emit]

theorem start_of_opened (now : Instant) (phase : c.phase = .opened channel) (ticket : Ticket) :
    c.start now ticket s = ⟨(.error (.invalidState c.status "open"), c), s,
      [.log (.openRejected c.host c.status), .callback (.opened ticket .error)]⟩ := by
  simp [start, phase, Act.log, Act.fire, Act.emit]

theorem deliver_unsettled (c : Connection P) (bytes : List UInt8) (s : P.State) :
    ∃ es, Event.settled es = [] ∧ c.deliver bytes s = ⟨(), s, es⟩ := by
  unfold deliver
  rcases c.listener with _ | listener
  · exact ⟨[], rfl, rfl⟩
  · exact ⟨[.callback (.received listener.ticket bytes)], rfl, rfl⟩

/-- A read that does not fail fires nothing about sends, and one step for the head of the queue
follows it. -/
theorem transfer_of_mild (now : Instant) {reading : Reading} {session : P.Session}
    (asked : P.read c.buffer.room channel.session s = (reading, session, middle))
    (mild : Act.Mild reading.answer) :
    let served := serviceHead { c with buffer := c.buffer.store reading.stored } now
      { channel with session } middle
    ∃ first, Event.settled first = [] ∧
      c.transfer now channel s = ⟨served.value, served.state, first ++ served.events⟩ := by
  intro served
  have noted : reading.notices.map (fun n => Event.log (.notice n)) =
      Event.remarks reading.notices := rfl
  generalize polled : Event.call (.read c.buffer.room (reading.stored.take c.buffer.room)
    reading.answer) :: Event.remarks reading.notices = first
  have remarked : Event.settled first = [] := by
    rw [← polled]
    simp [Event.settled]
  rcases answer : reading.answer with e | _ | count
  · have notReady := mild e answer
    refine ⟨first, remarked, ?_⟩
    simp [transfer, Channel.read, Act.read, asked, ← polled, answer, notReady, noted, served]
  · refine ⟨first, remarked, ?_⟩
    simp [transfer, Channel.read, Act.read, asked, ← polled, answer, noted, served]
  · generalize stored : c.buffer.store reading.stored = buffer at served
    have within : min (count + 1) buffer.room ≤ buffer.room := Nat.min_le_right _ _
    obtain ⟨handed, unsettled, delivered⟩ :=
      deliver_unsettled { c with buffer } (buffer.take (min (count + 1) buffer.room)) middle
    refine ⟨first ++ .log (.received (min (count + 1) buffer.room)) :: handed, ?_, ?_⟩
    · rw [Event.settled_append, remarked]
      exact unsettled
    · simp [transfer, Channel.read, Act.read, asked, stored, ← polled, answer, noted, Act.check,
        within, Act.log, Act.emit, delivered, served]

end Connection

/-! The network. -/

namespace Sim.Network

variable {net : Network} {limit : Nat}

/-- A read without a fault changes only what waits and the draws. -/
theorem read_of_faultless (faultless : net.Faultless) (room : Nat) (session : Session) :
    ∃ reading draws inbound,
      read room session net = (reading, session, { net with draws, inbound }) ∧
        Act.Mild reading.answer := by
  unfold read
  split
  case h_1 kind fault =>
    rw [faultless.reads] at fault
    cases fault
  case h_2 =>
    refine ⟨_, net.draws, net.inbound, rfl, ?_⟩
    rintro _ ⟨rfl⟩
    rfl
  case h_3 => exact ⟨_, _, _, rfl, nofun⟩

/-- The network once a write has offered something and so much of it was taken. -/
def wrote (net : Network) (offered : Bytes) (count : Nat) : Network :=
  { net with
    writeCalls := net.writeCalls.push (offered.size, count)
    written := net.written ++ offered.take count }

/-- A write in pieces without a fault takes a piece, or what is left. -/
theorem write_of_chunked (faultless : net.Faultless) (chunked : net.writeRule = .chunked limit)
    (positive : limit ≠ 0) {offered : Bytes} (some : offered.size ≠ 0) (session : Session) :
    write offered session net =
      ({ answer := .ok (min limit offered.size) }, session,
        net.wrote offered (min limit offered.size)) := by
  have moved : min limit offered.size ≠ 0 := by omega
  simp [write, faultless.writes, writeCount, chunked, moved, wrote]

/-- What has been written and what waits come to the stream, and the writes made and those ahead to
the offers. -/
structure Accounts (limit : Nat) (queue : Backlog) (stream : List UInt8) (offers : List (Nat × Nat))
    (net : Network) : Prop where
  written : net.written.toList ++ (queue.map Prod.fst).flatten = stream
  offered : net.writeCalls.toList ++
    (queue.map Prod.fst).flatMap (fun bytes => cuts limit bytes.length) = offers

namespace Accounts

variable {queue rest : Backlog} {stream : List UInt8} {offers : List (Nat × Nat)} {ticket : Ticket}

theorem wrote {bytes : Bytes}
    (h : net.Accounts limit ((bytes.toList, ticket) :: rest) stream offers)
    (positive : limit ≠ 0) (some : bytes.size ≠ 0) :
    (net.wrote bytes (min limit bytes.size)).Accounts limit
      (Backlog.pump limit ((bytes.toList, ticket) :: rest)) stream offers := by
  rw [Bytes.size_eq] at some ⊢
  constructor
  · rw [Network.wrote, Trail.toList_append, Bytes.take, ← List.take_eq_take_min, List.append_assoc,
      Backlog.take_append_pump]
    exact h.written
  · rw [Network.wrote, Trail.toList_push, Bytes.size_eq, List.append_assoc, List.singleton_append,
      Backlog.cut_cons_pump positive some]
    exact h.offered

/-- What is empty leaves without a write. -/
theorem passed (h : net.Accounts limit (([], ticket) :: rest) stream offers)
    (positive : limit ≠ 0) : net.Accounts limit rest stream offers := by
  refine ⟨h.written, ?_⟩
  have offered := h.offered
  rw [List.map_cons, List.flatMap_cons, List.length_nil, cuts_zero positive] at offered
  exact offered

theorem queued (h : net.Accounts limit queue stream offers) (bytes : List UInt8) (ticket : Ticket) :
    net.Accounts limit (queue ++ [(bytes, ticket)]) (stream ++ bytes)
      (offers ++ cuts limit bytes.length) := by
  constructor
  · rw [List.map_append, List.flatten_append, ← List.append_assoc, h.written]
    simp
  · rw [List.map_append, List.flatMap_append, ← List.append_assoc, h.offered]
    simp

end Accounts
end Sim.Network

namespace Sim

/-- A connection at work on a backlog over a network that takes pieces, with no send too late. -/
structure Sending (limit : Nat) (queue : Backlog) (stream : List UInt8) (offers : List (Nat × Nat))
    (now : Instant) (c : Connection Network.platform) (net : Network) : Prop where
  opened : c.status = .opened
  chunked : net.writeRule = .chunked limit
  faultless : net.Faultless
  waiting : c.outbox.messages.map Message.waits = queue
  inTime : ∀ m ∈ c.outbox.messages, (m.deadlineAt now c.config.sendTimeout).passed? now = none
  accounts : net.Accounts limit queue stream offers

namespace Sending

variable {limit : Nat} {queue : Backlog} {stream : List UInt8} {offers : List (Nat × Nat)}
  {now : Instant} {c : Connection Network.platform} {net : Network}

/-- What the peer has done does not matter. -/
theorem heard (h : Sending limit queue stream offers now c net) (draws : Draws)
    (inbound : List Bytes) :
    Sending limit queue stream offers now c { net with draws, inbound } :=
  ⟨h.opened, h.chunked, ⟨h.faultless.reads, h.faultless.writes⟩, h.waiting, h.inTime,
    ⟨h.accounts.written, h.accounts.offered⟩⟩

/-- One step for the head of the queue takes the backlog on by one poll. -/
theorem serviceHead (h : Sending limit queue stream offers now c net) (positive : limit ≠ 0)
    (sound : c.outbox.Sound) (channel : Channel Network.platform) :
    let run := c.serviceHead now channel net
    Sending limit (queue.pump limit) stream offers now run.value run.state ∧
      Event.settled run.events = queue.finished limit := by
  intro run
  obtain ⟨opened, chunked, faultless, waiting, inTime, accounts⟩ := h
  cases messages : c.outbox.messages with
  | nil =>
      rw [messages] at waiting
      subst waiting
      rw [show run = _ from Connection.serviceHead_rests messages]
      exact ⟨⟨rfl, chunked, faultless, congrArg _ messages, inTime, accounts⟩, rfl⟩
  | cons m rest =>
      rw [messages] at waiting inTime
      obtain ⟨first, others⟩ := List.forall_mem_cons.mp inTime
      subst waiting
      have size : m.rest.toList.length = m.unsent := m.rest.length_toList
      by_cases nothing : m.unsent = 0
      · have empty : m.waits = ([], m.ticket) :=
          Prod.ext (List.eq_nil_of_length_eq_zero (size.trans nothing)) rfl
        rw [show run = _ from Connection.serviceHead_passes messages first nothing]
        rw [List.map_cons, empty] at accounts ⊢
        exact ⟨⟨rfl, chunked, faultless, rfl, others, accounts.passed positive⟩, rfl⟩
      have wrote := Network.write_of_chunked faultless chunked positive nothing channel.session
      have booked := Network.Accounts.wrote accounts positive nothing
      have fine : (net.wrote m.rest (min limit m.rest.size)).Faultless :=
        ⟨faultless.reads, faultless.writes⟩
      have sound : Outbox.Sound ⟨m :: rest⟩ := sound.spelled messages
      rw [List.map_cons]
      -- A piece of the head, or all that is left of it.
      rcases Nat.lt_or_ge limit m.unsent with long | short
      · have part : min limit m.rest.size = limit := Nat.min_eq_left (Nat.le_of_lt long)
        rw [part] at wrote booked fine
        rw [show run = _ from
          Connection.serviceHead_writes sound.head messages first wrote positive long]
        refine ⟨⟨rfl, chunked, fine, ?_, List.forall_mem_cons.mpr ⟨first, others⟩, booked⟩, ?_⟩
        · exact (Backlog.pump_of_gt (size ▸ long)).symm
        · exact (if_neg (size ▸ Nat.not_le.mpr long)).symm
      · have whole : min limit m.rest.size = m.unsent := Nat.min_eq_right short
        rw [whole] at wrote booked fine
        rw [show run = _ from
          Connection.serviceHead_finishes sound.head messages first wrote nothing]
        refine ⟨⟨rfl, chunked, fine, ?_, others, booked⟩, ?_⟩
        · exact (Backlog.pump_of_le (size ▸ short)).symm
        · exact (if_pos (size ▸ short)).symm

theorem poll (h : Sending limit queue stream offers now c net) (positive : limit ≠ 0)
    (sound : c.outbox.Sound) :
    let run := c.poll now net
    Sending limit (queue.pump limit) stream offers now run.value run.state ∧
      Event.settled run.events = queue.finished limit := by
  intro run
  obtain ⟨channel, phase⟩ := Phase.eq_opened h.opened
  obtain ⟨reading, draws, inbound, asked, mild⟩ :=
    Network.read_of_faultless h.faultless c.buffer.room channel.session
  obtain ⟨first, unsettled, transferred⟩ := Connection.transfer_of_mild (c := c) now asked mild
  have opened : c.poll now net = c.transfer now channel net := by rw [Connection.poll, phase]
  rw [show run = _ from opened.trans transferred, Event.settled_append, unsettled, List.nil_append]
  have read : Sending limit queue stream offers now
      { c with buffer := c.buffer.store reading.stored } { net with draws, inbound } := by
    obtain ⟨status, chunked, faultless, waiting, inTime, accounts⟩ := h.heard draws inbound
    exact ⟨status, chunked, faultless, waiting, inTime, accounts⟩
  exact read.serviceHead positive sound channel

/-- A send for which there is memory is queued behind what waits. -/
theorem send (h : Sending limit queue stream offers now c net) {bytes : List UInt8}
    (fits : Outbox.affords net.memory bytes = true) (ticket : Ticket) :
    let run := c.send bytes ticket net
    run.value.1 = .ok () ∧
      Sending limit (queue ++ [(bytes, ticket)]) (stream ++ bytes)
        (offers ++ cuts limit bytes.length) now run.value.2 run.state ∧
      run.state.memory = net.memory := by
  intro run
  obtain ⟨channel, phase⟩ := Phase.eq_opened h.opened
  have pushed := Outbox.push_of_affords fits c.outbox ticket
  rw [show run = _ from Connection.send_of_push phase pushed]
  refine ⟨rfl, ⟨h.opened, h.chunked, h.faultless, ?_, ?_, h.accounts.queued bytes ticket⟩, rfl⟩
  · rw [List.map_append, h.waiting]
    rfl
  · rw [List.forall_mem_append]
    refine ⟨h.inTime, ?_⟩
    intro m fresh
    rw [List.mem_singleton.mp fresh]
    exact Message.passed?_of_unarmed rfl now _

end Sending

namespace Rig

variable {rig : Rig} {limit : Nat} {queue : Backlog} {deed : Deed} {stream : List UInt8}
  {offers : List (Nat × Nat)} {config : Config} {calls : List (Entry Network.platform)}

/-- Whether the deed adds nothing to what is sent and leaves the clock and the script alone. -/
def Deed.leavesSends : Deed → Bool
  | .close | .send _ | .advance _ => false
  | deed => deed.unscripted

/-- Whether the rig is at work on that backlog. -/
def Sends (rig : Rig) (limit : Nat) (queue : Backlog) (stream : List UInt8)
    (offers : List (Nat × Nat)) : Prop :=
  Sending limit queue stream offers rig.clock.now rig.connection rig.network

theorem Sends.act (h : rig.Sends limit queue stream offers) (positive : limit ≠ 0)
    (sound : rig.connection.Sound) (leaves : deed.leavesSends = true) :
    (rig.act deed).Sends limit ((Backlog.pump limit)^[[deed].countP Deed.isPoll] queue) stream
        offers ∧
      Event.settled (Entry.eventsOf (rig.calls [deed])) =
        if deed.isPoll then queue.finished limit else [] := by
  obtain ⟨channel, phase⟩ := Phase.eq_opened h.opened
  cases deed with
  | close | send | advance => cases leaves
  | poll =>
      obtain ⟨later, settled⟩ := h.poll positive sound.outbox
      refine ⟨later, ?_⟩
      rw [eventsOf_calls rfl, ← settled]
      exact congrArg Event.settled (List.append_nil _)
  | start =>
      have run : rig.connection.carryOut rig.clock.now (.start plainTicket) rig.network = _ :=
        Connection.start_of_opened rig.clock.now phase plainTicket
      constructor
      · rw [Sends, act, start, request, run]
        exact h
      · rw [eventsOf_calls rfl, entry, run]
        rfl
  | setOption name value => exact ⟨h, rfl⟩
  | commands list =>
      obtain ⟨inbound, same⟩ := rig.network.commands_of_delivers leaves
      refine ⟨?_, rfl⟩
      rw [Sends, act, commands, same]
      exact h.heard rig.network.draws inbound

/-- Such deeds take the backlog on by as many polls as are among them. -/
theorem Sends.actAll (h : rig.Sends limit queue stream offers) (positive : limit ≠ 0)
    (traces : rig.Traces config calls) {deeds : List Deed}
    (leaves : ∀ deed ∈ deeds, deed.leavesSends = true) :
    (rig.actAll deeds).Sends limit ((Backlog.pump limit)^[deeds.countP Deed.isPoll] queue) stream
      offers := by
  induction deeds generalizing rig queue calls with
  | nil => exact h
  | cons deed rest ih =>
      obtain ⟨first, others⟩ := List.forall_mem_cons.mp leaves
      obtain ⟨more, moves⟩ := rig.act_moves deed
      have next := (h.act positive traces.sound first).1
      rw [← List.singleton_append, List.countP_append, Nat.add_comm, Function.iterate_add_apply]
      exact ih next (moves.traces traces) others

theorem act_send_of_ok {bytes : List UInt8}
    (accepted : (rig.request (.send bytes rig.sends)).1 = .ok ()) :
    rig.act (.send bytes) =
      { (rig.request (.send bytes rig.sends)).2 with sends := rig.sends + 1 } := by
  rw [act, send]
  generalize rig.request (.send bytes rig.sends) = answered at accepted
  obtain ⟨_, after⟩ := answered
  cases accepted
  rfl

/-- Sends for which there is memory are numbered on and queued behind what waits. -/
theorem Sends.sendAll (h : rig.Sends limit queue stream offers) {messages : List (List UInt8)}
    (fits : ∀ bytes ∈ messages, Outbox.affords rig.network.memory bytes = true) :
    let ready := rig.actAll (messages.map .send)
    ready.sends = rig.sends + messages.length ∧
      ready.Sends limit (queue ++ messages.zipIdx rig.sends) (stream ++ messages.flatten)
        (offers ++ messages.flatMap fun bytes => cuts limit bytes.length) := by
  induction messages generalizing rig queue stream offers with
  | nil =>
      refine ⟨rfl, ?_⟩
      simp only [List.zipIdx_nil, List.flatten_nil, List.flatMap_nil, List.append_nil]
      exact h
  | cons bytes rest ih =>
      obtain ⟨first, others⟩ := List.forall_mem_cons.mp fits
      obtain ⟨accepted, queued, memory⟩ := h.send first rig.sends
      have sent := act_send_of_ok accepted
      have next : (rig.act (.send bytes)).Sends limit (queue ++ [(bytes, rig.sends)])
          (stream ++ bytes) (offers ++ cuts limit bytes.length) := by
        rw [sent]
        exact queued
      have there : (rig.act (.send bytes)).network.memory = rig.network.memory := by
        rw [sent]
        exact memory
      rw [← there] at others
      obtain ⟨count, whole⟩ := ih next others
      have number : (rig.act (.send bytes)).sends = rig.sends + 1 := by rw [sent]
      rw [number] at count whole
      refine ⟨count.trans ?_, ?_⟩
      · rw [List.length_cons]
        omega
      · rw [List.append_assoc, List.append_assoc, List.append_assoc] at whole
        exact whole

/-- A rig that is open with nothing queued has an empty backlog. -/
theorem Sends.of_opened (opened : rig.status = .opened)
    (empty : rig.connection.pendingSends = 0) (chunked : rig.network.writeRule = .chunked limit)
    (faultless : rig.network.Faultless) :
    rig.Sends limit [] rig.network.written.toList rig.network.writeCalls.toList := by
  have nothing : rig.connection.outbox.messages = [] := List.eq_nil_of_length_eq_zero empty
  refine ⟨opened, chunked, faultless, ?_, ?_, List.append_nil _, List.append_nil _⟩
  · rw [nothing]
    rfl
  · rw [nothing]
    nofun

end Rig

/-- Messages for which there is memory, sent over a network that takes at most so much at a time. All are accepted. Each completes, with success, in the last of as many polls as it
and the ones before it have pieces, where an empty message counts for one, and nothing else
completes. By then just the bytes of these messages have been written; each write offered all that
was left of its message and was taken as far as the limit. What the peer delivers in the meantime
does not matter. -/
theorem sends_take_their_rounds (name : String) (config : Config) (network : Network) (rig : Rig)
    (past deeds : List Rig.Deed) (limit : Nat) (messages : List (List UInt8))
    (created : Rig.create name config network = .ok rig)
    (opened : (rig.actAll past).status = .opened)
    (empty : (rig.actAll past).connection.pendingSends = 0)
    (chunked : (rig.actAll past).network.writeRule = .chunked limit) (positive : 1 ≤ limit)
    (faultless : (rig.actAll past).network.Faultless)
    (fits : ∀ bytes ∈ messages, Outbox.affords (rig.actAll past).network.memory bytes = true)
    (leaves : ∀ deed ∈ deeds, deed.leavesSends = true) :
    let before := rig.actAll past
    let ready := before.actAll (messages.map .send)
    ready.sends = before.sends + messages.length ∧
      (∀ n (inside : n < deeds.length) (done : Ticket × Completion),
        done ∈ Event.settled (Entry.eventsOf ((ready.actAll (deeds.take n)).calls [deeds[n]])) ↔
          deeds[n].isPoll = true ∧ ∃ i < messages.length, done = (before.sends + i, .ok) ∧
            (deeds.take n).countP Rig.Deed.isPoll + 1 = due limit (messages.take (i + 1))) ∧
      ∀ count, deeds.countP Rig.Deed.isPoll = due limit (messages.take count) →
        (ready.actAll deeds).network.written.toList =
            before.network.written.toList ++ (messages.take count).flatten ∧
          (ready.actAll deeds).network.writeCalls.toList = before.network.writeCalls.toList ++
            (messages.take count).flatMap fun bytes => cuts limit bytes.length := by
  intro before ready
  have some : limit ≠ 0 := Nat.ne_of_gt positive
  obtain ⟨calls, traces⟩ := Rig.actAll_traces (Rig.traces_create created) past
  obtain ⟨more, whole⟩ := Rig.actAll_traces traces (messages.map .send)
  have start : before.Sends limit [] _ _ := .of_opened opened empty chunked faultless
  obtain ⟨accepted, queued⟩ := start.sendAll fits
  rw [List.nil_append] at queued
  refine ⟨accepted, ?_, ?_⟩
  · intro n inside done
    have among (deed : Rig.Deed) (member : deed ∈ deeds.take n) : deed.leavesSends = true :=
      leaves deed (List.mem_of_mem_take member)
    obtain ⟨_, there⟩ := Rig.actAll_traces whole (deeds.take n)
    have here := (queued.actAll some whole among).act some there.sound
      (leaves _ (List.getElem_mem inside))
    rw [here.2]
    cases deeds[n].isPoll with
    | false => simp
    | true =>
        rw [if_pos rfl, Backlog.mem_finished_iff some, Backlog.completes_zipIdx]
        simp
  · intro count polls
    have last := queued.actAll some whole leaves
    rw [polls, ← Backlog.due_take_zipIdx limit before.sends, Backlog.iterate_pump_due some] at last
    have left : ((messages.zipIdx before.sends).drop count).map Prod.fst = messages.drop count := by
      rw [List.map_drop, List.zipIdx_map_fst]
    obtain ⟨written, offered⟩ := last.accounts
    rw [left] at written offered
    constructor
    · have split : messages.flatten = (messages.take count).flatten ++
          (messages.drop count).flatten := by
        rw [← List.flatten_append, List.take_append_drop]
      rw [split, ← List.append_assoc] at written
      exact List.append_cancel_right written
    · have split (cut : List UInt8 → List (Nat × Nat)) : messages.flatMap cut =
          (messages.take count).flatMap cut ++ (messages.drop count).flatMap cut := by
        rw [← List.flatMap_append, List.take_append_drop]
      rw [split, ← List.append_assoc] at offered
      exact List.append_cancel_right offered

/-- Four bytes, nothing, one and three, sent in pieces of two, take two polls, one, one and two. The
peer delivers in between, and another open is refused. -/
theorem sends_take_their_rounds_pieces :
    let setup := [.commands [.write (.chunked 2)], .start, .poll, .poll, .poll]
    let messages := [[1, 2, 3, 4], [], [5], [6, 7, 8]]
    let deeds := [.poll, .commands [.deliver [104, 105]], .poll, .poll, .start, .poll, .poll, .poll]
    ∃ rig, Rig.create "client" { host := "h", port := 1 } (Network.ofSeed 0) = .ok rig ∧
      let ready := (rig.actAll setup).actAll (messages.map .send)
      let settled (n : Nat) :=
        Event.settled (Entry.eventsOf ((ready.actAll (deeds.take n)).calls [.poll]))
      ready.sends = 4 ∧ settled 0 = [] ∧ (0, .ok) ∈ settled 2 ∧ (1, .ok) ∈ settled 3 ∧
        settled 6 = [] ∧ (3, .ok) ∈ settled 7 ∧
        (ready.actAll deeds).network.written.toList = [1, 2, 3, 4, 5, 6, 7, 8] ∧
        (ready.actAll deeds).network.writeCalls.toList =
          [(4, 2), (2, 2), (1, 1), (3, 2), (1, 1)] := by
  intro setup messages deeds
  have checked : Config.check { host := "h", port := 1 } = .ok () := rfl
  have created := Rig.create_ok checked "client" (Network.ofSeed 0) rfl
  obtain ⟨accepted, completes, written⟩ := sends_take_their_rounds _ _ _ _ setup deeds 2 messages
    created (by decide +kernel) (by decide +kernel) (by decide +kernel) (by decide)
    ⟨by decide +kernel, by decide +kernel⟩ (by decide +kernel) (by decide)
  obtain ⟨stream, offers⟩ := written 4 (by decide)
  refine ⟨_, created, accepted, by decide +kernel, ?_, ?_, by decide +kernel, ?_, stream, offers⟩
  · exact (completes 2 (by decide) _).mpr ⟨rfl, 0, by decide, rfl, by decide⟩
  · exact (completes 3 (by decide) _).mpr ⟨rfl, 1, by decide, rfl, by decide⟩
  · exact (completes 7 (by decide) _).mpr ⟨rfl, 3, by decide, rfl, by decide⟩

end Sim
end PolledTls
