import PolledTls.Proofs.Reception
import PolledTls.Proofs.Sim.Rig

/-!
The way of the bytes that come in. On a simulated network a read takes its bytes off the front of
what the peer delivered, so what was delivered is what the owner got and what still waits.
-/
namespace PolledTls.Sim

/-- What waits to be read, event by event. The ledger stops at a read that does not take just the
bytes it reports off the front. -/
def Inbound.after (waiting : Option (List UInt8)) : Event → Option (List UInt8)
  | .call (.read _ stored (.ok count)) =>
    waiting.bind fun bytes =>
      if stored <+: bytes ∧ stored.length = count then some (bytes.drop count) else none
  | _ => waiting

namespace Inbound

variable {events : List Event} {event : Event} {waiting left : List UInt8}

theorem after_none (event : Event) : after none event = none := by
  unfold after
  split <;> rfl

theorem foldl_none (events : List Event) : events.foldl after none = none := by
  induction events with
  | nil => rfl
  | cons event rest ih => rw [List.foldl_cons, after_none, ih]

theorem foldl_remarks (waiting : Option (List UInt8)) (notices : List Notice) :
    (Event.remarks notices).foldl after waiting = waiting := by
  induction notices with
  | nil => rfl
  | cons notice rest ih => exact ih

theorem after_read {stored : List UInt8} {count : Nat} (whole : stored.length = count)
    (room : Nat) :
    after (some (stored ++ left)) (.call (.read room stored (.ok count))) = some left := by
  have takes : stored <+: stored ++ left ∧ stored.length = count :=
    ⟨List.prefix_append _ _, whole⟩
  rw [after, Option.bind_some, if_pos takes, List.drop_left' whole]

theorem after_eq_some (goes : after (some waiting) event = some left) :
    event.Candid ∧ event.drawn ++ left = waiting := by
  unfold after at goes
  split at goes
  case h_1 room stored count =>
    obtain ⟨⟨front, rfl⟩, rest⟩ := Option.ite_none_right_eq_some.mp goes
    rw [← Option.some.inj rest]
    exact ⟨rfl, List.prefix_iff_eq_append.mp front⟩
  case h_2 other =>
    cases goes
    unfold Event.Candid Event.drawn
    split <;> simp_all

/-- What waited before events is what they drew, in order, and what waits after them. -/
theorem foldl_eq_some (goes : events.foldl after (some waiting) = some left) :
    (∀ event ∈ events, event.Candid) ∧ Event.intake events ++ left = waiting := by
  induction events generalizing waiting with
  | nil =>
      cases goes
      exact ⟨by simp, rfl⟩
  | cons event rest ih =>
      rw [List.foldl_cons] at goes
      cases first : after (some waiting) event with
      | none =>
          rw [first, foldl_none] at goes
          cases goes
      | some middle =>
          rw [first] at goes
          obtain ⟨candid, drawn⟩ := after_eq_some first
          obtain ⟨later, rest⟩ := ih goes
          refine ⟨List.forall_mem_cons.mpr ⟨candid, later⟩, ?_⟩
          rw [Event.intake_cons, List.append_assoc, rest, drawn]

end Inbound

namespace Network

/-- The bytes from the peer that have not been read. -/
def waiting (net : Network) : List UInt8 :=
  net.inbound.flatMap Bytes.toList

def Command.delivered : Command → List UInt8
  | .deliver bytes => bytes
  | _ => []

theorem unread_eq (net : Network) : net.unread = net.waiting.length := by
  unfold unread waiting
  induction net.inbound with
  | nil => rfl
  | cons chunk rest ih =>
      rw [List.foldr_cons, ih, List.flatMap_cons, List.length_append, Bytes.size_eq]

theorem waiting_command (net : Network) (command : Command) :
    (net.command command).waiting = net.waiting ++ command.delivered := by
  cases command with
  | deliver bytes =>
      unfold Network.command
      dsimp only
      split
      case isTrue empty => simp [Command.delivered, empty]
      case isFalse some => simp [waiting, Command.delivered]
  | _ => exact (List.append_nil _).symm

theorem waiting_commands (net : Network) (list : List Command) :
    (net.commands list).waiting = net.waiting ++ list.flatMap Command.delivered := by
  induction list generalizing net with
  | nil => exact (List.append_nil _).symm
  | cons command rest ih =>
      refine (ih (net.command command)).trans ?_
      rw [waiting_command, List.append_assoc]
      rfl

theorem readCount_le (net : Network) (most : Nat) : (net.readCount most).1 ≤ most := by
  unfold readCount
  split
  case isTrue chosen => exact (net.draws.between_bounds (Nat.le_of_lt chosen.2)).2
  case isFalse => exact Nat.le_refl most

/-- A chunk that is cut is what was taken off its front and what is left of it. -/
theorem take_append_left (chunk : Bytes) (rest : List Bytes) {count : Nat}
    (within : count ≤ chunk.size) :
    chunk.take count ++
        (if count < chunk.size then chunk.drop count :: rest else rest).flatMap Bytes.toList =
      (chunk :: rest).flatMap Bytes.toList := by
  rw [Bytes.take, List.flatMap_cons]
  by_cases part : count < chunk.size
  · rw [if_pos part, List.flatMap_cons, Bytes.toList_drop, ← List.append_assoc,
      List.take_append_drop]
  · have all : count = chunk.toList.length := by
      rw [← Bytes.size_eq]
      omega
    rw [if_neg part, all, List.take_length]

theorem waiting_read (room : Nat) (session : Session) (net : Network) :
    some (read room session net).2.2.waiting =
      Inbound.after (some net.waiting) (.call (.read room
        ((read room session net).1.stored.take room) (read room session net).1.answer)) := by
  unfold read
  split
  case h_1 => rfl
  case h_2 => rfl
  case h_3 chunk rest _ inbound =>
    have most := net.readCount_le (min chunk.size room)
    generalize net.readCount (min chunk.size room) = counted at most
    obtain ⟨count, draws⟩ := counted
    have within : count ≤ chunk.size := Nat.le_trans most (Nat.min_le_left _ _)
    have taken : (chunk.take count).length = count := by
      rw [Bytes.take, List.length_take, ← Bytes.size_eq]
      exact Nat.min_eq_left within
    have stored : (chunk.take count).take room = chunk.take count := by
      apply List.take_of_length_le
      rw [taken]
      exact Nat.le_trans most (Nat.min_le_right _ _)
    have before : net.waiting = (chunk :: rest).flatMap Bytes.toList :=
      congrArg (·.flatMap Bytes.toList) inbound
    dsimp only
    rw [stored, before, ← take_append_left chunk rest within, Inbound.after_read taken]
    rfl

theorem waiting_write (offered : Bytes) (session : Session) (net : Network) :
    (write offered session net).2.2.waiting = net.waiting := by
  unfold write
  split
  · rfl
  · dsimp only
    split <;> rfl

/-- The network keeps what waits as its reads record. -/
theorem inbound_tracked : platform.Tracked (fun net => some net.waiting) Inbound.after where
  callback _ _ := rfl
  log _ _ := rfl
  fault _ _ := rfl
  beginLookup hostname net := by
    simp only [Act.beginLookup, platform, beginLookup]
    split <;> rfl
  isComplete _ _ := rfl
  result _ _ := rfl
  beginConnect endpoint net := by
    simp only [Act.beginConnect, platform, beginConnect]
    split <;> rfl
  pollConnect socket net := by
    simp only [Act.pollConnect, platform, pollConnect]
    split
    · split <;> rfl
    · rfl
  newContext net := by
    simp only [Act.newContext, platform, newContext]
    split <;> rfl
  newSession context serverName net := by
    simp only [Act.newSession, platform, newSession]
    split <;> rfl
  bindSocket session socket net := by
    simp only [Act.bindSocket, platform, bindSocket]
    split <;> rfl
  handshake session net := congrArg (some ∘ waiting) (net.handshake_state session)
  read buffer session net :=
    (net.waiting_read buffer.room session).trans (Inbound.foldl_remarks _ _).symm
  write offered session net :=
    (congrArg some (net.waiting_write offered session)).trans (Inbound.foldl_remarks _ _).symm
  shutdown _ _ := rfl
  releaseLookup _ _ := rfl
  releaseSocket _ _ := rfl
  releaseContext _ _ := rfl
  releaseSession _ _ := rfl

end Network

namespace Rig

def Deed.delivered : Deed → List UInt8
  | .commands list => list.flatMap Network.Command.delivered
  | _ => []

/-- What was delivered is what the owner got and what still waits. -/
def Conserves (rig : Rig) (delivered : List UInt8) : Prop :=
  Event.received rig.record.toList ++ rig.network.waiting = delivered

variable {rig after : Rig} {delivered : List UInt8} {config : Config}
  {calls : List (Entry Network.platform)}

/-- A call hands out just what it takes from the network. -/
theorem Conserves.grow {now : Instant} {request : Option Connection.Request}
    {result : Except Error Unit} {events : List Event} {left : Connection Network.platform}
    (h : rig.Conserves delivered) (step : rig.connection.Step now request result events left)
    (seen : some after.network.waiting = events.foldl Inbound.after (some rig.network.waiting))
    (record : after.record = rig.record ++ events) : after.Conserves delivered := by
  obtain ⟨candid, drawn⟩ := Inbound.foldl_eq_some seen.symm
  rw [Conserves, record, Trail.toList_append, Event.received_append, step.received candid,
    List.append_assoc, drawn]
  exact h

theorem Conserves.request (h : rig.Conserves delivered) (sound : rig.connection.Sound)
    (request : Connection.Request) : (rig.request request).2.Conserves delivered :=
  h.grow (Connection.carryOut_step sound rig.clock.now request rig.network)
    (Network.inbound_tracked.carryOut rig.connection rig.clock.now request rig.network) rfl

theorem Conserves.drop (h : rig.Conserves delivered) (sound : rig.connection.Sound) :
    rig.drop.Conserves delivered := by
  have step : rig.connection.Step 0 none _ _ _ := Connection.discard_step sound rig.network
  exact h.grow step (Network.inbound_tracked.discard rig.connection rig.network) rfl

theorem Conserves.act (h : rig.Conserves delivered) (sound : rig.connection.Sound) (deed : Deed) :
    (rig.act deed).Conserves (delivered ++ deed.delivered) := by
  cases deed with
  | commands list =>
      rw [Conserves] at h ⊢
      rw [Deed.delivered, ← h, List.append_assoc, ← Network.waiting_commands]
      rfl
  | advance step =>
      have kept : (rig.act (.advance step)).Conserves delivered := by
        rw [Rig.act, advance?]
        cases rig.clock.advance? step <;> exact h
      exact (List.append_nil delivered).symm ▸ kept
  | send bytes =>
      obtain ⟨sends, same⟩ := rig.send_request bytes
      have kept : (rig.act (.send bytes)).Conserves delivered := by
        rw [Rig.act, same]
        exact h.request sound (.send bytes rig.sends)
      exact (List.append_nil delivered).symm ▸ kept
  | start | close | poll | setOption =>
      exact (List.append_nil delivered).symm ▸ h.request sound _

theorem Conserves.actAll (h : rig.Conserves delivered) (traces : rig.Traces config calls)
    (deeds : List Deed) :
    (rig.actAll deeds).Conserves (delivered ++ deeds.flatMap Deed.delivered) := by
  induction deeds generalizing rig delivered calls with
  | nil =>
      rw [List.flatMap_nil, List.append_nil]
      exact h
  | cons deed rest ih =>
      obtain ⟨more, moves⟩ := rig.act_moves deed
      rw [List.flatMap_cons, ← List.append_assoc]
      exact ih (h.act traces.sound deed) (moves.traces traces)

theorem conserves_create {name : String} {draws : Draws} {memory : Nat → Bool}
    {setup : List Network.Command}
    (created : create name config ((Network.fresh draws memory).commands setup) = .ok rig) :
    rig.Conserves (setup.flatMap Network.Command.delivered) := by
  rw [create_eq created]
  exact Network.waiting_commands (Network.fresh draws memory) setup

/-- Nothing but what was delivered is handed out, in order, at any point of the record. -/
theorem Conserves.received_prefix (h : rig.Conserves delivered) {seen : List Event}
    (part : seen <+: rig.record.toList) : Event.received seen <+: delivered := by
  obtain ⟨rest, whole⟩ := part
  rw [Conserves, ← whole, Event.received_append, List.append_assoc] at h
  exact ⟨_, h⟩

end Rig

/-- Whatever a rig is put through, the bytes the peer delivered are those the owner was handed, in
firing order over all attempts, and behind them those that still wait on the network; so it is after
the drop. At no point of the record has anything else been handed out. -/
theorem inbound_bytes_conserved (name : String) (config : Config) (draws : Draws)
    (memory : Nat → Bool) (setup : List Network.Command) (rig : Rig) (deeds : List Rig.Deed)
    (created : Rig.create name config ((Network.fresh draws memory).commands setup) = .ok rig) :
    let now := rig.actAll deeds
    let left := now.drop
    let delivered :=
      setup.flatMap Network.Command.delivered ++ deeds.flatMap Rig.Deed.delivered
    Event.received now.record.toList ++ now.network.waiting = delivered ∧
      now.network.unread = now.network.waiting.length ∧
      Event.received left.record.toList ++ left.network.waiting = delivered ∧
      left.network.unread = left.network.waiting.length ∧
      ∀ seen, seen <+: left.record.toList → Event.received seen <+: delivered := by
  intro now left delivered
  have start := Rig.traces_create created
  obtain ⟨calls, traces⟩ := Rig.actAll_traces start deeds
  have conserves : now.Conserves delivered := (Rig.conserves_create created).actAll start deeds
  have dropped : left.Conserves delivered := conserves.drop traces.sound
  exact ⟨conserves, now.network.unread_eq, dropped, left.network.unread_eq,
    fun seen part => dropped.received_prefix part⟩

/-- Two bytes delivered to a client that reads one at a time: after the first read one is handed
out and one still waits. -/
theorem inbound_bytes_conserved_halfway :
    ∃ rig, Rig.create "client" { host := "h", port := 1, readChunkSize := 1 }
        ((Network.ofSeed 0).commands [.deliver [104, 105]]) = .ok rig ∧
      let now := rig.actAll [.start, .poll, .poll, .poll, .poll]
      Event.received now.record.toList = [104] ∧ now.network.waiting = [105] ∧
        Event.received now.record.toList ++ now.network.waiting = [104, 105] := by
  have checked : Config.check { host := "h", port := 1, readChunkSize := 1 } = .ok () := rfl
  have created := Rig.create_ok checked "client"
    ((Network.ofSeed 0).commands [.deliver [104, 105]]) rfl
  have conserved :=
    inbound_bytes_conserved _ _ _ _ _ _ [.start, .poll, .poll, .poll, .poll] created
  exact ⟨_, created, by decide +kernel, by decide +kernel, conserved.1⟩

end PolledTls.Sim
