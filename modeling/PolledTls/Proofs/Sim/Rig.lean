import PolledTls.Proofs.History
import PolledTls.Proofs.Sim.Books
import PolledTls.Sim.Rig

/-!
What a rig is put through, as a history of its connection. A drill comes to nothing else, so what
holds after all deeds holds of every world a drill leads to.
-/
namespace PolledTls.Sim

namespace Rig

inductive Deed where
  | start
  | close
  | send (bytes : List UInt8)
  | poll
  | setOption (name : String) (value : Options.Value)
  | advance (step : Duration)
  | commands (list : List Network.Command)

/-- The rig after a deed. The clock stays where it is if it cannot be moved. -/
def act (rig : Rig) : Deed → Rig
  | .start => rig.start.2
  | .close => rig.close.2
  | .send bytes => (rig.send bytes).2
  | .poll => rig.poll
  | .setOption name value => (rig.request (.setOption name value)).2
  | .advance step => (rig.advance? step).getD rig
  | .commands list => rig.commands list

def actAll (rig : Rig) (deeds : List Deed) : Rig :=
  deeds.foldl act rig

theorem actAll_append (rig : Rig) (first second : List Deed) :
    rig.actAll (first ++ second) = (rig.actAll first).actAll second :=
  List.foldl_append

def entry (rig : Rig) (request : Connection.Request) : Entry Network.platform :=
  let run := rig.connection.carryOut rig.clock.now request rig.network
  ⟨rig.connection, rig.clock.now, some request, run.value.1, run.events, run.value.2⟩

/-- A send is a call, after which the count may be another. -/
theorem send_request (rig : Rig) (bytes : List UInt8) :
    ∃ sends, (rig.send bytes).2 =
      { (rig.request (.send bytes rig.sends)).2 with sends := sends } := by
  rw [send]
  rcases rig.request (.send bytes rig.sends) with ⟨_ | _, after⟩
  · exact ⟨after.sends, rfl⟩
  · exact ⟨rig.sends + 1, rfl⟩

def farewell (rig : Rig) : Entry Network.platform :=
  let run := rig.connection.discard rig.network
  ⟨rig.connection, 0, none, .ok (), run.events, run.value⟩

/-- What a deed asks of the connection, if anything; a send takes the next number. -/
def Deed.request? (sends : Ticket) : Deed → Option Connection.Request
  | .start => some (.start plainTicket)
  | .close => some (.close plainTicket)
  | .send bytes => some (.send bytes sends)
  | .poll => some .poll
  | .setOption name value => some (.setOption name value)
  | .advance _ | .commands _ => none

def Deed.isPoll : Deed → Bool
  | .poll => true
  | _ => false

/-- The calls that deeds come to. -/
def calls (rig : Rig) : List Deed → List (Entry Network.platform)
  | [] => []
  | deed :: rest => (deed.request? rig.sends).toList.map rig.entry ++ (rig.act deed).calls rest

theorem eventsOf_calls {rig : Rig} {deed : Deed} {request : Connection.Request}
    (asked : deed.request? rig.sends = some request) :
    Entry.eventsOf (rig.calls [deed]) = (rig.entry request).events := by
  rw [calls, asked]
  exact Entry.eventsOf_singleton _

/-- What a deed comes to: one call on the connection, with the next number in order if it is an
accepted send, or a change of the surroundings. -/
inductive Moves (rig : Rig) (deed : Deed) : List (Entry Network.platform) → Rig → Prop
  | asks (request : Connection.Request) (asked : deed.request? rig.sends = some request)
      (count : Nat)
      (numbered : (rig.entry request).accepted = List.range' rig.sends count) :
      Moves rig deed [rig.entry request]
        { (rig.request request).2 with sends := rig.sends + count }
  | sets (silent : deed.request? rig.sends = none) (clock : Clock)
      (list : List Network.Command) :
      Moves rig deed [] { rig with clock, network := rig.network.commands list }

theorem act_moves (rig : Rig) (deed : Deed) : ∃ calls, rig.Moves deed calls (rig.act deed) := by
  cases deed with
  | start => exact ⟨_, .asks (.start plainTicket) rfl 0 rfl⟩
  | close => exact ⟨_, .asks (.close plainTicket) rfl 0 rfl⟩
  | poll => exact ⟨_, .asks .poll rfl 0 rfl⟩
  | setOption name value => exact ⟨_, .asks (.setOption name value) rfl 0 rfl⟩
  | commands list => exact ⟨_, .sets rfl rig.clock list⟩
  | advance step =>
      cases moved : rig.clock.advance? step with
      -- A clock that cannot be moved is set to where it stands.
      | none =>
          have same : rig.act (.advance step) = rig := by simp [act, advance?, moved]
          rw [same]
          exact ⟨_, .sets rfl rig.clock []⟩
      | some clock =>
          have later : rig.act (.advance step) = { rig with clock } := by
            simp [act, advance?, moved]
          rw [later]
          exact ⟨_, .sets rfl clock []⟩
  | send bytes =>
      have result : (rig.entry (.send bytes rig.sends)).result =
          (rig.request (.send bytes rig.sends)).1 := rfl
      rcases answered : rig.request (.send bytes rig.sends) with ⟨answer, after⟩
      cases answer with
      | ok =>
          have numbered : (rig.entry (.send bytes rig.sends)).accepted = [rig.sends] := by
            rw [Entry.accepted, result, answered]
            rfl
          have moves : rig.Moves (.send bytes) _ _ := .asks (.send bytes rig.sends) rfl 1 numbered
          rw [answered] at moves
          have same : rig.act (.send bytes) = { after with sends := rig.sends + 1 } := by
            rw [act, send, answered]
          exact ⟨_, same ▸ moves⟩
      | error e =>
          have numbered : (rig.entry (.send bytes rig.sends)).accepted = [] := by
            rw [Entry.accepted, result, answered]
            rfl
          have moves : rig.Moves (.send bytes) _ _ := .asks (.send bytes rig.sends) rfl 0 numbered
          rw [answered] at moves
          have unnumbered : after.sends = rig.sends := by
            rw [← congrArg (·.2.sends) answered]
            rfl
          have same : rig.act (.send bytes) = after := by rw [act, send, answered]
          have eta : { after with sends := rig.sends + 0 } = after := by
            rw [Nat.add_zero, ← unnumbered]
          rw [eta] at moves
          exact ⟨_, same ▸ moves⟩

/-- The calls a rig has made of its connection, and what it keeps of them. -/
structure Traces (rig : Rig) (config : Config) (calls : List (Entry Network.platform)) :
    Prop where
  linked : Connection.Linked (.idle config) calls rig.connection
  record : rig.record.toList = .log (.created config.host config.port) :: Entry.eventsOf calls
  numbered : Entry.acceptedBy calls = List.range rig.sends

variable {rig after : Rig} {deed : Deed} {config : Config}
  {calls more : List (Entry Network.platform)}

theorem Traces.sound (h : rig.Traces config calls) : rig.connection.Sound :=
  h.linked.sound (Connection.sound_idle config)

/-- A rig is made of what the creation of its connection left. -/
theorem create_of {network left : Network} {connection : Connection Network.platform}
    {events : List Event}
    (made : (Connection.create config : Act Network.platform _) network =
      ⟨.ok connection, left, events⟩) (name : String) :
    create name config network = .ok ⟨name, connection, left, .start, .ofList events, 0⟩ :=
  let kept (run : Traced Network.platform (Except Error (Connection Network.platform))) :=
    run.value.map fun connection =>
      (⟨name, connection, run.state, .start, .ofList run.events, 0⟩ : Rig)
  congrArg kept made

theorem create_eq {name : String} {network : Network}
    (created : create name config network = .ok rig) :
    rig = ⟨name, .idle config, network, .start,
      .ofList [.log (.created config.host config.port)], 0⟩ := by
  cases made : ((Connection.create config : Act Network.platform _) network).value with
  | error e =>
      have refused : create name config network = .error e := congrArg (Except.map _) made
      rw [refused] at created
      cases created
  | ok connection =>
      rw [create_of (Connection.create_eq made) name] at created
      exact (Except.ok.inj created).symm

theorem create_ok (checked : config.check = .ok ()) (name : String) (network : Network)
    (granted : network.memory config.readChunkSize = true) :
    create name config network = .ok ⟨name, .idle config, network, .start,
      .ofList [.log (.created config.host config.port)], 0⟩ :=
  create_of (Connection.create_ok checked granted) name

theorem traces_create {name : String} {network : Network}
    (created : create name config network = .ok rig) : rig.Traces config [] := by
  rw [create_eq created]
  exact ⟨.nil _, rfl, rfl⟩

theorem Moves.record (h : rig.Moves deed more after) :
    after.record.toList = rig.record.toList ++ Entry.eventsOf more := by
  cases h with
  | asks request asked count numbered =>
      change (rig.record ++ (rig.entry request).events).toList = _
      rw [Trail.toList_append, Entry.eventsOf_singleton]
  | sets silent clock list => exact (List.append_nil _).symm

theorem Moves.traces (h : rig.Moves deed more after) (traces : rig.Traces config calls) :
    after.Traces config (calls ++ more) := by
  have record := h.record
  rw [traces.record, List.cons_append, ← Entry.eventsOf_append] at record
  cases h with
  | asks request asked count numbered =>
      have step := Connection.carryOut_step traces.sound rig.clock.now request rig.network
      refine ⟨traces.linked.append (.cons step (.nil _)), record, ?_⟩
      rw [Entry.acceptedBy, List.flatMap_append, List.flatMap_singleton, numbered,
        ← Entry.acceptedBy, traces.numbered, List.range_eq_range', List.range_eq_range']
      exact (congrArg (_ ++ List.range' · _) (Nat.zero_add _).symm).trans List.range'_append_1
  | sets silent clock list =>
      rw [List.append_nil]
      exact ⟨traces.linked, traces.record, traces.numbered⟩

theorem Moves.calls_eq (h : rig.Moves deed more after) :
    more = (deed.request? rig.sends).toList.map rig.entry := by
  cases h with
  | asks request asked count numbered =>
      rw [asked]
      rfl
  | sets silent clock list =>
      rw [silent]
      rfl

theorem Traces.actAll (traces : rig.Traces config calls) (deeds : List Deed) :
    (rig.actAll deeds).Traces config (calls ++ rig.calls deeds) := by
  induction deeds generalizing rig calls with
  | nil =>
      rw [Rig.calls, List.append_nil]
      exact traces
  | cons deed rest ih =>
      obtain ⟨first, moves⟩ := rig.act_moves deed
      have whole := ih (moves.traces traces)
      rw [moves.calls_eq, List.append_assoc] at whole
      exact whole

theorem actAll_traces (traces : rig.Traces config calls) (deeds : List Deed) :
    ∃ more, (rig.actAll deeds).Traces config (calls ++ more) :=
  ⟨_, traces.actAll deeds⟩

theorem Traces.drop (traces : rig.Traces config calls) :
    rig.drop.Traces config (calls ++ [rig.farewell]) := by
  have step : rig.connection.Step 0 none _ _ _ :=
    Connection.discard_step traces.sound rig.network
  refine ⟨traces.linked.append (.cons step (.nil _)), ?_, ?_⟩
  · change (rig.record ++ rig.farewell.events).toList = _
    rw [Trail.toList_append, traces.record, Entry.eventsOf_append, Entry.eventsOf_singleton]
    rfl
  · rw [Entry.acceptedBy, List.flatMap_append, List.flatMap_singleton, ← Entry.acceptedBy,
      traces.numbered]
    exact List.append_nil _

/-- The books of the network are those it began with and what the record adds to them. -/
def Booked (rig : Rig) (start : Books) : Prop :=
  rig.network.books = rig.record.toList.foldl Books.after start

variable {start : Books}

theorem Booked.tally (h : rig.Booked start) :
    rig.network.tally = start.tally.afterAll rig.record.toList := by
  rw [Booked, Books.foldl_after] at h
  exact congrArg Books.tally h

theorem Booked.written (h : rig.Booked start) :
    rig.network.written.toList = start.written ++ Event.taken rig.record.toList := by
  rw [Booked, Books.foldl_after] at h
  exact congrArg Books.written h

theorem booked_create {name : String} {network : Network}
    (created : create name config network = .ok rig) : rig.Booked network.books := by
  rw [create_eq created]
  rfl

/-- Books that change as the record grows stay the books of the record. -/
theorem Booked.grow {events : List Event} (h : rig.Booked start)
    (seen : after.network.books = events.foldl Books.after rig.network.books)
    (record : after.record = rig.record ++ events) : after.Booked start := by
  rw [Booked] at h ⊢
  rw [seen, record, Trail.toList_append, List.foldl_append, h]

theorem Booked.request (h : rig.Booked start) (request : Connection.Request) :
    (rig.request request).2.Booked start :=
  h.grow (Network.tracked.carryOut rig.connection rig.clock.now request rig.network) rfl

theorem Booked.drop (h : rig.Booked start) : rig.drop.Booked start :=
  h.grow (Network.tracked.discard rig.connection rig.network) rfl

theorem Booked.actAll (h : rig.Booked start) (deeds : List Deed) :
    (rig.actAll deeds).Booked start := by
  induction deeds generalizing rig with
  | nil => exact h
  | cons deed rest ih =>
      obtain ⟨calls, moves⟩ := rig.act_moves deed
      refine ih ?_
      generalize rig.act deed = after at moves
      cases moves with
      | asks request asked count numbered => exact h.request request
      | sets silent clock list => exact (rig.network.books_commands list).trans h

end Rig
end PolledTls.Sim
