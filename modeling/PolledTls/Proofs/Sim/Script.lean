import PolledTls.Proofs.Sim.Rig

/-!
The script of a simulated network: all that commands set. Nothing a connection does changes it but
that a fault set for the next read or the next write is used up by it.
-/
namespace PolledTls.Sim

namespace Network

/-- The network without its draws, the bytes that move and what it keeps of its calls. -/
def script (net : Network) : Network :=
  { net with
    draws := .least
    inbound := []
    written := ∅
    writeCalls := ∅
    endpoints := ∅
    serverNames := ∅
    tally := {} }

/-- A script after an event: reads and writes use up their faults. -/
def scriptAfter (script : Network) : Event → Network
  | .call (.read _ _ _) => { script with readFault := none }
  | .call (.write _ _) => { script with writeFault := none }
  | _ => script

/-- Neither the next read nor the next write is set to fail. -/
structure Faultless (net : Network) : Prop where
  reads : net.readFault = none
  writes : net.writeFault = none

variable {net : Network}

theorem scriptAfter_of_faultless (faultless : net.Faultless) (event : Event) :
    net.scriptAfter event = net := by
  have reads : { net with readFault := none } = net := by rw [← faultless.reads]
  have writes : { net with writeFault := none } = net := by rw [← faultless.writes]
  unfold scriptAfter
  split
  · exact reads
  · exact writes
  · rfl

theorem foldl_scriptAfter (faultless : net.Faultless) (events : List Event) :
    events.foldl scriptAfter net = net := by
  induction events with
  | nil => rfl
  | cons event rest ih => rw [List.foldl_cons, scriptAfter_of_faultless faultless, ih]

theorem foldl_remarks (net : Network) (notices : List Notice) :
    (Event.remarks notices).foldl scriptAfter net = net := by
  induction notices with
  | nil => rfl
  | cons notice rest ih => exact ih

theorem script_read (room : Nat) (session : Session) (net : Network) :
    (read room session net).2.2.script = { net.script with readFault := none } := by
  unfold read
  split
  case h_1 => rfl
  case h_2 unset _ | h_3 unset _ =>
    simp only [script, unset]

theorem script_write (offered : Bytes) (session : Session) (net : Network) :
    (write offered session net).2.2.script = { net.script with writeFault := none } := by
  unfold write
  split
  case h_1 => rfl
  case h_2 unset =>
    dsimp only
    split <;> simp only [script, unset]

/-- The network keeps its script as its reads and writes record. -/
theorem script_tracked : platform.Tracked script scriptAfter where
  callback _ _ := rfl
  log _ _ := rfl
  fault _ _ := rfl
  beginLookup hostname net := by
    simp only [Act.beginLookup, platform, beginLookup]
    split <;> rfl
  isComplete _ _ := rfl
  result _ _ := rfl
  beginConnect endpoint net := by
    simp only [Act.beginConnect, platform, beginConnect]
    split <;> rfl
  pollConnect socket net := by
    simp only [Act.pollConnect, platform, pollConnect]
    split
    · split <;> rfl
    · rfl
  newContext net := by
    simp only [Act.newContext, platform, newContext]
    split <;> rfl
  newSession context serverName net := by
    simp only [Act.newSession, platform, newSession]
    split <;> rfl
  bindSocket session socket net := by
    simp only [Act.bindSocket, platform, bindSocket]
    split <;> rfl
  handshake session net := congrArg script (net.handshake_state session)
  read buffer session net :=
    (net.script_read buffer.room session).trans (foldl_remarks _ _).symm
  write offered session net :=
    (net.script_write offered session).trans (foldl_remarks _ _).symm
  shutdown _ _ := rfl
  releaseLookup _ _ := rfl
  releaseSocket _ _ := rfl
  releaseContext _ _ := rfl
  releaseSession _ _ := rfl

def Command.delivers : Command → Bool
  | .deliver _ => true
  | _ => false

/-- Deliveries change nothing but what waits to be read. -/
theorem commands_of_delivers (net : Network) {list : List Command}
    (delivers : list.all Command.delivers = true) :
    ∃ inbound, net.commands list = { net with inbound } := by
  induction list generalizing net with
  | nil => exact ⟨net.inbound, rfl⟩
  | cons command rest ih =>
      obtain ⟨first, others⟩ := Bool.and_eq_true_iff.mp delivers
      obtain ⟨inbound, later⟩ := ih (net.command command) others
      refine ⟨inbound, later.trans ?_⟩
      cases command with
      | deliver bytes =>
          unfold Network.command
          dsimp only
          split <;> rfl
      | _ => cases first

theorem script_commands {list : List Command} (delivers : list.all Command.delivers = true) :
    (net.commands list).script = net.script := by
  obtain ⟨inbound, same⟩ := net.commands_of_delivers delivers
  rw [same]
  rfl

end Network

namespace Rig

/-- Whether a deed leaves the script of the network alone. The peer may send. -/
def Deed.unscripted : Deed → Bool
  | .commands list => list.all Network.Command.delivers
  | _ => true

variable {rig : Rig}

theorem script_request (faultless : rig.network.script.Faultless)
    (request : Connection.Request) :
    (rig.request request).2.network.script = rig.network.script := by
  refine Eq.trans ?_ (Network.foldl_scriptAfter faultless (rig.entry request).events)
  exact Network.script_tracked.carryOut rig.connection rig.clock.now request rig.network

end Rig
end PolledTls.Sim
