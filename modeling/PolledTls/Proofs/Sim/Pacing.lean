import PolledTls.Proofs.Parallel
import PolledTls.Sim.Network

/-!
The pace of a simulated network: how much a read hands out and a write accepts, and so which bytes
have passed. Nothing but reads and writes sees it, and nothing else that is asked of a network
depends on it.
-/
namespace PolledTls.Sim.Network

/-- The network without what paces its reads and writes and without the bytes they move. -/
def unpaced (net : Network) : Network :=
  { net with
    draws := .least
    writeRule := .unlimited
    readRule := .asDelivered
    inbound := []
    written := ∅
    writeCalls := ∅ }

/-- Networks that differ in their pace at most, and on which the next read and the next write do not
fail. -/
structure Alike (net other : Network) : Prop where
  unpaced : other.unpaced = net.unpaced
  reads : net.readFault = none
  writes : net.writeFault = none

variable {net other third : Network} {α : Type} {x : Act platform α}

namespace Alike

theorem symm (same : net.Alike other) : other.Alike net :=
  ⟨same.unpaced.symm, (congrArg readFault same.unpaced).trans same.reads,
    (congrArg writeFault same.unpaced).trans same.writes⟩

theorem trans (same : net.Alike other) (next : other.Alike third) : net.Alike third :=
  ⟨next.unpaced.trans same.unpaced, same.reads, same.writes⟩

end Alike

/-! What is done on a network. -/

/-- On this network the action does not see or change the pace, nor what the next read and the next
write fail with. -/
structure Paceless (x : Act platform α) (net : Network) : Prop where
  value : (x net.unpaced).value = (x net).value
  state : (x net.unpaced).state = (x net).state.unpaced
  reads : (x net).state.readFault = net.readFault
  writes : (x net).state.writeFault = net.writeFault

theorem blind_of_paceless (paceless : ∀ net, Paceless x net) : x.Blind Alike := by
  intro net other same
  obtain ⟨value, state, reads, writes⟩ := paceless net
  have there := paceless other
  rw [← value, ← there.value, same.unpaced]
  refine ⟨rfl, ?_, reads.trans same.reads, writes.trans same.writes⟩
  rw [← state, ← there.state, same.unpaced]

theorem composed : Act.Composed fun x : Act platform _ => x.Blind Alike where
  pure a := .pure rfl
  bind first second := .same first second
  log event := fun _ _ same => ⟨rfl, same⟩
  beginLookup hostname := blind_of_paceless fun net => by
    cases refused : net.refusesLookups <;>
      constructor <;> simp [Act.beginLookup, platform, beginLookup, unpaced, refused]
  isComplete lookup := fun _ _ same => ⟨rfl, same⟩
  result lookup := blind_of_paceless fun net => ⟨rfl, rfl, rfl, rfl⟩
  beginConnect endpoint := blind_of_paceless fun net => by
    cases refused : net.refusesConnects <;>
      constructor <;> simp [Act.beginConnect, platform, beginConnect, unpaced, refused]
  pollConnect socket := by
    intro net other same
    simp only [Act.pollConnect, platform, pollConnect]
    split
    · split <;> exact ⟨rfl, same⟩
    · exact ⟨rfl, same⟩
  newContext := blind_of_paceless fun net => by
    by_cases fails : net.failingStep = some .context <;>
      constructor <;> simp [Act.newContext, platform, newContext, unpaced, fails]
  newSession context serverName := blind_of_paceless fun net => by
    by_cases fails : net.failingStep = some .session <;>
      constructor <;> simp [Act.newSession, platform, newSession, unpaced, fails]
  bindSocket session socket := blind_of_paceless fun net => by
    by_cases fails : net.failingStep = some .bind <;>
      constructor <;> simp [Act.bindSocket, platform, bindSocket, unpaced, fails]
  handshake session := by
    intro net other same
    simp only [Act.handshake, platform, handshake]
    split
    · exact ⟨rfl, same⟩
    · split
      · split <;> exact ⟨rfl, same⟩
      · exact ⟨rfl, same⟩
  shutdown session := blind_of_paceless fun net => ⟨rfl, rfl, rfl, rfl⟩
  releaseLookup lookup := blind_of_paceless fun net => ⟨rfl, rfl, rfl, rfl⟩
  releaseSocket socket := blind_of_paceless fun net => ⟨rfl, rfl, rfl, rfl⟩
  releaseContext context := blind_of_paceless fun net => ⟨rfl, rfl, rfl, rfl⟩
  releaseSession session := blind_of_paceless fun net => ⟨rfl, rfl, rfl, rfl⟩

theorem read_stays (buffer : Buffer) (session : Session) :
    (Act.read (P := platform) buffer session).Stays Alike
      fun (answer, _, left) => Act.Mild answer ∧ left = session := by
  intro net same
  simp only [Act.read, platform, read]
  split
  case h_1 kind fault =>
    rw [same.reads] at fault
    cases fault
  case h_2 =>
    refine ⟨⟨?_, rfl⟩, same⟩
    rintro _ ⟨rfl⟩
    rfl
  case h_3 => exact ⟨⟨nofun, rfl⟩, rfl, same.reads, same.writes⟩

theorem write_stays (offered : Bytes) (session : Session) :
    (Act.write (P := platform) offered session).Stays Alike
      fun (answer, left) => Act.Mild answer ∧ left = session := by
  intro net same
  simp only [Act.write, platform, write]
  split
  case h_1 kind fault =>
    rw [same.writes] at fault
    cases fault
  case h_2 =>
    split
    · refine ⟨⟨?_, rfl⟩, rfl, same.reads, same.writes⟩
      rintro _ ⟨rfl⟩
      rfl
    · exact ⟨⟨nofun, rfl⟩, rfl, same.reads, same.writes⟩

theorem blind : platform.Blind Alike where
  symm := Alike.symm
  trans := Alike.trans
  grants same size := congrFun (congrArg memory same.unpaced) size
  composed := composed
  read := read_stays
  write := write_stays

/-! What is done to a network. -/

/-- Whether a command is about the pace and nothing else. -/
def Command.paces : Command → Bool
  | .write _ | .read _ => true
  | _ => false

/-- Whether a command makes the next read or the next write fail. -/
def Command.injects : Command → Bool
  | .failNextRead _ | .failNextWrite _ => true
  | _ => false

/-- The commands that are not about the pace. -/
def pacelessOf (list : List Command) : List Command :=
  list.filter fun command => !command.paces

theorem unpaced_command (net : Network) (command : Command) :
    (net.command command).unpaced = (net.unpaced.command command).unpaced := by
  cases command with
  | deliver bytes =>
      simp only [Network.command]
      split <;> rfl
  | _ => rfl

theorem unpaced_command_of_paces {command : Command} (paces : command.paces = true) :
    (net.command command).unpaced = net.unpaced := by
  cases command with
  | write mode => rfl
  | read mode => rfl
  | _ => cases paces

theorem unpaced_commands (same : other.unpaced = net.unpaced) (list : List Command) :
    (other.commands list).unpaced = (net.commands list).unpaced := by
  induction list generalizing net other with
  | nil => exact same
  | cons command rest ih =>
      apply ih
      rw [unpaced_command, same, ← unpaced_command]

/-- Without the pace, commands come to what those do that are not about it. -/
theorem unpaced_pacelessOf (net : Network) (list : List Command) :
    (net.commands (pacelessOf list)).unpaced = (net.commands list).unpaced := by
  induction list generalizing net with
  | nil => rfl
  | cons command rest ih =>
      rw [pacelessOf, List.filter_cons]
      cases paces : command.paces with
      | false => exact ih (net.command command)
      | true =>
          refine (ih net).trans ?_
          exact unpaced_commands (unpaced_command_of_paces paces).symm rest

theorem faults_command (net : Network) {command : Command} (clean : command.injects = false) :
    (net.command command).readFault = net.readFault ∧
      (net.command command).writeFault = net.writeFault := by
  cases command with
  | failNextRead kind => cases clean
  | failNextWrite kind => cases clean
  | deliver bytes =>
      simp only [Network.command]
      split <;> exact ⟨rfl, rfl⟩
  | _ => exact ⟨rfl, rfl⟩

theorem faults_commands (net : Network) {list : List Command}
    (clean : list.any Command.injects = false) :
    (net.commands list).readFault = net.readFault ∧
      (net.commands list).writeFault = net.writeFault := by
  induction list generalizing net with
  | nil => exact ⟨rfl, rfl⟩
  | cons command rest ih =>
      rw [List.any_cons, Bool.or_eq_false_iff] at clean
      obtain ⟨reads, writes⟩ := net.faults_command clean.1
      obtain ⟨later, others⟩ := ih (net.command command) clean.2
      exact ⟨later.trans reads, others.trans writes⟩

/-- Networks stay alike under commands that agree but for the pace and inject no fault. -/
theorem Alike.commands {list others : List Command} (same : net.Alike other)
    (agree : pacelessOf others = pacelessOf list) (clean : list.any Command.injects = false) :
    (net.commands list).Alike (other.commands others) := by
  obtain ⟨reads, writes⟩ := net.faults_commands clean
  refine ⟨?_, reads.trans same.reads, writes.trans same.writes⟩
  rw [← unpaced_pacelessOf other, agree, unpaced_pacelessOf]
  exact unpaced_commands same.unpaced list

theorem alike_fresh (draws another : Draws) (memory : Nat → Bool) :
    (fresh draws memory).Alike (fresh another memory) :=
  ⟨rfl, rfl, rfl⟩

end PolledTls.Sim.Network
