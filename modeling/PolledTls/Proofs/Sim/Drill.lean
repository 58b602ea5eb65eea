import PolledTls.Proofs.Sim.Rig
import PolledTls.Sim.Drill.Check

/-!
A drill does nothing with its client but the deeds a rig can be put through, so the client of every
world a drill leads to has a history.
-/
namespace PolledTls.Sim.Drill

open Rig (Deed)

namespace World

variable {w : World}

@[simp] theorem rig_note {α : Type} (w : World) (operation : String)
    (answered : Except Error α × Rig) : (w.note operation answered).rig = answered.2 := by
  obtain ⟨_ | _, rig⟩ := answered <;> rfl

theorem pollTimes_deeds (count : Nat) (w : World) :
    ∃ deeds, (pollTimes count w).rig = w.rig.actAll deeds := by
  induction count generalizing w with
  | zero => exact ⟨[], rfl⟩
  | succ count ih =>
      obtain ⟨deeds, rest⟩ := ih w.poll
      exact ⟨.poll :: deeds, rest⟩

theorem pollWhileNot_deeds (target : Status) (most : Nat) (w : World) :
    ∃ deeds, (pollWhileNot target most w).2.rig = w.rig.actAll deeds := by
  induction most generalizing w with
  | zero =>
      unfold pollWhileNot
      split <;> exact ⟨[], rfl⟩
  | succ most ih =>
      unfold pollWhileNot
      split
      · exact ⟨[], rfl⟩
      · obtain ⟨deeds, rest⟩ := ih w.poll
        exact ⟨.poll :: deeds, rest⟩

theorem step_deeds (w : World) (step : Step) :
    ∃ deeds, (w.step step).2.rig = w.rig.actAll deeds := by
  cases step with
  | start => exact ⟨[.start], rig_note w "open" w.rig.start⟩
  | poll count => exact pollTimes_deeds count w
  | reach target most =>
      obtain ⟨deeds, polled⟩ := pollWhileNot_deeds target most w
      refine ⟨deeds, ?_⟩
      rw [← polled, World.step]
      split
      case h_1 after found => rw [found]
      case h_2 after found => rw [found]
  | advance d =>
      cases moved : w.rig.advance? d with
      | none => exact ⟨[], by rw [World.step, moved]; rfl⟩
      | some rig =>
          refine ⟨[.advance d], ?_⟩
          rw [World.step, moved]
          exact (congrArg (Option.getD · w.rig) moved).symm
  | send bytes => exact ⟨[.send bytes], rig_note w "send" (w.rig.send bytes)⟩
  | deliver bytes => exact ⟨[.commands [.deliver bytes]], rfl⟩
  | network commands => exact ⟨[.commands commands], rfl⟩
  | close => exact ⟨[.close], rig_note w "close" w.rig.close⟩

theorem steps_deeds (steps : List Step) (w : World) :
    ∃ deeds, (World.steps steps w).2.rig = w.rig.actAll deeds := by
  induction steps generalizing w with
  | nil => exact ⟨[], rfl⟩
  | cons next rest ih =>
      obtain ⟨first, taken⟩ := w.step_deeds next
      unfold World.steps
      split
      case h_1 after going =>
        obtain ⟨later, whole⟩ := ih after
        rw [going] at taken
        exact ⟨first ++ later, by rw [whole, taken, Rig.actAll_append]⟩
      case h_2 => exact ⟨first, taken⟩

theorem create_of {config : Config} {network : Network} {rig : Rig}
    (made : Rig.create clientName config network = .ok rig) :
    create config network = .ok ⟨rig, .ofList [rig.status], ∅⟩ := by
  rw [create, made]

theorem rig_create {config : Config} {network : Network}
    (created : create config network = .ok w) :
    Rig.create clientName config network = .ok w.rig := by
  unfold create at created
  split at created
  case h_1 rig made =>
    cases created
    exact made
  case h_2 => cases created

theorem steps_traces {config : Config} {network : Network}
    (created : create config network = .ok w) (steps : List Step) :
    ∃ calls, (World.steps steps w).2.rig.Traces config calls := by
  obtain ⟨deeds, same⟩ := steps_deeds steps w
  obtain ⟨calls, traces⟩ := Rig.actAll_traces (Rig.traces_create (rig_create created)) deeds
  exact ⟨calls, same ▸ traces⟩

end World

/-- A drill that could begin leaves its client dropped, however it ended. -/
theorem left_run (config : Config) (seed : UInt64) (setup : List Network.Command)
    (steps : List Step) (checks : List Check) :
    (run config seed setup steps checks).left =
      match World.create config ((Network.ofSeed seed).commands setup) with
      | .error _ => none
      | .ok w => some (World.steps steps w).2.rig.drop := by
  rw [run]
  cases World.create config ((Network.ofSeed seed).commands setup) with
  | error text => rfl
  | ok w =>
      dsimp only
      split
      case h_1 ended => rw [ended]
      case h_2 ended => rw [ended]

end PolledTls.Sim.Drill
