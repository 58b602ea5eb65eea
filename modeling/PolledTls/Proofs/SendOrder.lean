import PolledTls.Proofs.Sends
import PolledTls.Proofs.Sim.Drill
import PolledTls.Scripted

/-!
Accepted sends complete once each and in the order in which they were accepted; a close and the
drop leave nothing waiting. In a drill the numbers of the completed sends are therefore in order.
-/
namespace PolledTls

namespace Sim.Drill

theorem World.map_sends (w : World) :
    w.sends.map (·.1) = Event.sends w.rig.record.toList := by
  rw [World.sends, List.map_filterMap, Event.sends]
  congr 1
  funext fired
  cases fired <;> rfl

/-- The check of the sends comes down to the results where the numbers are in order. -/
theorem Check.run_sendsCompleted {w : World}
    (ordered : w.sends.map (·.1) = List.range w.sends.length) (expected : List Completion) :
    Check.run w (.sendsCompleted expected) = .ok () ↔ w.sends.map (·.2) = expected := by
  have numbers : w.sends.map (·.1) = List.range (w.sends.map (·.1)).length := by
    rw [List.length_map]
    exact ordered
  rw [Check.run]
  by_cases same : w.sends.map (·.2) = expected
  · simp only [← numbers, same, decide_true, ensure, if_true]
    exact iff_of_true rfl trivial
  · simp only [← numbers, same, decide_true, decide_false, ensure, if_true]
    refine iff_of_false ?_ id
    rintro ⟨⟩

end Sim.Drill

/-- Accepted sends of a rig are numbered from zero, and so are those of them that completed. -/
theorem Sim.Rig.Traces.completed_numbers {rig : Sim.Rig} {config : Config}
    {calls : List (Entry Sim.Network.platform)} (traces : rig.Traces config calls) :
    Entry.completedBy calls = List.range (Entry.completedBy calls).length := by
  have law := traces.linked.sends_of_empty rfl
  rw [traces.numbered] at law
  have first := List.prefix_iff_eq_take.mp ⟨_, law⟩
  have within := congrArg List.length law
  rw [List.length_append, List.length_range] at within
  rw [List.take_range, Nat.min_eq_left (by omega)] at first
  exact first

open Sim.Drill (World Check)

/-- At every point of a history the sends that have completed are the first that were accepted,
each once and in order, and the others wait; a close and the drop leave none waiting, and a refused
send does not complete. In a drill, where accepted sends are numbered in order, the check of the
completions therefore comes down to their results. -/
theorem sends_complete_in_order :
    (∀ (P : Platform) (config : Config) (s : P.State) (turns : List (Turn P)),
      let calls := (Connection.idle config : Connection P).history s turns
      ∀ past e later, calls = past ++ e :: later →
        (∀ seen, seen <+: e.events →
          Event.sends (Entry.eventsOf past ++ seen) <+: Entry.acceptedBy past) ∧
        e.before.pendingSends + (Entry.completedBy past).length =
          (Entry.acceptedBy past).length ∧
        e.after.pendingSends + (Entry.completedBy (past ++ [e])).length =
          (Entry.acceptedBy (past ++ [e])).length ∧
        ((∃ t, e.request = some (.close t)) ∨ e.request = none →
          Entry.completedBy (past ++ [e]) = Entry.acceptedBy (past ++ [e])) ∧
        ∀ bytes ticket error, e.request = some (.send bytes ticket) → e.result = .error error →
          ticket ∉ Entry.acceptedBy calls → ticket ∉ Entry.completedBy calls) ∧
    ∀ (config : Config) (network : Sim.Network) (start : World) (steps : List Sim.Drill.Step),
      World.create config network = .ok start →
        let w := (World.steps steps start).2
        w.sends.map (·.1) = List.range w.sends.length ∧
          w.rig.connection.pendingSends + w.sends.length = w.rig.sends ∧
          ∀ expected, Check.run w (.sendsCompleted expected) = .ok () ↔
            w.sends.map (·.2) = expected := by
  constructor
  · intro P config s turns calls past e later split
    have fresh : (Connection.idle config : Connection P).Sound := Connection.sound_idle config
    obtain ⟨last, linked, -⟩ := Connection.history_linked fresh s turns
    have whole : Entry.completedBy calls ++ _ = Entry.acceptedBy calls := linked.sends_of_empty rfl
    have linked : Connection.Linked (.idle config) (past ++ e :: later) last := split ▸ linked
    obtain ⟨before, step, -⟩ := linked.at_
    have upto : Connection.Linked (.idle config) (past ++ [e]) e.after :=
      before.append (.cons step (.nil _))
    refine ⟨fun seen part => before.completed_prefix rfl step part, before.pending rfl,
      upto.pending rfl, ?_, ?_⟩
    · intro ends
      exact upto.all_completed rfl (step.emptied (before.sound fresh) ends)
    · intro bytes ticket error asked refused unaccepted completed
      exact unaccepted (whole ▸ List.mem_append_left _ completed)
  · intro config network start steps created w
    obtain ⟨calls, traces⟩ := World.steps_traces created steps
    have completed : w.sends.map (·.1) = Entry.completedBy calls := by
      rw [World.map_sends, traces.record]
      rfl
    have pending := traces.linked.pending rfl
    rw [← completed, traces.numbered, List.length_map, List.length_range] at pending
    have ordered : w.sends.map (·.1) = List.range w.sends.length := by
      have numbers := traces.completed_numbers
      rw [← completed, List.length_map] at numbers
      exact numbers
    exact ⟨ordered, pending, Check.run_sendsCompleted ordered⟩

/-- A send that comes too early is refused. Of two that follow one is written out and one is called
off by the close, and so it is with the same two in a drill. -/
theorem sends_complete_in_order_closed :
    let config : Config := { host := "h", port := 1 }
    let s : Script := {}
    let turns : List (Turn Script.platform) :=
      [⟨id, 0, .send [7] 9⟩, ⟨id, 0, .start 1⟩, ⟨id, 0, .poll⟩, ⟨id, 0, .poll⟩, ⟨id, 0, .poll⟩,
        ⟨id, 0, .send [5] 2⟩, ⟨id, 0, .send [6] 3⟩, ⟨id, 0, .poll⟩, ⟨id, 0, .close 4⟩]
    let calls := (Connection.idle config : Connection Script.platform).history s turns
    let steps : List Sim.Drill.Step := [.start, .poll 3, .send [5], .send [6], .poll 1, .close]
    Entry.acceptedBy calls = [2, 3] ∧ 9 ∉ Entry.completedBy calls ∧
      (∃ past e later, calls = past ++ e :: later ∧ e.request = some .poll ∧
        Entry.completedBy (past ++ [e]) = [2] ∧ e.after.pendingSends = 1) ∧
      (∃ past e later, calls = past ++ e :: later ∧ e.request = some (.close 4) ∧
        Entry.completedBy (past ++ [e]) = [2, 3]) ∧
      ∃ start, World.create config (Sim.Network.ofSeed 0) = .ok start ∧
        let w := (World.steps steps start).2
        w.sends.map (·.1) = [0, 1] ∧ Check.run w (.sendsCompleted [.ok, .cancelled]) = .ok () := by
  intro config s turns calls steps
  have ordered := sends_complete_in_order.1 Script.platform config s turns
  have early : calls = [] ++ calls[0] :: calls.drop 1 := rfl
  have polled : calls = calls.take 7 ++ calls[7] :: calls.drop 8 := rfl
  have closed : calls = calls.take 8 ++ calls[8] :: calls.drop 9 := rfl
  refine ⟨by decide +kernel, ?_, ?_, ?_, ?_⟩
  · obtain ⟨-, -, -, -, never⟩ := ordered _ _ _ early
    exact never _ _ _ rfl rfl (by decide +kernel)
  · obtain ⟨-, -, pending, -⟩ := ordered _ _ _ polled
    have accepted : (Entry.acceptedBy (calls.take 7 ++ [calls[7]])).length = 2 := by decide +kernel
    have completed : Entry.completedBy (calls.take 7 ++ [calls[7]]) = [2] := by decide +kernel
    rw [accepted, completed] at pending
    exact ⟨_, _, _, polled, rfl, completed, Nat.succ.inj pending⟩
  · obtain ⟨-, -, -, all, -⟩ := ordered _ _ _ closed
    exact ⟨_, _, _, closed, rfl, (all (.inl ⟨4, rfl⟩)).trans (by decide +kernel)⟩
  · have checked : Config.check { host := "h", port := 1 } = .ok () := rfl
    have created := Sim.Rig.create_ok checked World.clientName (Sim.Network.ofSeed 0) rfl
    have made := World.create_of created
    obtain ⟨numbers, -, check⟩ := sends_complete_in_order.2 config _ _ steps made
    exact ⟨_, made, numbers.trans (by decide +kernel), (check _).mpr (by decide +kernel)⟩

end PolledTls
