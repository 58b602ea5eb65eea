import Mathlib.Logic.Function.Iterate
import PolledTls.Proofs.Sim.Drill

/-!
Polling until a status is reached. A rig counts its polls and a drill keeps a trace of them; both
stop before the first poll that is not needed, and both give up when no more are allowed.
-/
namespace PolledTls.Sim

namespace Rig

variable {target : Status} {k most : Nat} {rig : Rig}

/-- How many polls it takes to reach a status, or else all that are allowed. -/
def pollsFor (target : Status) : Nat → Rig → Nat
  | 0, _ => 0
  | most + 1, rig => if rig.status = target then 0 else pollsFor target most rig.poll + 1

theorem pollsFor_le (target : Status) (most : Nat) (rig : Rig) :
    pollsFor target most rig ≤ most := by
  induction most generalizing rig with
  | zero => exact Nat.le_refl 0
  | succ most ih =>
      rw [pollsFor]
      split
      · exact Nat.zero_le _
      · exact Nat.succ_le_succ (ih rig.poll)

theorem status_before_pollsFor (before : k < pollsFor target most rig) :
    (poll^[k] rig).status ≠ target := by
  induction most generalizing rig k with
  | zero => cases before
  | succ most ih =>
      rw [pollsFor] at before
      split at before
      case isTrue => cases before
      case isFalse elsewhere =>
        cases k with
        | zero => exact elsewhere
        | succ k =>
            rw [Function.iterate_succ_apply]
            exact ih (Nat.succ_lt_succ_iff.mp before)

theorem status_at_pollsFor (spare : pollsFor target most rig < most) :
    (poll^[pollsFor target most rig] rig).status = target := by
  induction most generalizing rig with
  | zero => cases spare
  | succ most ih =>
      rw [pollsFor] at spare ⊢
      split
      case isTrue here => exact here
      case isFalse elsewhere =>
        rw [if_neg elsewhere] at spare
        exact ih (Nat.lt_of_succ_lt_succ spare)

theorem pollsFor_of_reached (within : k ≤ most) (reached : (poll^[k] rig).status = target)
    (first : ∀ n < k, (poll^[n] rig).status ≠ target) : pollsFor target most rig = k := by
  rcases Nat.lt_trichotomy (pollsFor target most rig) k with sooner | same | later
  · exact absurd (status_at_pollsFor (Nat.lt_of_lt_of_le sooner within)) (first _ sooner)
  · exact same
  · exact absurd reached (status_before_pollsFor later)

theorem pollsFor_of_missed (missed : ∀ n ≤ most, (poll^[n] rig).status ≠ target) :
    pollsFor target most rig = most := by
  have within := pollsFor_le target most rig
  exact Nat.le_antisymm within
    (Nat.le_of_not_lt fun spare => missed _ within (status_at_pollsFor spare))

theorem reachFrom_eq (target : Status) (taken most : Nat) (rig : Rig) :
    reachFrom target taken most rig =
      (if (poll^[pollsFor target most rig] rig).status = target then
          some (taken + pollsFor target most rig)
        else none,
        poll^[pollsFor target most rig] rig) := by
  induction most generalizing rig taken with
  | zero => rfl
  | succ most ih =>
      rw [reachFrom, pollsFor]
      by_cases here : rig.status = target
      · simp only [if_pos here, Function.iterate_zero_apply, Nat.add_zero]
      · simp only [if_neg here, ih, Function.iterate_succ_apply]
        rw [Nat.succ_add_eq_add_succ]

end Rig

namespace Drill.World

/-- A client polled a number of times, with its status after each poll. -/
theorem pollTimes_eq (count : Nat) (w : World) :
    pollTimes count w = { w with
      rig := Rig.poll^[count] w.rig
      trace := w.trace ++
        (List.range count).map fun n => (Rig.poll^[n + 1] w.rig).status } := by
  induction count generalizing w with
  | zero => rfl
  | succ count ih =>
      have traced : w.poll.trace ++
            (List.range count).map (fun n => (Rig.poll^[n + 1] w.rig.poll).status) =
          w.trace ++ (List.range (count + 1)).map fun n => (Rig.poll^[n + 1] w.rig).status := by
        ext
        rw [List.range_succ_eq_map, List.map_cons, List.map_map, Trail.toList_append,
          Trail.toList_append, World.poll, Trail.toList_push, List.append_assoc]
        rfl
      rw [pollTimes, ih, ← traced]
      rfl

theorem pollWhileNot_eq (target : Status) (most : Nat) (w : World) :
    pollWhileNot target most w =
      (decide ((Rig.poll^[Rig.pollsFor target most w.rig] w.rig).status = target),
        pollTimes (Rig.pollsFor target most w.rig) w) := by
  induction most generalizing w with
  | zero =>
      unfold pollWhileNot
      by_cases here : w.status = target
      · rw [if_pos here]
        exact congrArg (·, w) (decide_eq_true here).symm
      · rw [if_neg here]
        exact congrArg (·, w) (decide_eq_false here).symm
  | succ most ih =>
      rw [pollWhileNot, World.status, Rig.pollsFor]
      by_cases here : w.rig.status = target
      · rw [if_pos here, if_pos here]
        exact congrArg (·, w) (decide_eq_true here).symm
      · rw [if_neg here, if_neg here, ih]
        rfl

end Drill.World

open Drill (World)

/-- Whatever the client and its network, polling for a status takes the least number of polls after
which the client has it, if that many are allowed, and else all that are allowed. A rig answers
with that number and a drill adds as many statuses to its trace; if the status is not reached, both
fail. Either way client, network and record are left alike. -/
theorem polls_until_reached (w : World) (target : Status) (most : Nat) :
    let polled (count : Nat) := Rig.poll^[count] w.rig
    let traced (count : Nat) : World := { w with
      rig := polled count
      trace := w.trace ++ (List.range count).map fun n => (polled (n + 1)).status }
    let byRig := w.rig.reach target most
    let byDrill := w.step (.reach target most)
    (∀ k ≤ most, (polled k).status = target → (∀ n < k, (polled n).status ≠ target) →
      byRig = (.ok k, polled k) ∧ byDrill = (none, traced k)) ∧
    ((∀ k ≤ most, (polled k).status ≠ target) →
      (∃ text, byRig = (.error text, polled most)) ∧
        ∃ text, byDrill = (some (.failed text), traced most)) ∧
    byDrill.2.rig = byRig.2 := by
  intro polled traced byRig byDrill
  have counted := Rig.reachFrom_eq target 0 most w.rig
  have noted := World.pollWhileNot_eq target most w
  rw [World.pollTimes_eq] at noted
  refine ⟨?_, ?_, ?_⟩
  · intro k within reached first
    rw [Rig.pollsFor_of_reached within reached first] at counted noted
    rw [if_pos reached, Nat.zero_add] at counted
    rw [decide_eq_true reached] at noted
    constructor
    · change w.rig.reach target most = _
      rw [Rig.reach, counted]
    · change w.step (.reach target most) = _
      rw [World.step, noted]
  · intro missed
    rw [Rig.pollsFor_of_missed missed] at counted noted
    rw [if_neg (missed most (Nat.le_refl most))] at counted
    rw [decide_eq_false (missed most (Nat.le_refl most))] at noted
    constructor
    · change ∃ text, w.rig.reach target most = (.error text, polled most)
      rw [Rig.reach, counted]
      exact ⟨_, rfl⟩
    · change ∃ text, w.step (.reach target most) = (some (.failed text), traced most)
      rw [World.step, noted]
      exact ⟨_, rfl⟩
  · change (w.step (.reach target most)).2.rig = (w.rig.reach target most).2
    rw [World.step, Rig.reach, counted, noted]
    by_cases reached : (polled (Rig.pollsFor target most w.rig)).status = target
    · rw [if_pos reached, decide_eq_true reached]
    · rw [if_neg reached, decide_eq_false reached]

/-- A lookup that is ready at the third poll. The socket is then being opened, which the next poll
would end, and a client that was to be open by now is not. -/
theorem polls_until_reached_transient :
    let config : Config := { host := "h", port := 1 }
    ∃ w, World.create config ((Network.ofSeed 0).commands [.delayLookups 2]) = .ok w ∧
      let started := (w.step .start).2
      started.rig.reach .openingSocket 3 = (.ok 3, Rig.poll^[3] started.rig) ∧
        (started.step (.reach .openingSocket 3)).1 = none ∧
        (started.step (.reach .openingSocket 3)).2.trace.toList =
          [.notOpen, .openingDns, .openingDns, .openingSocket] ∧
        (∃ text, started.rig.reach .opened 3 = (.error text, Rig.poll^[3] started.rig)) ∧
        (Rig.poll^[4] started.rig).status = .openingTls := by
  intro config
  have checked : Config.check { host := "h", port := 1 } = .ok () := rfl
  have created := Rig.create_ok checked World.clientName
    ((Network.ofSeed 0).commands [.delayLookups 2]) rfl
  refine ⟨_, World.create_of created, ?_⟩
  intro started
  have socket := (polls_until_reached started .openingSocket 3).1 3 (by decide) (by decide +kernel)
    (by decide +kernel)
  have late := (polls_until_reached started .opened 3).2.1 (by decide +kernel)
  refine ⟨socket.1, ?_, ?_, late.1, by decide +kernel⟩
  · exact congrArg (·.1) socket.2
  · refine (congrArg (fun step => step.2.trace.toList) socket.2).trans ?_
    decide +kernel

end PolledTls.Sim
