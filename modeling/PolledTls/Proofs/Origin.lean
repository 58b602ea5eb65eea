import PolledTls.Proofs.Alike
import PolledTls.Proofs.SendTimeout
import PolledTls.Scripted

/-!
Where the clock began is never seen. A connection compares readings with each other only, so moving
all of them by the same offset, forward or back, changes nothing that it does.
-/
namespace PolledTls

variable {P : Platform}

/-- The turn with a clock that reads more by the offset, or less if the offset is negative. -/
def Turn.moved (offset : Int) (turn : Turn P) : Turn P :=
  { turn with now := (turn.now + offset).toNat }

theorem Turn.moved_forward (shift : Duration) (turn : Turn P) :
    turn.moved shift = turn.later shift :=
  congrArg (Turn.mk turn.meanwhile · turn.request) (Int.toNat_natCast (turn.now + shift))

/-- A turn that can be moved back comes of the moved one by moving that forward again. -/
theorem Turn.later_moved_back {shift : Duration} {turn : Turn P}
    (inRange : 0 ≤ (turn.now : Int) + -shift) : (turn.moved (-shift)).later shift = turn := by
  have back : ((turn.now : Int) + -shift).toNat + shift = turn.now := by omega
  exact congrArg (Turn.mk turn.meanwhile · turn.request) back

namespace Connection

/-- A connection with nothing armed is like itself, wherever the clock began. -/
theorem alike_itself (config : Config) (shift : Duration) :
    (idle config : Connection P).Alike (fun _ => true) shift (idle config) :=
  .mk (c := idle config) ⟨rfl, .inl rfl⟩

theorem history_later (config : Config) (s : P.State) (turns : List (Turn P)) (shift : Duration) :
    ((idle config : Connection P).history s (turns.map (·.later shift))).map Entry.account =
      ((idle config : Connection P).history s turns).map Entry.account :=
  (alike_itself config shift).history s turns (List.all_eq_true.mpr fun _ _ => rfl)

/-- Whatever is asked of a connection, at whatever readings of the clock, in order or not, the same
is seen if every reading is moved by the same offset, as long as none comes to lie before the first
instant: the same results, statuses and numbers of waiting sends, and the same calls, callbacks and
log events with all that they carry, the elapsed times of timeouts included. -/
theorem clock_origin_unseen (config : Config) (s : P.State) (turns : List (Turn P)) (offset : Int)
    (inRange : ∀ turn ∈ turns, 0 ≤ (turn.now : Int) + offset) :
    ((idle config : Connection P).history s (turns.map (·.moved offset))).map Entry.account =
      ((idle config : Connection P).history s turns).map Entry.account := by
  obtain ⟨shift, rfl | rfl⟩ := offset.eq_nat_or_neg
  · have forward : turns.map (·.moved shift) = turns.map (·.later shift) :=
      List.map_congr_left fun turn _ => Turn.moved_forward shift turn
    rw [forward]
    exact history_later config s turns shift
  -- The run moved back is the one to start from: the run given is that one moved forward.
  · have forward : (turns.map (·.moved (-shift))).map (·.later shift) = turns := by
      rw [List.map_map]
      refine (List.map_congr_left fun turn member => ?_).trans turns.map_id
      exact Turn.later_moved_back (inRange turn member)
    have same := history_later config s (turns.map (·.moved (-shift))) shift
    rw [forward] at same
    exact same.symm

/-- A run whose clock jumps ahead, goes back and reads 3 at the earliest, beside the same run three
nanoseconds earlier: in both a send is given up after 11 nanoseconds and then an open after 7. -/
theorem clock_origin_unseen_timeouts :
    let config : Config := { host := "h", port := 1, operationTimeout := 5, sendTimeout := 10 }
    let s : Script := { isComplete := [true, false], write := [.count 1, .count 0] }
    let turns : List (Turn Script.platform) :=
      [⟨id, 40, .start 1⟩, ⟨id, 3, .poll⟩, ⟨id, 40, .poll⟩, ⟨id, 40, .poll⟩,
        ⟨id, 40, .send [7, 8] 2⟩, ⟨id, 9, .poll⟩, ⟨id, 4, .poll⟩, ⟨id, 20, .poll⟩,
        ⟨id, 20, .close 3⟩, ⟨id, 5, .start 4⟩, ⟨id, 12, .poll⟩]
    let calls := (idle config : Connection Script.platform).history s turns
    let earlier := (idle config : Connection Script.platform).history s (turns.map (·.moved (-3)))
    Event.sendTimeouts (Entry.eventsOf calls) = [(11, 1)] ∧
      Event.openTimeouts (Entry.eventsOf calls) = [(.openingDns, 7)] ∧
      (turns.map (·.moved (-3))).map (·.now) = [37, 0, 37, 37, 37, 6, 1, 17, 17, 2, 9] ∧
      earlier.map Entry.account = calls.map Entry.account := by
  intro config s turns calls earlier
  exact ⟨by decide +kernel, by decide +kernel, by decide +kernel,
    clock_origin_unseen config s turns (-3) (by decide)⟩

end Connection
end PolledTls
