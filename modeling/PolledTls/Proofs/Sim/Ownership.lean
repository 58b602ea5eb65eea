import PolledTls.Proofs.Sim.Drill
import PolledTls.Proofs.Sim.Tally

/-!
Ownership on a simulated network. Between two calls the status says how many resources of each kind
are out, so all are back when the connection is not open, has failed or is gone.
-/
namespace PolledTls.Sim

namespace Rig

def leavesSession (rig : Rig) : Deed → Bool
  | .close => rig.status.hasSession
  | _ => false

/-- How many of the deeds close the rig while there is a session. -/
def sessionsLeft (rig : Rig) : List Deed → Nat
  | [] => 0
  | deed :: rest => (rig.leavesSession deed).toNat + (rig.act deed).sessionsLeft rest

variable {rig after : Rig} {deed : Deed} {config : Config}
  {calls more : List (Entry Network.platform)}

theorem Moves.shutdowns (h : rig.Moves deed more after) (sound : rig.connection.Sound) :
    Event.shutdowns (Entry.eventsOf more) = (rig.leavesSession deed).toNat := by
  cases h with
  | asks request asked count numbered =>
      have step := Connection.carryOut_step sound rig.clock.now request rig.network
      rw [Entry.eventsOf_singleton]
      refine step.shutdowns.trans ?_
      cases deed <;> cases asked <;> rfl
  | sets silent clock list => cases deed <;> first | rfl | cases silent

theorem shutdowns_actAll (traces : rig.Traces config calls) (deeds : List Deed) :
    Event.shutdowns (rig.actAll deeds).record.toList =
      Event.shutdowns rig.record.toList + rig.sessionsLeft deeds := by
  induction deeds generalizing rig calls with
  | nil => rfl
  | cons deed rest ih =>
      obtain ⟨more, moves⟩ := rig.act_moves deed
      have told := moves.shutdowns traces.sound
      have first : Event.shutdowns (rig.act deed).record.toList =
          Event.shutdowns rig.record.toList + Event.shutdowns (Entry.eventsOf more) := by
        rw [moves.record, Event.shutdowns_append]
      have later := ih (moves.traces traces)
      rw [first, told, Nat.add_assoc] at later
      exact later

theorem booked_setup {name : String} {draws : Draws} {memory : Nat → Bool}
    {setup : List Network.Command}
    (created : create name config ((Network.fresh draws memory).commands setup) = .ok rig) :
    rig.Booked ⟨{}, []⟩ := by
  have booked := booked_create created
  rw [Network.books_setup] at booked
  exact booked

theorem Booked.shutdowns (booked : rig.Booked ⟨{}, []⟩) :
    rig.network.tally.shutdowns = Event.shutdowns rig.record.toList := by
  rw [booked.tally, Tally.shutdowns_afterAll]
  exact Nat.zero_add _

theorem Traces.afterAll (traces : rig.Traces config calls) :
    Holdings.afterAll {} rig.record.toList = some rig.status.holdings := by
  rw [traces.record]
  exact traces.linked.afterAll (Connection.sound_idle config)

theorem Traces.balanced (traces : rig.Traces config calls)
    (booked : rig.Booked ⟨{}, []⟩) : rig.network.tally.Balanced rig.status.holdings := by
  rw [booked.tally]
  exact Tally.balanced_empty.afterAll traces.afterAll

/-- At no point has more been given back than was made. -/
theorem Traces.freed_le (traces : rig.Traces config calls) {seen : List Event}
    (part : seen <+: rig.record.toList) (r : Resource) :
    (Tally.afterAll {} seen).freed r ≤ (Tally.afterAll {} seen).made r := by
  obtain ⟨rest, whole⟩ := part
  have goes := traces.afterAll
  rw [← whole, Holdings.afterAll_append] at goes
  obtain ⟨held, sofar, -⟩ := Option.bind_eq_some_iff.mp goes
  exact (Tally.balanced_empty.afterAll sofar).freed_le r

theorem status_drop (traces : rig.Traces config calls) : rig.drop.status = .notOpen := by
  have step : rig.connection.Step 0 none _ _ _ :=
    Connection.discard_step traces.sound rig.network
  exact step.dropped

theorem shutdowns_drop (traces : rig.Traces config calls) :
    Event.shutdowns rig.drop.record.toList =
      Event.shutdowns rig.record.toList + rig.status.hasSession.toNat := by
  have step : rig.connection.Step 0 none _ _ _ :=
    Connection.discard_step traces.sound rig.network
  change Event.shutdowns (rig.record ++ rig.farewell.events).toList = _
  rw [Trail.toList_append, Event.shutdowns_append]
  exact congrArg _ step.shutdowns

theorem allReleased_drop (traces : rig.Traces config calls)
    (booked : rig.Booked ⟨{}, []⟩) : rig.drop.network.tally.allReleased = true := by
  have balance := traces.drop.balanced booked.drop
  rw [balance.allReleased_iff, status_drop traces]
  rfl

end Rig

open Drill (World)

/-- Whatever a rig is put through, what is out is what its status says, nothing has been given back
that was not made, and the peer was told in every close and drop that found a session. After the
drop everything is back, and so it is at the end of every drill, however it went. -/
theorem resources_held_by_status :
    (∀ (name : String) (config : Config) (draws : Draws) (memory : Nat → Bool)
      (setup : List Network.Command) (rig : Rig) (deeds : List Rig.Deed),
      Rig.create name config ((Network.fresh draws memory).commands setup) = .ok rig →
      let now := rig.actAll deeds
      let left := now.drop
      (∀ r, now.network.tally.made r =
        now.network.tally.freed r + (now.status.holdings.holds r).toNat) ∧
      (now.network.tally.allReleased = true ↔ now.status = .notOpen ∨ now.status = .failed) ∧
      left.network.tally = Tally.afterAll {} left.record.toList ∧
      (∀ seen, seen <+: left.record.toList →
        ∀ r, (Tally.afterAll {} seen).freed r ≤ (Tally.afterAll {} seen).made r) ∧
      now.network.tally.shutdowns = rig.sessionsLeft deeds ∧
      left.network.tally.shutdowns = rig.sessionsLeft deeds + now.status.hasSession.toNat ∧
      left.network.tally.allReleased = true) ∧
    ∀ (config : Config) (seed : UInt64) (setup : List Network.Command) (steps : List Drill.Step)
      (checks : List Drill.Check),
      match (Drill.run config seed setup steps checks).left with
      | some rig => rig.network.tally.allReleased = true
      | none => ((Network.ofSeed seed).commands setup).tally.allReleased = true ∧
        ∃ text, World.create config ((Network.ofSeed seed).commands setup) = .error text := by
  constructor
  · intro name config draws memory setup rig deeds created now left
    have start := Rig.traces_create created
    obtain ⟨calls, traces⟩ := Rig.actAll_traces start deeds
    have booked : now.Booked ⟨{}, []⟩ := (Rig.booked_setup created).actAll deeds
    have balance := traces.balanced booked
    have told : Event.shutdowns now.record.toList = rig.sessionsLeft deeds := by
      rw [Rig.shutdowns_actAll start deeds, start.record]
      exact Nat.zero_add _
    refine ⟨balance, ?_, booked.drop.tally, fun seen part r => traces.drop.freed_le part r,
      booked.shutdowns.trans told, ?_, Rig.allReleased_drop traces booked⟩
    · rw [balance.allReleased_iff]
      cases now.status <;> decide
    · rw [booked.drop.shutdowns, ← told]
      exact Rig.shutdowns_drop traces
  · intro config seed setup steps checks
    rw [Drill.left_run]
    cases created : World.create config ((Network.ofSeed seed).commands setup) with
    | error text =>
        have unused := congrArg Books.tally (Network.books_setup (.ofSeed seed) attainable setup)
        exact ⟨by rw [show ((Network.ofSeed seed).commands setup).tally = _ from unused]; rfl,
          text, rfl⟩
    | ok w =>
        have made := World.rig_create created
        obtain ⟨deeds, same⟩ := World.steps_deeds steps w
        obtain ⟨calls, traces⟩ := Rig.actAll_traces (Rig.traces_create made) deeds
        have booked := (Rig.booked_setup made).actAll deeds
        dsimp only
        rw [same]
        exact Rig.allReleased_drop traces booked

/-- A client that is open, with a send behind it, has a socket, a context and a session until it is
dropped. A drill that breaks off in the handshake gives them back as well. -/
theorem resources_held_by_status_opened :
    let config : Config := { host := "h", port := 1 }
    let deeds : List Rig.Deed := [.start, .poll, .poll, .poll, .send [5], .poll]
    let steps : List Drill.Step := [.start, .reach .opened 4]
    (∃ rig, Rig.create "client" config ((Network.ofSeed 0).commands []) = .ok rig ∧
      let now := rig.actAll deeds
      now.status = .opened ∧ now.heard = [.opened Rig.plainTicket .ok, .sent 0 .ok] ∧
        (∀ r, now.network.tally.made r =
          now.network.tally.freed r + if r = .lookup then 0 else 1) ∧
        now.network.tally.allReleased = false ∧ now.drop.network.tally.shutdowns = 1 ∧
        now.drop.network.tally.allReleased = true) ∧
      ∃ left, (Drill.run config 0 [.delayHandshakes 9] steps []).left = some left ∧
        left.network.tally.sessionsCreated = 1 ∧ left.network.tally.allReleased = true := by
  intro config deeds steps
  have checked : Config.check { host := "h", port := 1 } = .ok () := rfl
  constructor
  · have created := Rig.create_ok checked "client" ((Network.ofSeed 0).commands []) rfl
    obtain ⟨held, released, -, -, -, told, back⟩ :=
      resources_held_by_status.1 "client" config _ _ [] _ deeds created
    refine ⟨_, created, by decide +kernel, by decide +kernel, ?_, ?_, ?_, back⟩
    · intro r
      rw [held]
      cases r <;> decide +kernel
    · rw [← Bool.not_eq_true, released]
      decide +kernel
    · rw [told]
      decide +kernel
  · have created := Rig.create_ok checked World.clientName
      ((Network.ofSeed 0).commands [.delayHandshakes 9]) rfl
    have made : World.create config _ = _ := World.create_of created
    have left := Drill.left_run config 0 [.delayHandshakes 9] steps []
    have back := resources_held_by_status.2 config 0 [.delayHandshakes 9] steps []
    rw [made] at left
    rw [left] at back
    exact ⟨_, left, by decide +kernel, back⟩

end PolledTls.Sim
