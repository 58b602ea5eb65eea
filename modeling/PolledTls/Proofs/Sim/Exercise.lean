import Mathlib.Algebra.Ring.Nat
import PolledTls.Proofs.OpenCompletion
import PolledTls.Proofs.SendOrder
import PolledTls.Proofs.Sim.Ownership
import PolledTls.Sim.Exercise

/-!
No exercise finds a promise broken. Its bytes spell out deeds of a rig, so the laws of all deeds
hold of it; the clock cannot run out, for no list of bytes is long enough.
-/
namespace PolledTls

/-- A connection that is not at work does nothing when polled. -/
theorem Connection.poll_still {P : Platform} {c : Connection P}
    (still : c.status = .notOpen ∨ c.status = .failed) (now : Instant) : c.poll now = pure c := by
  unfold Connection.poll
  cases phase : c.phase with
  | notOpen | failed => rfl
  | resolving | connecting | handshaking | opened => simp [status, phase, Phase.status] at still

namespace Sim

namespace Rig

variable {rig after : Rig} {deed : Deed} {config : Config}
  {calls more : List (Entry Network.platform)}

def Deed.opens : Deed → Nat
  | .start => 1
  | _ => 0

/-- The time by which a deed moves the clock. -/
def Deed.time : Deed → Duration
  | .advance step => step
  | _ => 0

/-- A rig asks for every open under the same ticket. -/
theorem Moves.opensAsked (h : rig.Moves deed more after) (ticket : Ticket) :
    Entry.opensAsked ticket more = if ticket = plainTicket then deed.opens else 0 := by
  cases h with
  | asks request asked count numbered =>
      cases deed with
      | start =>
          cases asked
          by_cases plain : ticket = plainTicket
          · simp [Entry.opensAsked, Entry.asksToOpen, entry, Deed.opens, plain]
          · simp [Entry.opensAsked, Entry.asksToOpen, entry, plain, Ne.symm plain]
      | advance | commands => cases asked
      | _ =>
          cases asked
          simp [Entry.opensAsked, Entry.asksToOpen, entry, Deed.opens]
  | sets silent clock list =>
      cases deed with
      | advance | commands => simp [Entry.opensAsked, Deed.opens]
      | _ => cases silent

/-- The calls that deeds come to, with the opens among them. -/
theorem actAll_opensAsked (traces : rig.Traces config calls) (deeds : List Deed) :
    ∃ more, (rig.actAll deeds).Traces config (calls ++ more) ∧
      ∀ ticket, Entry.opensAsked ticket more =
        if ticket = plainTicket then (deeds.map Deed.opens).sum else 0 := by
  induction deeds generalizing rig calls with
  | nil => exact ⟨[], (List.append_nil calls).symm ▸ traces, by simp [Entry.opensAsked]⟩
  | cons deed rest ih =>
      obtain ⟨first, moves⟩ := rig.act_moves deed
      obtain ⟨later, whole, asked⟩ := ih (moves.traces traces)
      refine ⟨first ++ later, by rw [← List.append_assoc]; exact whole, ?_⟩
      intro ticket
      rw [Entry.opensAsked, List.countP_append, ← Entry.opensAsked, ← Entry.opensAsked,
        moves.opensAsked, asked]
      split <;> simp

theorem clock_act (rig : Rig) (deed : Deed) :
    (rig.act deed).clock.now ≤ rig.clock.now + deed.time := by
  cases deed with
  | advance step =>
      rw [act, advance?, Clock.advance?]
      cases moved : Duration.add? rig.clock.now step with
      | none => exact Nat.le_add_right _ _
      | some sum => exact Nat.le_of_eq (Duration.add?_eq_some_iff.mp moved).1.symm
  | send bytes =>
      obtain ⟨sends, same⟩ := rig.send_request bytes
      rw [act, same]
      exact Nat.le_refl _
  | _ => exact Nat.le_refl _

theorem advance?_eq {step : Duration} (room : rig.clock.now + step ≤ Duration.longest) :
    rig.advance? step = some { rig with clock := ⟨rig.clock.now + step⟩ } := by
  rw [advance?, Clock.advance?, Duration.add?_eq_some_iff.mpr ⟨rfl, room⟩]
  rfl

theorem poll_still (still : rig.status = .notOpen ∨ rig.status = .failed) :
    rig.poll.status = rig.status := by
  have rests := Connection.poll_still still rig.clock.now
  rw [poll, status, request, Connection.carryOut, rests]
  rfl

end Rig

namespace Exercise

open Rig (Deed)

/-- What a byte asks for. -/
def deed (byte : UInt8) : Deed :=
  let arg := byte.toNat / 16
  match byte.toNat % 16 with
  | 0 => .start
  | 1 => .close
  | 2 | 3 => .send (List.replicate (arg * 7) byte)
  | 4 => .advance (arg * (50 * Duration.millisecond))
  | 5 => .commands [.deliver (List.replicate (arg + 1) byte)]
  | 6 => .commands [.failNextRead .connectionReset]
  | 7 => .commands [.failNextWrite .brokenPipe]
  | 8 => .commands [.write (writeRule arg)]
  | _ => .poll

/-- The most by which one byte moves the clock. -/
def stride : Duration := 15 * (50 * Duration.millisecond)

theorem step_le (byte : UInt8) :
    byte.toNat / 16 * (50 * Duration.millisecond) ≤ stride := by
  have arg : byte.toNat / 16 ≤ 15 := by
    have := byte.toNat_lt
    omega
  exact Nat.mul_le_mul_right _ arg

theorem time_deed (byte : UInt8) : (deed byte).time ≤ stride := by
  unfold deed
  split
  case h_5 => exact step_le byte
  all_goals exact Nat.zero_le _

theorem opens_deed (byte : UInt8) :
    (deed byte).opens = if byte.toNat % 16 = 0 then 1 else 0 := by
  unfold deed
  split <;> simp_all [Deed.opens]

/-- A poll moves only a connection that is at work. -/
theorem poll_eq (course : Course) : poll course = .ok ⟨course.rig.poll, course.opens⟩ := by
  unfold poll
  dsimp only
  split
  case h_1 idle => exact if_pos (Rig.poll_still (.inl idle))
  case h_2 failed => exact if_pos (Rig.poll_still (.inr failed))
  case h_3 => rfl

/-- A byte is carried out as its deed, as long as the clock has room. -/
theorem operate_eq (course : Course) (byte : UInt8)
    (inTime : course.rig.clock.now + stride ≤ Duration.longest) :
    operate course byte =
      .ok ⟨course.rig.act (deed byte), course.opens + (deed byte).opens⟩ := by
  have room := Nat.le_trans (Nat.add_le_add_left (step_le byte) _) inTime
  unfold operate deed
  dsimp only
  generalize byte.toNat / 16 * (50 * Duration.millisecond) = step at room
  generalize byte.toNat % 16 = code
  match code with
  | 0 | 1 | 2 | 3 | 5 | 6 | 7 | 8 => rfl
  | 4 =>
      simp only [Rig.act, Rig.advance?_eq room]
      rfl
  | _ + 9 => exact poll_eq course

theorem deed_of_poll {byte : UInt8} (polls : 9 ≤ byte.toNat % 16) : deed byte = .poll := by
  unfold deed
  generalize byte.toNat % 16 = code at polls
  match code with
  | _ + 9 => rfl

theorem operateAll_concat (operations : List UInt8) (byte : UInt8) (course : Course) :
    operateAll (operations ++ [byte]) course =
      (operateAll operations course).bind (operate · byte) := by
  induction operations generalizing course with
  | nil =>
      rw [List.nil_append, operateAll]
      cases found : operate course byte <;> simp [operateAll, Except.bind, found]
  | cons first rest ih =>
      rw [List.cons_append, operateAll, operateAll]
      cases operate course first with
      | error violation => rfl
      | ok next => exact ih next

theorem operateAll_eq (operations : List UInt8) (course : Course)
    (inTime : course.rig.clock.now + operations.length * stride ≤ Duration.longest) :
    operateAll operations course = .ok ⟨course.rig.actAll (operations.map deed),
      course.opens + ((operations.map deed).map Deed.opens).sum⟩ := by
  induction operations generalizing course with
  | nil => rfl
  | cons byte rest ih =>
      rw [List.length_cons, Nat.succ_mul] at inTime
      have first := operate_eq course byte
        (Nat.le_trans (Nat.add_le_add_left (Nat.le_add_left stride _) _) inTime)
      have moves : (course.rig.act (deed byte)).clock.now ≤ course.rig.clock.now + stride :=
        Nat.le_trans (course.rig.clock_act _) (Nat.add_le_add_left (time_deed byte) _)
      have room : (course.rig.act (deed byte)).clock.now + rest.length * stride ≤
          Duration.longest := by
        refine Nat.le_trans (Nat.add_le_add_right moves _) ?_
        rw [Nat.add_assoc, Nat.add_comm stride]
        exact inTime
      have later := ih ⟨course.rig.act (deed byte), course.opens + (deed byte).opens⟩ room
      rw [operateAll, first]
      dsimp only
      rw [later, List.map_cons, List.map_cons, List.sum_cons, Nat.add_assoc]
      rfl

/-! What is counted at the end. -/

theorem faults_eq_nil {record : List Event} (sound : record.all Event.faultless = true) :
    faults record = [] := by
  apply List.filterMap_eq_nil_iff.mpr
  intro event member
  have alone := List.all_eq_true.mp sound event member
  cases event with
  | fault fault => cases alone
  | _ => rfl

theorem sendsCompleted_eq (record : List Event) :
    sendsCompleted record = (Event.sends record).length := by
  induction record with
  | nil => rfl
  | cons event rest ih =>
      rw [sendsCompleted, List.countP_cons, ← sendsCompleted, ih]
      cases event with
      | callback fired => cases fired <;> rfl
      | _ => rfl

/-- Where opens complete under one ticket only, those are all that complete. -/
theorem opensCompleted_eq {record : List Event} (owner : Ticket)
    (alone : ∀ ticket, ticket ≠ owner → Event.opened ticket record = []) :
    opensCompleted record = (Event.opened owner record).length := by
  induction record with
  | nil => rfl
  | cons event rest ih =>
      have split (ticket : Ticket) : Event.opened ticket (event :: rest) =
          Event.opened ticket [event] ++ Event.opened ticket rest :=
        Event.opened_append ticket [event] rest
      have later := ih fun ticket other =>
        (List.append_eq_nil_iff.mp ((split ticket).symm.trans (alone ticket other))).2
      rw [opensCompleted, List.countP_cons, ← opensCompleted, later, split owner,
        List.length_append, Nat.add_comm]
      congr 1
      cases event with
      | callback fired =>
          cases fired with
          | opened ticket result =>
              by_cases same : ticket = owner
              · simp [Event.opened, Callback.opened?, same]
              · have none := alone ticket same
                simp [Event.opened, Callback.opened?] at none
          | _ => rfl
      | _ => rfl

end Exercise

namespace Rig

variable {rig : Rig} {config : Config} {calls : List (Entry Network.platform)}

theorem Traces.faultless (traces : rig.Traces config calls) :
    Exercise.faults rig.record.toList = [] := by
  apply Exercise.faults_eq_nil
  rw [traces.record]
  exact traces.linked.faultless

theorem Traces.opensCompleted {opens : Nat} (traces : rig.Traces config calls)
    (idle : rig.status = .notOpen)
    (asked : ∀ ticket, Entry.opensAsked ticket calls = if ticket = plainTicket then opens else 0) :
    Exercise.opensCompleted rig.record.toList = opens := by
  have fresh : (Connection.idle config : Connection Network.platform).Sound :=
    Connection.sound_idle config
  have fired (ticket : Ticket) : (Event.opened ticket rig.record.toList).length =
      if ticket = plainTicket then opens else 0 := by
    have balance := traces.linked.balance fresh ticket
    rw [traces.sound.not_owes_of_idle idle, fresh.not_owes_of_idle rfl, asked] at balance
    rw [traces.record]
    exact balance
  rw [Exercise.opensCompleted_eq plainTicket, fired, if_pos rfl]
  intro ticket other
  apply List.eq_nil_of_length_eq_zero
  rw [fired, if_neg other]

theorem Traces.sendsCompleted (traces : rig.Traces config calls)
    (emptied : rig.connection.outbox.messages = []) :
    Exercise.sendsCompleted rig.record.toList = rig.sends := by
  have all := traces.linked.all_completed rfl emptied
  rw [traces.numbered] at all
  rw [Exercise.sendsCompleted_eq, traces.record]
  exact (congrArg List.length all).trans List.length_range

end Rig

namespace Exercise

/-- The promises that are looked at after the last close. -/
structure Kept (opens : Nat) (rig : Rig) : Prop where
  closed : rig.status = .notOpen
  opens : opensCompleted rig.record.toList = opens
  sends : sendsCompleted rig.record.toList = rig.sends
  released : rig.network.tally.allReleased = true
  faultless : faults rig.record.toList = []
  /-- The drop breaks no rule either. -/
  dropped : faults rig.drop.record.toList = []

theorem kept_close {rig : Rig} {calls : List (Entry Network.platform)} {opens : Nat}
    (traces : rig.Traces config calls) (booked : rig.Booked ⟨{}, []⟩)
    (asked : ∀ ticket,
      Entry.opensAsked ticket calls = if ticket = Rig.plainTicket then opens else 0) :
    Kept opens rig.close.2 := by
  have step := Connection.carryOut_step traces.sound rig.clock.now (.close Rig.plainTicket)
    rig.network
  have idle : rig.close.2.status = .notOpen := step.closed
  have emptied : rig.close.2.connection.outbox.messages = [] :=
    step.emptied traces.sound (.inl ⟨_, rfl⟩)
  obtain ⟨more, moves⟩ := rig.act_moves .close
  have after : rig.close.2.Traces config (calls ++ more) := moves.traces traces
  have balance := after.balanced (booked.request (.close Rig.plainTicket))
  refine ⟨idle, after.opensCompleted idle ?_, after.sendsCompleted emptied, ?_, after.faultless,
    after.drop.faultless⟩
  · intro ticket
    have unasked : Entry.opensAsked ticket more = 0 :=
      (moves.opensAsked ticket).trans (ite_self 0)
    rw [Entry.opensAsked, List.countP_append, ← Entry.opensAsked, ← Entry.opensAsked, asked,
      unasked, Nat.add_zero]
  · rw [balance.allReleased_iff, idle]
    rfl

theorem settle_eq (course : Course) (kept : Kept course.opens course.rig.close.2) :
    settle course = .ok course.rig.close.2 := by
  simp [settle, kept.faultless, kept.closed, kept.opens, kept.sends, kept.released]

theorem sum_opens (operations : List UInt8) :
    ((operations.map deed).map Rig.Deed.opens).sum =
      operations.countP fun byte => byte.toNat % 16 = 0 := by
  induction operations with
  | nil => rfl
  | cons byte rest ih =>
      rw [List.map_cons, List.map_cons, List.sum_cons, ih, opens_deed, List.countP_cons,
        Nat.add_comm]
      simp only [decide_eq_true_eq]

/-- However many bytes there can be, the clock has room for their strides. -/
theorem strides_fit : 2 ^ 63 * stride ≤ Duration.longest := by
  decide

variable {start : Rig}

theorem operateAll_created {network : Network}
    (created : Rig.create "client" config network = .ok start) (operations : List UInt8)
    (short : operations.length ≤ 2 ^ 63) :
    operateAll operations ⟨start, 0⟩ = .ok ⟨start.actAll (operations.map deed),
      operations.countP fun byte => byte.toNat % 16 = 0⟩ := by
  have room : start.clock.now + operations.length * stride ≤ Duration.longest := by
    rw [Rig.create_eq created]
    change 0 + _ ≤ _
    rw [Nat.zero_add]
    exact Nat.le_trans (Nat.mul_le_mul_right stride short) strides_fit
  rw [operateAll_eq operations ⟨start, 0⟩ room, sum_opens, Nat.zero_add]

/-- What a byte does in the midst of others: a poll leaves an idle connection idle. -/
theorem operate_created {network : Network}
    (created : Rig.create "client" config network = .ok start) {before after : List UInt8}
    {byte : UInt8} (short : (before ++ byte :: after).length ≤ 2 ^ 63) :
    ∃ halfway next, operateAll before ⟨start, 0⟩ = .ok halfway ∧
      operate halfway byte = .ok next ∧
      (9 ≤ byte.toNat % 16 → halfway.rig.status = .notOpen ∨ halfway.rig.status = .failed →
        next.rig.status = halfway.rig.status) := by
  rw [List.length_append, List.length_cons] at short
  have sofar := operateAll_created created before (by omega)
  have further := operateAll_created created (before ++ [byte]) (by
    rw [List.length_append, List.length_singleton]
    omega)
  rw [operateAll_concat, sofar] at further
  refine ⟨_, _, sofar, further, ?_⟩
  intro polls still
  rw [List.map_append, Rig.actAll_append, List.map_singleton, deed_of_poll polls]
  exact Rig.poll_still still

theorem kept_created {draws : Draws} {memory : Nat → Bool} {setup : List Network.Command}
    (created :
      Rig.create "client" config ((Network.fresh draws memory).commands setup) = .ok start)
    (operations : List UInt8) :
    Kept (operations.countP fun byte => byte.toNat % 16 = 0)
      (start.actAll (operations.map deed)).close.2 := by
  obtain ⟨calls, traces, asked⟩ :=
    Rig.actAll_opensAsked (Rig.traces_create created) (operations.map deed)
  rw [sum_opens] at asked
  exact kept_close traces ((Rig.booked_setup created).actAll _) asked

theorem run_eq {seed : UInt8} {operations : List UInt8} {course : Course} {closed : Rig}
    (created : Rig.create "client" config
      ((Network.ofSeed seed.toUInt64).commands (delays seed)) = .ok start)
    (all : operateAll operations ⟨start, 0⟩ = .ok course) (settled : settle course = .ok closed) :
    run (seed :: operations) = .ok closed.drop.logged := by
  simp only [run, created, all, settled]
  rfl

end Exercise

open Exercise

/-- However the bytes fall, the exercise ends without a broken promise: the client can be made,
every byte is carried out, a poll moves no connection that is not open or has failed, and after the
last close the connection is not open, as many opens have completed as were asked for and as many
sends as were accepted, every resource is back and no rule was broken. -/
theorem exercise_keeps_promises (data : List UInt8) (short : data.length < 2 ^ 63) :
    ∃ log, run data = .ok log ∧ ∀ seed operations, data = seed :: operations →
      ∃ start course,
        Rig.create "client" config
          ((Network.ofSeed seed.toUInt64).commands (delays seed)) = .ok start ∧
        operateAll operations ⟨start, 0⟩ = .ok course ∧
        (∀ before byte after, operations = before ++ byte :: after →
          ∃ halfway next, operateAll before ⟨start, 0⟩ = .ok halfway ∧
            operate halfway byte = .ok next ∧
            (9 ≤ byte.toNat % 16 →
              halfway.rig.status = .notOpen ∨ halfway.rig.status = .failed →
                next.rig.status = halfway.rig.status)) ∧
        course.opens = operations.countP (fun byte => byte.toNat % 16 = 0) ∧
        Kept course.opens course.rig.close.2 ∧
        settle course = .ok course.rig.close.2 ∧
        log = course.rig.close.2.drop.logged := by
  cases data with
  | nil =>
      refine ⟨[], rfl, ?_⟩
      intro seed operations empty
      cases empty
  | cons seed operations =>
      have within : operations.length ≤ 2 ^ 63 := Nat.le_of_lt (Nat.lt_of_succ_lt short)
      obtain ⟨start, created⟩ : ∃ start, Rig.create "client" config
          ((Network.ofSeed seed.toUInt64).commands (delays seed)) = .ok start :=
        ⟨_, Rig.create_ok rfl _ _ rfl⟩
      have all := operateAll_created created operations within
      have kept := kept_created created operations
      have settled := settle_eq ⟨start.actAll (operations.map deed), _⟩ kept
      refine ⟨_, run_eq created all settled, ?_⟩
      rintro _ _ ⟨rfl, rfl⟩
      refine ⟨start, _, created, all, ?_, rfl, kept, settled, rfl⟩
      rintro before byte after rfl
      exact operate_created created within

/-- A client opened, polled until it is open and sent two messages. One has been written when the
last close comes, the other is called off by it. -/
theorem exercise_keeps_promises_open_send :
    let operations : List UInt8 := [0, 9, 9, 9, 18, 9, 18]
    (0 :: operations).length < 2 ^ 63 ∧
      ∃ start course,
        Rig.create "client" config
          ((Network.ofSeed (0 : UInt8).toUInt64).commands (delays 0)) = .ok start ∧
        operateAll operations ⟨start, 0⟩ = .ok course ∧
        course.rig.status = .opened ∧
        course.rig.peerReceived = List.replicate 7 18 ∧
        course.rig.connection.pendingSends = 1 ∧
        let closed := course.rig.close.2
        closed.status = .notOpen ∧
          opensCompleted closed.record.toList = 1 ∧
          sendsCompleted closed.record.toList = 2 ∧
          Event.settled closed.record.toList = [(0, .ok), (1, .cancelled)] ∧
          closed.network.tally.allReleased = true ∧
          run (0 :: operations) = .ok closed.drop.logged := by
  intro operations
  have short : (0 :: operations).length < 2 ^ 63 := by decide
  obtain ⟨log, ran, promises⟩ := exercise_keeps_promises (0 :: operations) short
  obtain ⟨start, course, created, all, -, -, kept, -, rfl⟩ := promises 0 operations rfl
  obtain rfl := Rig.create_eq created
  have reached := operateAll_created created operations (Nat.le_of_lt (Nat.lt_of_succ_lt short))
  obtain rfl := Except.ok.inj (all.symm.trans reached)
  exact ⟨short, _, _, created, all, by decide +kernel, by decide +kernel, by decide +kernel,
    kept.closed, kept.opens, kept.sends.trans (by decide +kernel), by decide +kernel,
    kept.released, ran⟩

end Sim
end PolledTls
