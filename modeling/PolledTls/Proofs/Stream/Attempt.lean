import PolledTls.Proofs.Attempt
import PolledTls.Proofs.Sim.Rig
import PolledTls.Proofs.Stream.Step
import PolledTls.Scripted

/-!
The stream of one attempt. An attempt begins with nothing waiting and ends so, and all that is
written is written in one; its session is therefore offered the messages of the attempt and no
others, each from where the one before it was left.
-/
namespace PolledTls

variable {P : Platform}

namespace Connection

variable {c left last : Connection P} {now : Instant} {es : List Event} {request : Option Request}
  {result : Except Error Unit} {calls : List (Entry P)}

theorem Step.owned_of_write {offered : List UInt8} {answer : Except IoError Nat}
    (h : c.Step now request result es left) (sound : c.Sound)
    (wrote : .call (.write offered answer) ∈ es) :
    ∃ ticket, c.listener.map (·.ticket) = some ticket := by
  cases h with
  | opens owner opened => exact ⟨_, by rw [owner]; rfl⟩
  | transfers owner phase transferred => exact ⟨_, by rw [owner]; rfl⟩
  | closes live | abandons live =>
      obtain ⟨ticket, owner⟩ := sound.listener live
      exact ⟨ticket, by rw [owner]; rfl⟩
  | _ => simp at wrote

theorem Linked.attempt_stream (h : Linked c calls last) (sound : c.Sound)
    (attempt : Entry.Attempt calls) :
    Event.taken (Entry.eventsOf calls) = (List.range (Entry.messages calls).length).flatMap
        (Event.share · (Entry.eventsOf calls)) ∧
      ∀ i message, (Entry.messages calls)[i]? = some message →
        ∃ result, (Event.completions (Entry.eventsOf calls))[i]? = some result ∧
          Fits message (Event.share i (Entry.eventsOf calls)) result := by
  obtain ⟨empty, emptied⟩ := h.idle_of_attempt sound attempt
  have flow : Flow ([] ++ Entry.messages calls) ([] ++ Entry.eventsOf calls) last.outbox :=
    h.flow sound (.start empty)
  rw [List.nil_append, List.nil_append] at flow
  have all := flow.completed emptied
  constructor
  · rw [Event.taken_eq_share (Nat.lt_succ_self _), List.range_succ, List.flatMap_append,
      List.flatMap_singleton, flow.unbegun emptied, List.append_nil, all]
  · intro i message there
    have within := (List.getElem?_eq_some_iff.mp there).1
    rw [← all] at within
    have completed := List.getElem?_eq_getElem within
    obtain ⟨found, same, fits⟩ := flow.settled i _ completed
    rw [there] at same
    cases same
    exact ⟨_, completed, fits⟩

/-- Every event of an attempt follows on those before it. -/
theorem Linked.attempt_next {before after : List (Entry P)} {e : Entry P}
    {earlier rest : List Event} {event : Event} (h : Linked c (before ++ e :: after) last)
    (sound : c.Sound) (attempt : Entry.Attempt (before ++ e :: after))
    (cut : e.events = earlier ++ event :: rest) :
    Next (Entry.messages before) (Entry.eventsOf before ++ earlier) event := by
  have empty := (h.idle_of_attempt sound attempt).1
  obtain ⟨sofar, step, -⟩ := h.at_
  have flow : Flow ([] ++ Entry.messages before) ([] ++ Entry.eventsOf before) _ :=
    sofar.flow sound (.start empty)
  have follows := (step.flow (sofar.sound sound) flow).1
  exact follows_iff.mp follows earlier event rest cut

/-- A write in a history is made in an attempt. -/
theorem attempt_of_write {c : Connection P} {s : P.State} {turns : List (Turn P)}
    {past later : List (Entry P)} {e : Entry P} {offered : List UInt8}
    {answer : Except IoError Nat} (idle : c.listener = none)
    (whole : c.history s turns = past ++ e :: later)
    (linked : Linked c (past ++ e :: later) last) (sound : c.Sound)
    (wrote : .call (.write offered answer) ∈ e.events) :
    ∃ earlier before after rest, past = earlier ++ before ∧ later = after ++ rest ∧
      Entry.Attempt (before ++ e :: after) := by
  obtain ⟨before, step, -⟩ := linked.at_
  obtain ⟨ticket, owned⟩ := step.owned_of_write (before.sound sound) wrote
  exact attempt_of_owned idle whole linked sound owned

end Connection

open Sim (Rig Network)

/-- In every attempt of a history the bytes accepted are those of its messages in order, of each a
prefix that fits its completion; each write offers what is left of the oldest message that has not
completed, and each timeout reports it. All writes are made in attempts, so no message is offered
in another than its own. On a simulated network what was accepted is what the peer has got. -/
theorem messages_stream_in_order :
    (∀ (P : Platform) (config : Config) (s : P.State) (turns : List (Turn P)),
      let calls := (Connection.idle config : Connection P).history s turns
      (∀ past attempt later, calls = past ++ attempt ++ later → Entry.Attempt attempt →
        let sent := Entry.messages attempt
        let record := Entry.eventsOf attempt
        Event.taken record = (List.range sent.length).flatMap (Event.share · record) ∧
        (∀ i message, sent[i]? = some message → ∃ result,
          (Event.completions record)[i]? = some result ∧
            Fits message (Event.share i record) result) ∧
        ∀ before e after, attempt = before ++ e :: after →
          ∀ earlier event rest, e.events = earlier ++ event :: rest →
            Next (Entry.messages before) (Entry.eventsOf before ++ earlier) event ∧
            ∀ i, Event.share i (Entry.eventsOf before ++ earlier) ≠ [] →
              i ≤ (Event.completions (Entry.eventsOf before ++ earlier)).length) ∧
      ∀ past (e : Entry P) later offered answer, calls = past ++ e :: later →
        .call (.write offered answer) ∈ e.events →
          ∃ earlier before after rest, past = earlier ++ before ∧ later = after ++ rest ∧
            Entry.Attempt (before ++ e :: after)) ∧
    ∀ (name : String) (config : Config) (network : Network) (rig : Rig) (deeds : List Rig.Deed),
      Rig.create name config network = .ok rig →
        (rig.actAll deeds).network.written.toList =
          network.written.toList ++ Event.taken (rig.actAll deeds).record.toList := by
  constructor
  · intro P config s turns calls
    have fresh : (Connection.idle config : Connection P).Sound := Connection.sound_idle config
    obtain ⟨last, linked, -⟩ := Connection.history_linked fresh s turns
    constructor
    · intro past attempt later split whole sent record
      have linked : Connection.Linked (.idle config) (past ++ attempt ++ later) last :=
        split ▸ linked
      obtain ⟨stop, linked, -⟩ := linked.split
      obtain ⟨start, before, within⟩ := linked.split
      have sound := before.sound fresh
      obtain ⟨all, each⟩ := within.attempt_stream sound whole
      refine ⟨all, each, ?_⟩
      intro before e after parts earlier event rest cut
      have within : Connection.Linked start (before ++ e :: after) stop := parts ▸ within
      exact ⟨within.attempt_next sound (parts ▸ whole) cut,
        fun i some => Event.le_completions_of_share some⟩
    · intro past e later offered answer split wrote
      have linked : Connection.Linked (.idle config) (past ++ e :: later) last := split ▸ linked
      exact Connection.attempt_of_write rfl split linked fresh wrote
  · intro name config network rig deeds created
    exact ((Rig.booked_create created).actAll deeds).written

/-- A message that takes two writes, and one of which a single byte is written before the close. On
a simulated network the peer has what was sent. -/
theorem messages_stream_in_order_pieces :
    let config : Config := { host := "h", port := 1 }
    let s : Script := { write := [.count 2, .count 1, .count 1] }
    let turns : List (Turn Script.platform) :=
      [⟨id, 0, .start 1⟩, ⟨id, 0, .poll⟩, ⟨id, 0, .poll⟩, ⟨id, 0, .poll⟩,
        ⟨id, 0, .send [5, 6, 7] 2⟩, ⟨id, 0, .send [8, 9] 3⟩, ⟨id, 0, .poll⟩, ⟨id, 0, .poll⟩,
        ⟨id, 0, .poll⟩, ⟨id, 0, .close 4⟩]
    let calls := (Connection.idle config : Connection Script.platform).history s turns
    let attempt := calls.take 10
    let record := Entry.eventsOf attempt
    calls = [] ++ attempt ++ calls.drop 10 ∧ Entry.Attempt attempt ∧
      Event.completions record = [.ok, .cancelled] ∧
      Event.taken record = [5, 6, 7] ++ [8] ∧
      Fits [5, 6, 7] [5, 6, 7] .ok ∧ Fits [8, 9] [8] .cancelled ∧
      ∃ rig, Rig.create "client" config (Network.ofSeed 0) = .ok rig ∧
        (rig.actAll [.start, .poll, .poll, .poll, .send [1, 2], .poll]).network.written.toList =
          [1, 2] := by
  intro config s turns calls attempt record
  obtain ⟨ordered, -⟩ := messages_stream_in_order.1 Script.platform config s turns
  have split : calls = [] ++ attempt ++ calls.drop 10 := rfl
  have whole : Entry.Attempt attempt := by decide +kernel
  obtain ⟨taken, fits, -⟩ := ordered _ _ _ split whole
  have results : Event.completions record = [.ok, .cancelled] := by decide +kernel
  have first : Event.share 0 record = [5, 6, 7] := by decide +kernel
  have second : Event.share 1 record = [8] := by decide +kernel
  have messages : Entry.messages attempt = [[5, 6, 7], [8, 9]] := by decide +kernel
  obtain ⟨_, finished, ok⟩ := fits 0 [5, 6, 7] (congrArg (·[0]?) messages)
  obtain ⟨_, closed, cancelled⟩ := fits 1 [8, 9] (congrArg (·[1]?) messages)
  obtain rfl := Option.some.inj (finished.symm.trans (congrArg (·[0]?) results))
  obtain rfl := Option.some.inj (closed.symm.trans (congrArg (·[1]?) results))
  rw [first] at ok
  rw [second] at cancelled
  refine ⟨split, whole, results, taken.trans (by decide +kernel), ok, cancelled, ?_⟩
  have checked : Config.check { host := "h", port := 1 } = .ok () := rfl
  have created := Rig.create_ok checked "client" (Network.ofSeed 0) rfl
  refine ⟨_, created, ?_⟩
  rw [messages_stream_in_order.2 _ _ _ _ _ created]
  decide +kernel

end PolledTls
