import PolledTls.Proofs.Punctual
import PolledTls.Proofs.Sim.Inbound
import PolledTls.Proofs.Sim.Pacing

/-!
How bytes are cut on a simulated network is invisible. Two rigs that are put through the same, but
for the pace of the network and the size of the read buffer, answer the same and go through the same
states; what either has handed out or written is the beginning of what the other has, or the other
way round.
-/
namespace PolledTls

variable {P : Platform}

namespace Entry

/-- What was asked and what was answered. -/
def exchange (e : Entry P) : Option Connection.Request × Except Error Unit :=
  (e.request, e.result)

variable {e other : Entry P} {calls others : List (Entry P)} {α : Type}

theorem begins_of_exchange (same : other.exchange = e.exchange) : other.begins = e.begins := by
  obtain ⟨request, result⟩ := Prod.mk.inj same
  rw [begins, request, result]
  rfl

theorem ends_of_exchange (same : other.exchange = e.exchange) : other.ends = e.ends := by
  obtain ⟨request, result⟩ := Prod.mk.inj same
  rw [ends, request, result]
  rfl

theorem message_of_exchange (same : other.exchange = e.exchange) : other.message = e.message := by
  obtain ⟨request, result⟩ := Prod.mk.inj same
  rw [message, request, result]
  rfl

theorem accepted_of_exchange (same : other.exchange = e.exchange) :
    other.accepted = e.accepted := by
  obtain ⟨request, result⟩ := Prod.mk.inj same
  rw [accepted, request, result]
  rfl

theorem map_of_exchange {read : Entry P → α} (reads : ∀ {e other}, exchange other = exchange e →
    read other = read e) (same : others.map exchange = calls.map exchange) :
    others.map read = calls.map read := by
  induction calls generalizing others with
  | nil => rw [List.map_eq_nil_iff.mp same]
  | cons e rest ih =>
      obtain ⟨other, more, rfl, first, later⟩ := List.map_eq_cons_iff.mp same
      rw [List.map_cons, List.map_cons, reads first, ih later]

theorem messages_of_exchange (same : others.map exchange = calls.map exchange) :
    messages others = messages calls := by
  rw [messages, messages, List.flatMap_def, List.flatMap_def,
    map_of_exchange message_of_exchange same]

theorem acceptedBy_of_exchange (same : others.map exchange = calls.map exchange) :
    acceptedBy others = acceptedBy calls := by
  rw [acceptedBy, acceptedBy, List.flatMap_def, List.flatMap_def,
    map_of_exchange accepted_of_exchange same]

theorem goesOn_of_exchange (same : others.map exchange = calls.map exchange)
    (goesOn : ∀ e ∈ calls, e.ends = false) : ∀ e ∈ others, e.ends = false := by
  intro e member
  have there := List.mem_map_of_mem (f := ends) member
  rw [map_of_exchange ends_of_exchange same] at there
  obtain ⟨first, found, ends⟩ := List.mem_map.mp there
  rw [← ends, goesOn first found]

/-- Calls that are asked and answered the same are an attempt, or the beginning of one, alike. -/
theorem Begun.of_exchange (begun : Begun calls) (same : others.map exchange = calls.map exchange) :
    Begun others := by
  cases begun with
  | ongoing begins goesOn =>
      obtain ⟨first, work, rfl, here, later⟩ := List.map_eq_cons_iff.mp same
      exact .ongoing ((begins_of_exchange here).trans begins) (goesOn_of_exchange later goesOn)
  | ended whole =>
      obtain ⟨begins, goesOn, ends⟩ := whole
      obtain ⟨first, rest, rfl, here, later⟩ := List.map_eq_cons_iff.mp same
      rw [List.map_append] at later
      obtain ⟨work, tail, rfl, middle, last⟩ := List.map_eq_append_iff.mp later
      obtain ⟨final, none, rfl, final_eq, nothing⟩ := List.map_eq_cons_iff.mp last
      obtain rfl := List.map_eq_nil_iff.mp nothing
      exact .ended (.mk ((begins_of_exchange here).trans begins) (goesOn_of_exchange middle goesOn)
        ((ends_of_exchange final_eq).trans ends))

end Entry

namespace Sim

open Network (pacelessOf)

namespace Rig

/-- What a deed answers: a call its result, a send also its number, a move of the clock whether it
could be made. -/
inductive Answer where
  | result (result : Except Error Unit)
  | number (result : Except Error Ticket)
  | moved (went : Bool)
  | nothing

def answer (rig : Rig) : Deed → Answer
  | .start => .result rig.start.1
  | .close => .result rig.close.1
  | .send bytes => .number (rig.send bytes).1
  | .setOption name value => .result (rig.request (.setOption name value)).1
  | .advance step => .moved (rig.advance? step).isSome
  | .poll | .commands _ => .nothing

/-- The answer of every deed and the status after it. -/
def answers (rig : Rig) : List Deed → List (Answer × Status)
  | [] => []
  | deed :: rest => (rig.answer deed, (rig.act deed).status) :: (rig.act deed).answers rest

namespace Deed

/-- The deed without its commands that are about the pace. -/
def unpaced : Deed → Deed
  | .commands list => .commands (pacelessOf list)
  | deed => deed

def injects : Deed → Bool
  | .commands list => list.any Network.Command.injects
  | _ => false

/-- Deeds that agree but for the pace are the same, or commands that agree but for it. -/
theorem unpaced_eq {deed other : Deed} (same : other.unpaced = deed.unpaced) :
    other = deed ∨ ∃ list others, deed = .commands list ∧ other = .commands others ∧
      pacelessOf others = pacelessOf list := by
  cases deed with
  | commands list =>
      cases other with
      | commands others => exact .inr ⟨list, others, rfl, rfl, Deed.commands.inj same⟩
      | _ => cases same
  | _ =>
      cases other with
      | commands others => cases same
      | _ => exact .inl same

theorem injects_unpaced (deed : Deed) : deed.unpaced.injects = deed.injects := by
  cases deed with
  | commands list =>
      have apart (command : Network.Command) :
          (!command.paces && command.injects) = command.injects := by
        cases command <;> rfl
      refine List.any_filter.trans ?_
      exact congrArg (list.any ·) (funext apart)
  | _ => rfl

theorem clean_of_unpaced {deeds others : List Deed}
    (same : others.map unpaced = deeds.map unpaced) (clean : ∀ deed ∈ deeds, deed.injects = false) :
    ∀ deed ∈ others, deed.injects = false := by
  intro deed member
  have there := List.mem_map_of_mem (f := unpaced) member
  rw [same] at there
  obtain ⟨first, found, agree⟩ := List.mem_map.mp there
  rw [← injects_unpaced, ← agree, injects_unpaced, clean first found]

end Deed

/-- Rigs whose connections differ in their buffers and queues at most, and whose networks differ in
their pace at most. -/
structure Alike (rig other : Rig) : Prop where
  connection : rig.connection.Akin other.connection
  network : rig.network.Alike other.network
  clock : other.clock = rig.clock
  sends : other.sends = rig.sends

variable {rig other after : Rig} {config : Config} {deed deed' : Deed} {deeds deeds' : List Deed}
  {past more : List (Entry Network.platform)}

theorem Alike.itself (h : rig.Alike other) : rig.Alike rig :=
  ⟨.refl _, h.network.trans h.network.symm, rfl, rfl⟩

theorem Alike.flip (h : rig.Alike other) : other.Alike rig :=
  ⟨h.connection.symm, h.network.symm, h.clock.symm, h.sends.symm⟩

theorem Alike.status_eq (h : rig.Alike other) : other.status = rig.status :=
  h.connection.status_eq

theorem Alike.request (h : rig.Alike other) (request : Connection.Request) :
    (other.request request).1 = (rig.request request).1 ∧
      (rig.request request).2.Alike (other.request request).2 := by
  obtain ⟨⟨result, connection⟩, network⟩ :=
    Network.blind.carryOut h.connection rig.clock.now request _ _ h.network
  rw [Rig.request, Rig.request, h.clock]
  exact ⟨result.symm, connection, network, rfl, h.sends⟩

theorem Alike.send (h : rig.Alike other) (bytes : List UInt8) :
    (other.send bytes).1 = (rig.send bytes).1 ∧ (rig.send bytes).2.Alike (other.send bytes).2 := by
  obtain ⟨result, later⟩ := h.request (.send bytes rig.sends)
  rw [Rig.send, Rig.send, h.sends]
  generalize rig.request (.send bytes rig.sends) = here at result later
  generalize other.request (.send bytes rig.sends) = there at result later
  obtain ⟨answered, here⟩ := here
  obtain ⟨_, there⟩ := there
  cases result
  cases answered with
  | error e => exact ⟨rfl, later⟩
  | ok => exact ⟨rfl, later.connection, later.network, later.clock, rfl⟩

/-- Deeds that agree but for the pace are answered the same and leave such rigs. -/
theorem Alike.act (h : rig.Alike other) (same : deed'.unpaced = deed.unpaced)
    (clean : deed.injects = false) :
    other.answer deed' = rig.answer deed ∧ (rig.act deed).Alike (other.act deed') := by
  rcases Deed.unpaced_eq same with rfl | ⟨list, others, rfl, rfl, agree⟩
  · cases deed' with
    | start =>
        obtain ⟨result, later⟩ := h.request (.start plainTicket)
        exact ⟨congrArg Answer.result result, later⟩
    | close =>
        obtain ⟨result, later⟩ := h.request (.close plainTicket)
        exact ⟨congrArg Answer.result result, later⟩
    | send bytes =>
        obtain ⟨result, later⟩ := h.send bytes
        exact ⟨congrArg Answer.number result, later⟩
    | poll => exact ⟨rfl, (h.request .poll).2⟩
    | setOption name value =>
        obtain ⟨result, later⟩ := h.request (.setOption name value)
        exact ⟨congrArg Answer.result result, later⟩
    | advance step =>
        rw [answer, answer, Rig.act, Rig.act, advance?, advance?, h.clock]
        cases rig.clock.advance? step with
        | none => exact ⟨rfl, h⟩
        | some clock => exact ⟨rfl, h.connection, h.network, rfl, h.sends⟩
    | commands list => exact ⟨rfl, h.connection, h.network.commands rfl clean, h.clock, h.sends⟩
  · exact ⟨rfl, h.connection, h.network.commands agree clean, h.clock, h.sends⟩

theorem Alike.actAll (h : rig.Alike other) (same : deeds'.map Deed.unpaced = deeds.map Deed.unpaced)
    (clean : ∀ deed ∈ deeds, deed.injects = false) :
    other.answers deeds' = rig.answers deeds ∧
      (other.calls deeds').map Entry.exchange = (rig.calls deeds).map Entry.exchange := by
  induction deeds generalizing rig other deeds' with
  | nil =>
      rw [List.map_eq_nil_iff.mp same]
      exact ⟨rfl, rfl⟩
  | cons deed rest ih =>
      obtain ⟨deed', more, rfl, first, later⟩ := List.map_eq_cons_iff.mp same
      obtain ⟨unfailing, others⟩ := List.forall_mem_cons.mp clean
      obtain ⟨answer, alike⟩ := h.act first unfailing
      obtain ⟨answers, calls⟩ := ih alike later others
      have request : deed'.request? other.sends = deed.request? rig.sends := by
        rw [h.sends]
        rcases Deed.unpaced_eq first with rfl | ⟨list, others, rfl, rfl, -⟩ <;> rfl
      constructor
      · rw [Rig.answers, Rig.answers, answer, alike.status_eq, answers]
      · rw [Rig.calls, Rig.calls, List.map_append, List.map_append, calls, request]
        congr 1
        cases deed.request? rig.sends with
        | none => rfl
        | some request =>
            exact congrArg (fun result => [(some request, result)]) (h.request request).1

theorem steady_entry (calm : rig.network.Alike rig.network) (sound : rig.connection.Sound)
    (request : Connection.Request) : (rig.entry request).Steady := by
  refine (Connection.carryOut_step sound rig.clock.now request rig.network).steady ?_
  intro polls opened
  obtain rfl := Option.some.inj polls
  cases phase : rig.connection.phase with
  | opened channel =>
      have polled : rig.connection.Akin (rig.connection.poll rig.clock.now rig.network).value :=
        (Network.blind.poll_opened (.refl _) phase rig.network calm).1
      exact polled.status_eq.trans opened
  | _ =>
      rw [Connection.status, phase] at opened
      cases opened

theorem steady_calls (h : rig.Alike rig) (traces : rig.Traces config past)
    (clean : ∀ deed ∈ deeds, deed.injects = false) : ∀ e ∈ rig.calls deeds, e.Steady := by
  induction deeds generalizing rig past with
  | nil => simp [calls]
  | cons deed rest ih =>
      obtain ⟨unfailing, others⟩ := List.forall_mem_cons.mp clean
      obtain ⟨more, moves⟩ := rig.act_moves deed
      rw [calls, List.forall_mem_append]
      constructor
      · intro e member
        obtain ⟨request, -, rfl⟩ := List.mem_map.mp member
        exact steady_entry h.network traces.sound request
      · exact ih (h.act rfl unfailing).2 (moves.traces traces) others

/-- What an attempt of a rig has written is the beginning of its messages, and its sends that
succeeded are the first it accepted. -/
theorem prefixes_of_calls {name : String} {network : Network}
    {attempt later : List (Entry Network.platform)} (created : create name config network = .ok rig)
    (h : rig.Alike rig) (clean : ∀ deed ∈ deeds, deed.injects = false)
    (split : rig.calls deeds = past ++ attempt ++ later) (begun : Entry.Begun attempt)
    (punctual : Event.sendTimeouts (Entry.eventsOf attempt) = []) :
    Event.taken (Entry.eventsOf attempt) <+: (Entry.messages attempt).flatten ∧
      Event.succeeded (Entry.eventsOf attempt) <+: Entry.acceptedBy attempt := by
  have start := traces_create created
  have linked : Connection.Linked (.idle config) (rig.calls deeds) _ := (start.actAll deeds).linked
  have steady := steady_calls h start clean
  rw [split] at linked steady
  obtain ⟨_, linked, -⟩ := linked.split
  obtain ⟨_, before, within⟩ := linked.split
  refine within.prefixes_of_begun (before.sound (Connection.sound_idle config)) begun ?_ punctual
  intro e member
  exact steady e (List.mem_append_left _ (List.mem_append_right _ member))

end Rig

/-! What was delivered does not depend on the pace. -/

theorem Network.Command.delivered_of_paces (command : Network.Command)
    (paces : command.paces = true) : command.delivered = [] := by
  cases command with
  | deliver bytes => cases paces
  | _ => rfl

theorem Network.delivered_pacelessOf (list : List Network.Command) :
    (pacelessOf list).flatMap Network.Command.delivered =
      list.flatMap Network.Command.delivered := by
  induction list with
  | nil => rfl
  | cons command rest ih =>
      rw [pacelessOf, List.filter_cons, List.flatMap_cons]
      cases paces : command.paces with
      | false => exact congrArg (command.delivered ++ ·) ih
      | true => exact ih.trans (congrArg (· ++ _) (command.delivered_of_paces paces).symm)

theorem Rig.Deed.delivered_unpaced (deed : Rig.Deed) : deed.unpaced.delivered = deed.delivered := by
  cases deed with
  | commands list => exact Network.delivered_pacelessOf list
  | _ => rfl

theorem Rig.Deed.delivered_of_unpaced {deeds deeds' : List Rig.Deed}
    (same : deeds'.map Rig.Deed.unpaced = deeds.map Rig.Deed.unpaced) :
    deeds'.flatMap Rig.Deed.delivered = deeds.flatMap Rig.Deed.delivered := by
  have whole (list : List Rig.Deed) :
      (list.map Rig.Deed.unpaced).flatMap Rig.Deed.delivered = list.flatMap Rig.Deed.delivered := by
    rw [List.flatMap_map]
    exact congrArg (list.flatMap ·) (funext Rig.Deed.delivered_unpaced)
  rw [← whole deeds, ← same, whole]

/-- What a rig has written are the bytes its calls had accepted. -/
theorem Rig.written_calls {name : String} {config : Config} {draws : Draws}
    {memory : Nat → Bool} {setup : List Network.Command} {rig : Rig}
    (created : create name config ((Network.fresh draws memory).commands setup) = .ok rig)
    (deeds : List Rig.Deed) : (rig.actAll deeds).network.written.toList =
      Event.taken (Entry.eventsOf (rig.calls deeds)) := by
  have booked := ((booked_create created).actAll deeds).written
  rw [((traces_create created).actAll deeds).record, Network.books_setup] at booked
  exact booked

/-- Two clients of one configuration but for the size of the read buffer, on networks of one memory,
and of one script but for the choices drawn and the rules for reads and writes, without injected
faults, are put through the same. Every deed is answered the same and leaves the same status;
whenever it is looked at, what one client was handed is the beginning of what the other was. In an
attempt, as far as it has come, in which no send times out in either run, what one client has
written is the beginning of what the other has, and so it is with the sends that succeeded. -/
theorem chunking_invisible (name name' : String) (config : Config) (size : Nat)
    (draws draws' : Draws) (memory : Nat → Bool) (setup setup' : List Network.Command)
    (rig rig' : Rig) (deeds deeds' : List Rig.Deed)
    (created : Rig.create name config ((Network.fresh draws memory).commands setup) = .ok rig)
    (created' : Rig.create name' { config with readChunkSize := size }
      ((Network.fresh draws' memory).commands setup') = .ok rig')
    (script : pacelessOf setup' = pacelessOf setup)
    (same : deeds'.map Rig.Deed.unpaced = deeds.map Rig.Deed.unpaced)
    (unfailing : setup.any Network.Command.injects = false)
    (clean : ∀ deed ∈ deeds, deed.injects = false) :
    rig'.answers deeds' = rig.answers deeds ∧
      (∀ n,
        let handed := Event.received (rig.actAll (deeds.take n)).record.toList
        let handed' := Event.received (rig'.actAll (deeds'.take n)).record.toList
        handed <+: handed' ∨ handed' <+: handed) ∧
      (rig.actAll deeds).network.written.toList =
        Event.taken (Entry.eventsOf (rig.calls deeds)) ∧
      (rig'.actAll deeds').network.written.toList =
        Event.taken (Entry.eventsOf (rig'.calls deeds')) ∧
      ∀ first count,
        let attempt := ((rig.calls deeds).drop first).take count
        let attempt' := ((rig'.calls deeds').drop first).take count
        let record := Entry.eventsOf attempt
        let record' := Entry.eventsOf attempt'
        Entry.Begun attempt → Event.sendTimeouts record = [] → Event.sendTimeouts record' = [] →
          Entry.Begun attempt' ∧
            (Event.taken record <+: Event.taken record' ∨
              Event.taken record' <+: Event.taken record) ∧
            (Event.succeeded record <+: Event.succeeded record' ∨
              Event.succeeded record' <+: Event.succeeded record) := by
  have alike : rig.Alike rig' := by
    rw [Rig.create_eq created, Rig.create_eq created']
    exact ⟨.mk size .empty (.zeroed size),
      (Network.alike_fresh draws draws' memory).commands script unfailing, rfl, rfl⟩
  obtain ⟨answers, exchanged⟩ := alike.actAll same clean
  refine ⟨answers, ?_, Rig.written_calls created deeds, Rig.written_calls created' deeds', ?_⟩
  · intro n handed handed'
    have part : (deeds'.take n).map Rig.Deed.unpaced = (deeds.take n).map Rig.Deed.unpaced := by
      rw [List.map_take, same, List.map_take]
    have delivered := Rig.Deed.delivered_of_unpaced part
    have here := (Rig.conserves_create created).actAll (Rig.traces_create created) (deeds.take n)
    have there :=
      (Rig.conserves_create created').actAll (Rig.traces_create created') (deeds'.take n)
    rw [delivered, ← Network.delivered_pacelessOf setup', script,
      Network.delivered_pacelessOf] at there
    exact List.prefix_or_prefix_of_prefix (here.received_prefix List.prefix_rfl)
      (there.received_prefix List.prefix_rfl)
  · intro first count attempt attempt' record record' begun punctual punctual'
    have here : attempt'.map Entry.exchange = attempt.map Entry.exchange := by
      rw [List.map_take, List.map_drop, exchanged, ← List.map_drop, ← List.map_take]
    have begun' := begun.of_exchange here
    have clean' := Rig.Deed.clean_of_unpaced same clean
    have split (calls : List (Entry Network.platform)) : calls =
        calls.take first ++ (calls.drop first).take count ++ (calls.drop first).drop count := by
      rw [List.append_assoc, List.take_append_drop, List.take_append_drop]
    have prefixes := Rig.prefixes_of_calls created alike.itself clean (split _) begun punctual
    have prefixes' :=
      Rig.prefixes_of_calls created' alike.flip.itself clean' (split _) begun' punctual'
    rw [Entry.messages_of_exchange here, Entry.acceptedBy_of_exchange here] at prefixes'
    exact ⟨begun', List.prefix_or_prefix_of_prefix prefixes.1 prefixes'.1,
      List.prefix_or_prefix_of_prefix prefixes.2 prefixes'.2⟩

/-- A client that reads into one byte on a network that takes one byte at a time, beside one that
gets and sends two bytes at once: after one poll the first is handed one byte of two and has written
one of two, and its send has not completed. -/
theorem chunking_invisible_bytewise :
    let opening : List Rig.Deed := [.start, .poll, .poll, .poll, .send [1, 2]]
    let deeds := opening ++ [.commands [.deliver [104, 105]], .poll]
    let deeds' := opening ++ [.commands [.write (.chunked 1), .deliver [104, 105]], .poll]
    ∃ rig rig', Rig.create "whole" { host := "h", port := 1 }
        ((Network.ofSeed 0).commands []) = .ok rig ∧
      Rig.create "bytewise" { host := "h", port := 1, readChunkSize := 1 }
        ((Network.ofSeed 1).commands [.read .random]) = .ok rig' ∧
      rig'.answers deeds' = rig.answers deeds ∧
      Event.received (rig.actAll deeds).record.toList = [104, 105] ∧
      Event.received (rig'.actAll deeds').record.toList = [104] ∧
      let attempt := ((rig.calls deeds).drop 0).take 6
      let attempt' := ((rig'.calls deeds').drop 0).take 6
      Event.taken (Entry.eventsOf attempt) = [1, 2] ∧
      Event.taken (Entry.eventsOf attempt') = [1] ∧
      Event.succeeded (Entry.eventsOf attempt) = [0] ∧
      Event.succeeded (Entry.eventsOf attempt') = [] ∧ Entry.Begun attempt' := by
  intro opening deeds deeds'
  have checked : Config.check { host := "h", port := 1 } = .ok () := rfl
  have created := Rig.create_ok checked "whole" ((Network.ofSeed 0).commands []) rfl
  have small : Config.check { host := "h", port := 1, readChunkSize := 1 } = .ok () := rfl
  have created' :=
    Rig.create_ok small "bytewise" ((Network.ofSeed 1).commands [.read .random]) rfl
  have invisible := chunking_invisible _ _ _ _ _ _ _ _ _ _ _ deeds deeds' created created' rfl rfl
    rfl (by decide)
  have begun := invisible.2.2.2.2 0 6 (.ongoing (by decide +kernel) (by decide +kernel))
    (by decide +kernel) (by decide +kernel)
  exact ⟨_, _, created, created', invisible.1, by decide +kernel, by decide +kernel,
    by decide +kernel, by decide +kernel, by decide +kernel, by decide +kernel, begun.1⟩

end Sim
end PolledTls
