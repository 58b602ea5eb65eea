import PolledTls.Outbox
import PolledTls.Proofs.Stream

/-!
How the messages accepted so far, the record and the outbox stand to each other, and the moves that
keep it so: a write for the head, the completion of the head, a new message at the end. While they
stand like this, what a write offers and what a timeout reports can be read off the record.
-/
namespace PolledTls

open Event

/-- How a message completes, by what was accepted of it. -/
structure Fits (message share : List UInt8) (result : Completion) : Prop where
  part : share <+: message
  ok : result = .ok → share = message
  error : result = .error → share.length < message.length
  cancelled : result = .cancelled → message ≠ [] → share.length < message.length

/-- The messages accepted, the record and the outbox. -/
structure Flow (messages : List (List UInt8)) (events : List Event) (o : Outbox) : Prop where
  within : (completions events).length ≤ messages.length
  waiting : messages.drop (completions events).length = o.messages.map fun m => m.payload.toList
  /-- What is left of the head is what was not accepted yet. -/
  begun : ∀ m rest, o.messages = m :: rest →
    share (completions events).length events ++ m.rest.toList = m.payload.toList
  unbegun : o.messages = [] → share (completions events).length events = []
  behind : ∀ m ∈ o.messages.tail, m.rest = m.payload
  settled : ∀ i result, (completions events)[i]? = some result →
    ∃ message, messages[i]? = some message ∧ Fits message (share i events) result

/-- What the next event has to do with the messages accepted and the record before it. A write
offers what is not accepted yet of the oldest message that has not completed. A timeout is reported
right after the message has completed, with what was not accepted of it. -/
def Next (messages : List (List UInt8)) (before : List Event) : Event → Prop
  | .call (.write offered _) =>
    messages[(completions before).length]? =
      some (share (completions before).length before ++ offered) ∧ offered ≠ []
  | .callback (.failed _ (.sendTimeout _ unsent)) =>
    ∃ earlier ticket message, before = earlier ++ [.callback (.sent ticket .error)] ∧
      messages[(completions earlier).length]? = some message ∧
      message.length = (share (completions earlier).length earlier).length + unsent ∧ 1 ≤ unsent
  | _ => True

def Follows (messages : List (List UInt8)) : List Event → List Event → Prop
  | _, [] => True
  | before, event :: rest => Next messages before event ∧ Follows messages (before ++ [event]) rest

/-- An event that has nothing to do with the stream. -/
def Event.plain : Event → Bool
  | .call (.write ..) | .callback (.sent ..) | .callback (.failed _ (.sendTimeout ..)) => false
  | _ => true

variable {messages : List (List UInt8)} {before events first second : List Event} {o o' : Outbox}

theorem follows_append : Follows messages before (first ++ second) ↔
    Follows messages before first ∧ Follows messages (before ++ first) second := by
  induction first generalizing before with
  | nil => simp [Follows]
  | cons event rest ih =>
      rw [List.cons_append, Follows, ih, Follows, and_assoc, List.append_assoc]
      rfl

theorem follows_iff : Follows messages before events ↔
    ∀ earlier event later, events = earlier ++ event :: later →
      Next messages (before ++ earlier) event := by
  induction events generalizing before with
  | nil => simp [Follows]
  | cons first rest ih =>
      rw [Follows, ih]
      constructor
      · rintro ⟨next, others⟩ earlier event later split
        cases earlier with
        | nil =>
            obtain ⟨rfl, rfl⟩ := List.cons.inj split
            rw [List.append_nil]
            exact next
        | cons head tail =>
            obtain ⟨rfl, same⟩ := List.cons.inj split
            have there := others tail event later same
            rw [List.append_assoc] at there
            exact there
      · intro all
        constructor
        · have here := all [] first rest rfl
          rwa [List.append_nil] at here
        · intro earlier event later split
          have there := all (first :: earlier) event later (congrArg (first :: ·) split)
          rw [List.append_assoc]
          exact there

theorem Next.of_plain {event : Event} (plain : event.plain = true) :
    Next messages before event := by
  unfold Next
  split
  · cases plain
  · cases plain
  · trivial

theorem Event.accepted_of_plain {event : Event} (plain : event.plain = true) :
    event.accepted = [] := by
  unfold Event.accepted
  split
  · cases plain
  · rfl

theorem Event.completion?_of_plain {event : Event} (plain : event.plain = true) :
    event.completion? = none := by
  unfold completion?
  split
  · cases plain
  · rfl

namespace Flow

variable {event : Event} {m m' : Message} {rest : List Message}

theorem start (empty : o.messages = []) : Flow [] [] o := by
  refine ⟨Nat.le_refl _, ?_, ?_, fun _ => rfl, ?_, ?_⟩
  · rw [empty]
    rfl
  · intro m rest queue
    rw [empty] at queue
    cases queue
  · intro m member
    rw [empty] at member
    cases member
  · intro i result completed
    cases completed

theorem completed (h : Flow messages before o) (empty : o.messages = []) :
    (completions before).length = messages.length := by
  have waiting := congrArg List.length h.waiting
  rw [List.length_drop, empty] at waiting
  have within := h.within
  simp only [List.map_nil, List.length_nil] at waiting
  omega

theorem head (h : Flow messages before ⟨m :: rest⟩) :
    messages[(completions before).length]? = some m.payload.toList := by
  rw [← List.head?_drop, h.waiting]
  rfl

theorem idle (h : Flow messages before o) (quiet : event.accepted = [])
    (silent : event.completion? = none) : Flow messages (before ++ [event]) o := by
  have same : completions (before ++ [event]) = completions before := by
    rw [completions_concat, silent]
    exact List.append_nil _
  have kept := fun i => share_concat_of_quiet quiet i before
  constructor
  · rw [same]
    exact h.within
  · rw [same]
    exact h.waiting
  · intro m rest queue
    rw [same, kept]
    exact h.begun m rest queue
  · intro empty
    rw [same, kept]
    exact h.unbegun empty
  · exact h.behind
  · intro i result completed
    rw [same] at completed
    rw [kept]
    exact h.settled i result completed

/-- What an event takes is taken off what is left of the head. -/
theorem accept (h : Flow messages before ⟨m :: rest⟩) (silent : event.completion? = none)
    (same : m'.payload = m.payload) (cut : event.accepted ++ m'.rest.toList = m.rest.toList) :
    Flow messages (before ++ [event]) ⟨m' :: rest⟩ := by
  have unchanged : completions (before ++ [event]) = completions before := by
    rw [completions_concat, silent]
    exact List.append_nil _
  constructor
  · rw [unchanged]
    exact h.within
  · rw [unchanged, h.waiting, List.map_cons, List.map_cons, same]
  · rintro _ _ ⟨rfl, rfl⟩
    rw [unchanged, share_concat, if_pos rfl, List.append_assoc, cut, same]
    exact h.begun m rest rfl
  · intro empty
    cases empty
  · exact h.behind
  · intro i result completed
    rw [unchanged] at completed
    have earlier := (List.getElem?_eq_some_iff.mp completed).1
    rw [share_concat, if_neg (by omega), List.append_nil]
    exact h.settled i result completed

theorem complete {result : Completion} (h : Flow messages before ⟨m :: rest⟩)
    (completes : event.completion? = some result)
    (fits : Fits m.payload.toList (share (completions before).length before) result) :
    Flow messages (before ++ [event]) ⟨rest⟩ := by
  have kept := fun i => share_concat_of_quiet (accepted_of_completion completes) i before
  have more : completions (before ++ [event]) = completions before ++ [result] := by
    rw [completions_concat, completes]
    rfl
  have count : (completions (before ++ [event])).length = (completions before).length + 1 := by
    rw [more, List.length_append]
    rfl
  have fresh : share ((completions before).length + 1) before = [] :=
    share_of_gt (Nat.lt_succ_self _)
  constructor
  · rw [count]
    exact (List.getElem?_eq_some_iff.mp h.head).1
  · rw [count, ← List.tail_drop, h.waiting]
    rfl
  · rintro m rest rfl
    rw [count, kept, fresh, h.behind m (by simp)]
    rfl
  · intro empty
    rw [count, kept, fresh]
  · intro m member
    exact h.behind m (List.mem_of_mem_tail member)
  · intro i result completed
    rw [kept]
    rw [more] at completed
    -- The send that completes is the last to have done so; the others keep their shares.
    by_cases earlier : i < (completions before).length
    · rw [List.getElem?_append_left earlier] at completed
      exact h.settled i result completed
    · have last : i < (completions before ++ [_]).length :=
        (List.getElem?_eq_some_iff.mp completed).1
      rw [List.length_append, List.length_singleton] at last
      obtain rfl : i = (completions before).length := by omega
      rw [List.getElem?_concat_length] at completed
      cases completed
      exact ⟨m.payload.toList, h.head, fits⟩

theorem push (h : Flow messages before o) (payload : List UInt8) (ticket : Ticket) :
    Flow (messages ++ [payload]) before ⟨o.messages ++ [.fresh payload ticket]⟩ := by
  constructor
  · rw [List.length_append]
    exact Nat.le_succ_of_le h.within
  · rw [List.drop_append_of_le_length h.within, h.waiting, List.map_append]
    rfl
  · intro m rest queue
    -- The new message is the head only if nothing waited, and then nothing is begun.
    cases waiting : o.messages with
    | nil =>
        rw [waiting] at queue
        cases queue
        rw [h.unbegun waiting]
        rfl
    | cons head others =>
        rw [waiting] at queue
        cases queue
        exact h.begun _ _ waiting
  · intro empty
    exact absurd empty (List.append_ne_nil_of_right_ne_nil _ (List.cons_ne_nil _ _))
  · intro m member
    cases waiting : o.messages with
    | nil =>
        rw [waiting] at member
        cases member
    | cons head others =>
        have behind := h.behind m
        rw [waiting] at member behind
        rcases List.mem_append.mp member with old | new
        · exact behind old
        · rw [List.mem_singleton.mp new]
          rfl
  · intro i result completed
    obtain ⟨message, there, fits⟩ := h.settled i result completed
    exact ⟨message, List.getElem?_append_left (List.getElem?_eq_some_iff.mp there).1 ▸ there, fits⟩

theorem fits {result : Completion} (h : Flow messages before ⟨m :: rest⟩)
    (ok : result = .ok → m.unsent = 0) (error : result = .error → m.unsent ≠ 0)
    (cancelled : result = .cancelled → m.size ≠ 0 → m.unsent ≠ 0) :
    Fits m.payload.toList (share (completions before).length before) result := by
  have whole := h.begun m rest rfl
  have lengths := congrArg List.length whole
  rw [List.length_append, ← Bytes.size_eq, ← Bytes.size_eq] at lengths
  refine ⟨⟨_, whole⟩, ?_, ?_, ?_⟩
  · intro completed
    have nothing : m.rest.toList = [] := by
      apply List.eq_nil_of_length_eq_zero
      rw [← Bytes.size_eq]
      exact ok completed
    rw [← whole, nothing, List.append_nil]
  · intro completed
    have left := error completed
    rw [← Bytes.size_eq]
    rw [Message.unsent] at left
    omega
  · intro completed some
    have filled : m.size ≠ 0 := by
      intro empty
      apply some
      apply List.eq_nil_of_length_eq_zero
      rw [← Bytes.size_eq]
      exact empty
    have left := cancelled completed filled
    rw [← Bytes.size_eq]
    rw [Message.unsent] at left
    omega

end Flow

/-- The events keep the flow while they lead from one outbox to the other. -/
def Carries (o : Outbox) (events : List Event) (o' : Outbox) : Prop :=
  ∀ messages before, Flow messages before o →
    Follows messages before events ∧ Flow messages (before ++ events) o'

namespace Carries

theorem trans {middle : Outbox} (one : Carries o first middle)
    (other : Carries middle second o') : Carries o (first ++ second) o' := by
  intro messages before flow
  obtain ⟨follows, flow⟩ := one messages before flow
  obtain ⟨later, flow⟩ := other messages _ flow
  refine ⟨follows_append.mpr ⟨follows, later⟩, ?_⟩
  rw [← List.append_assoc]
  exact flow

theorem nil (o : Outbox) : Carries o [] o := by
  intro messages before flow
  rw [List.append_nil]
  exact ⟨trivial, flow⟩

theorem idle {event : Event} (next : ∀ messages before, Next messages before event)
    (quiet : event.accepted = []) (silent : event.completion? = none) : Carries o [event] o := by
  intro messages before flow
  exact ⟨⟨next messages before, trivial⟩, flow.idle quiet silent⟩

theorem plain (plain : events.all Event.plain = true) : Carries o events o := by
  induction events with
  | nil => exact nil o
  | cons event rest ih =>
      rw [List.all_cons, Bool.and_eq_true] at plain
      have one : Carries o [event] o := idle (fun _ _ => Next.of_plain plain.1)
        (accepted_of_plain plain.1) (completion?_of_plain plain.1)
      exact one.trans (ih plain.2)

theorem log (o : Outbox) (event : LogEvent) : Carries o [.log event] o :=
  .plain rfl

variable {m m' : Message} {rest : List Message}

theorem write {answer : Except IoError Nat} (some : m.unsent ≠ 0) (same : m'.payload = m.payload)
    (cut : (Event.call (.write m.rest.toList answer)).accepted ++ m'.rest.toList =
      m.rest.toList) :
    Carries ⟨m :: rest⟩ [.call (.write m.rest.toList answer)] ⟨m' :: rest⟩ := by
  intro messages before flow
  have offered : m.rest.toList ≠ [] := by
    intro empty
    apply some
    rw [Message.unsent, Bytes.size_eq, empty]
    rfl
  have oldest := flow.head
  rw [← flow.begun m rest rfl] at oldest
  exact ⟨⟨⟨oldest, offered⟩, trivial⟩, flow.accept rfl same cut⟩

theorem complete {result : Completion} (ok : result = .ok → m.unsent = 0)
    (error : result = .error → m.unsent ≠ 0)
    (cancelled : result = .cancelled → m.size ≠ 0 → m.unsent ≠ 0) :
    Carries ⟨m :: rest⟩ [.callback (m.completion result)] ⟨rest⟩ := by
  intro messages before flow
  exact ⟨⟨trivial, trivial⟩, flow.complete rfl (flow.fits ok error cancelled)⟩

/-- The head times out, which is reported after its completion. -/
theorem expire (some : m.unsent ≠ 0) (ticket : Ticket) (elapsed : Duration) :
    Carries ⟨m :: rest⟩
      [.callback (m.completion .error), .callback (.failed ticket (.sendTimeout elapsed m.unsent))]
      ⟨rest⟩ := by
  intro messages before flow
  have fits : Fits _ _ .error := flow.fits nofun (fun _ => some) nofun
  have completed : Flow messages (before ++ [.callback (m.completion .error)]) ⟨rest⟩ :=
    flow.complete rfl fits
  have lengths := congrArg List.length (flow.begun m rest rfl)
  rw [List.length_append, ← Bytes.size_eq] at lengths
  have reported : Next messages (before ++ [.callback (m.completion .error)])
      (.callback (.failed ticket (.sendTimeout elapsed m.unsent))) :=
    ⟨before, m.ticket, m.payload.toList, rfl, flow.head, lengths.symm,
      Nat.one_le_iff_ne_zero.mpr some⟩
  have told : Flow messages
      (before ++ [.callback (m.completion .error)] ++
        [.callback (.failed ticket (.sendTimeout elapsed m.unsent))]) ⟨rest⟩ :=
    completed.idle rfl rfl
  rw [List.append_assoc] at told
  exact ⟨⟨trivial, reported, trivial⟩, told⟩

theorem drain {queue : List Message} (unfinished : ∀ m ∈ queue, m.size ≠ 0 → m.unsent ≠ 0) :
    Carries ⟨queue⟩ (queue.map fun m => .callback (m.completion .cancelled)) ⟨[]⟩ := by
  induction queue with
  | nil => exact nil _
  | cons m rest ih =>
      have first : Carries ⟨m :: rest⟩ [.callback (m.completion .cancelled)] ⟨rest⟩ :=
        complete nofun nofun fun _ => unfinished m List.mem_cons_self
      exact first.trans (ih fun m member => unfinished m (List.mem_cons_of_mem _ member))

end Carries
end PolledTls
