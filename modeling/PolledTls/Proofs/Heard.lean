import PolledTls.Proofs.Attempt
import PolledTls.Proofs.Naming

/-!
What the owner of an attempt hears of it. It is a word that begins with how the attempt opened, goes
on with the traffic while it is open and with the failure that breaks it, if one does, and ends with
the sends that are cancelled and the close.
-/
namespace PolledTls

/-- What is heard of an open connection: bytes that come in, sends that are out, and sends that ran
out of time, each with its report. -/
inductive Traffic (owner : Ticket) : List Callback → Prop
  | silence : Traffic owner []
  | received {word : List Callback} (bytes : List UInt8) (rest : Traffic owner word) :
      Traffic owner (.received owner bytes :: word)
  | sent {word : List Callback} (ticket : Ticket) (rest : Traffic owner word) :
      Traffic owner (.sent ticket .ok :: word)
  | late {word : List Callback} (ticket : Ticket) (elapsed : Duration) (unsent : Nat)
      (rest : Traffic owner word) :
      Traffic owner
        (.sent ticket .error :: .failed owner (.sendTimeout elapsed unsent) :: word)

/-- How the hard failure of a read or of a write is heard. -/
inductive Breakdown (owner : Ticket) : List Callback → Prop
  | reading (reason : String) : Breakdown owner [.failed owner (.io reason)]
  | writing (ticket : Ticket) (reason : String) :
      Breakdown owner [.sent ticket .error, .failed owner (.io reason)]

/-- All that is heard of an attempt which ends with the closing. -/
inductive Word (owner : Ticket) (closing : List Callback) : List Callback → Prop
  | failed : Word owner closing (.opened owner .error :: closing)
  | cancelled : Word owner closing (.opened owner .cancelled :: closing)
  | opened {going : List Callback} (traffic : Traffic owner going) (waiting : List Ticket) :
      Word owner closing
        (.opened owner .ok :: going ++ waiting.map (Callback.sent · .cancelled) ++ closing)
  | broken {going hard : List Callback} (traffic : Traffic owner going)
      (breakdown : Breakdown owner hard) (waiting : List Ticket) :
      Word owner closing
        (.opened owner .ok :: going ++ hard ++ waiting.map (Callback.sent · .cancelled) ++ closing)

variable {P : Platform} {owner : Ticket} {word going : List Callback}

theorem Traffic.append {more : List Callback} (traffic : Traffic owner going)
    (later : Traffic owner more) : Traffic owner (going ++ more) := by
  induction traffic with
  | silence => exact later
  | received bytes rest ih => exact .received bytes ih
  | sent ticket rest ih => exact .sent ticket ih
  | late ticket elapsed unsent rest ih => exact .late ticket elapsed unsent ih

namespace Entry

/-- The callback that concerns a call alone: the completion of an open that is refused, and of a
close with nothing to close. -/
def refusal (e : Entry P) : List Callback :=
  match e.request, e.result with
  | some (.start ticket), .error _ => [.opened ticket .error]
  | some (.close ticket), .error _ => [.closed ticket]
  | _, _ => []

/-- What is heard of the attempt in the part of a call that has been seen. -/
def heardBy (e : Entry P) (seen : List Event) : List Callback :=
  match e.request, e.result with
  | some (.start _), .error _ | some (.close _), .error _ => []
  | _, _ => Event.callbacks seen

def heard (e : Entry P) : List Callback :=
  e.heardBy e.events

def heardIn (calls : List (Entry P)) : List Callback :=
  calls.flatMap heard

/-- The completion of a close; a drop has none. -/
def closing (e : Entry P) : List Callback :=
  match e.request with
  | some (.close ticket) => [.closed ticket]
  | _ => []

end Entry

namespace Connection

/-- What has been heard of the attempt under way, by where it stands. -/
inductive Heard (c : Connection P) (owner : Ticket) : List Callback → Prop
  | opening (still : c.status.isOpening = true) : Heard c owner []
  | refused (failed : c.status = .failed) (empty : c.outbox.messages = []) :
      Heard c owner [.opened owner .error]
  | opened {going : List Callback} (ready : c.status = .opened) (traffic : Traffic owner going) :
      Heard c owner (.opened owner .ok :: going)
  | broken {going hard : List Callback} (failed : c.status = .failed)
      (traffic : Traffic owner going) (breakdown : Breakdown owner hard) :
      Heard c owner (.opened owner .ok :: going ++ hard)

variable {c left last : Connection P} {now : Instant} {es : List Event} {request : Option Request}
  {result : Except Error Unit} {calls : List (Entry P)}

namespace Heard

theorem live (heard : c.Heard owner word) : c.status ≠ .notOpen := by
  intro idle
  cases heard with
  | opening still => rw [idle] at still; cases still
  | refused failed empty => rw [idle] at failed; cases failed
  | opened ready traffic => rw [idle] at ready; cases ready
  | broken failed traffic breakdown => rw [idle] at failed; cases failed

theorem of_opening (heard : c.Heard owner word) (opening : c.status.isOpening = true) :
    word = [] := by
  cases heard with
  | opening still => rfl
  | refused failed empty => rw [failed] at opening; cases opening
  | opened ready traffic => rw [ready] at opening; cases opening
  | broken failed traffic breakdown => rw [failed] at opening; cases opening

theorem of_opened (heard : c.Heard owner word) (ready : c.status = .opened) :
    ∃ going, Traffic owner going ∧ word = .opened owner .ok :: going := by
  cases heard with
  | opening still => rw [ready] at still; cases still
  | refused failed empty => rw [ready] at failed; cases failed
  | opened ready traffic => exact ⟨_, traffic, rfl⟩
  | broken failed traffic breakdown => rw [ready] at failed; cases failed

end Heard

theorem Sound.empty_of_opening (sound : c.Sound) (opening : c.status.isOpening = true) :
    c.outbox.messages = [] := by
  apply sound.empty
  · intro ready
    rw [ready] at opening
    cases opening
  · intro failed
    rw [failed] at opening
    cases opening

theorem Opens.heard (h : c.Opens now owner es left) (sound : c.Sound) :
    left.Heard owner (Event.callbacks es) := by
  have empty := sound.empty_of_opening h.opening
  have settled := h.callbacks
  cases h with
  | waits polled inTime =>
      rw [Event.callbacks_of_quiet polled.quiet]
      exact .opening polled.waiting_isOpening
  | moves polled =>
      rw [Event.callbacks_of_quiet polled.quiet]
      exact .opening polled.moved_isOpening
  | expires polled late =>
      rw [settled]
      exact .refused rfl empty
  | breaks polled =>
      rw [settled]
      exact .refused rfl empty
  | completes polled =>
      rw [settled]
      exact .opened rfl .silence

theorem Serves.heard {channel : Channel P} (h : c.Serves now owner channel es left)
    (traffic : Traffic owner going) :
    left.Heard owner (.opened owner .ok :: going ++ Event.callbacks es) := by
  have grows {more : List Callback} (later : Traffic owner more) (ready : left.status = .opened) :
      left.Heard owner (.opened owner .ok :: (going ++ more)) :=
    .opened ready (traffic.append later)
  cases h with
  | rests nothing => exact grows .silence rfl
  | expires head late => exact grows (.late _ _ _ .silence) rfl
  | passes head inTime nothing => exact grows (.sent _ .silence) rfl
  | stalls head inTime some notices session stalled =>
      rw [Event.callbacks_call, Event.callbacks_remarks]
      exact grows .silence rfl
  | writes head inTime notices session some part =>
      simp only [Event.callbacks_append, Event.callbacks_call, Event.callbacks_remarks]
      exact grows .silence rfl
  | finishes head inTime some notices session all =>
      simp only [Event.callbacks_append, Event.callbacks_call, Event.callbacks_remarks]
      exact grows (.sent _ .silence) rfl
  | breaks head inTime some notices hard =>
      simp only [Event.callbacks_append, Event.callbacks_call, Event.callbacks_remarks]
      exact .broken rfl traffic (.writing _ _)

theorem Transfers.heard {channel : Channel P} (h : c.Transfers now owner channel es left)
    (traffic : Traffic owner going) :
    left.Heard owner (.opened owner .ok :: going ++ Event.callbacks es) := by
  cases h with
  | @receives count _ _ stored notices session some served =>
      have grown := served.heard (traffic.append
        (.received ((c.buffer.store stored).take (min count c.buffer.room)) .silence))
      simp only [Event.callbacks_append, Event.callbacks_call, Event.callbacks_remarks]
      rw [List.cons_append, List.append_assoc] at grown
      exact grown
  | listens stored notices session stalled served =>
      have grown := served.heard traffic
      simp only [Event.callbacks_append, Event.callbacks_call, Event.callbacks_remarks]
      exact grown
  | breaks stored notices hard =>
      simp only [Event.callbacks_append, Event.callbacks_call, Event.callbacks_remarks]
      exact .broken rfl traffic (.reading _)

/-- A call in the midst of an attempt adds to what has been heard of it, and the attempt goes on. -/
theorem Step.heard (h : c.Step now request result es left) (sound : c.Sound)
    (owned : c.owner = some owner) (heard : c.Heard owner word)
    (goesOn : Entry.ends ⟨c, now, request, result, es, left⟩ = false) :
    left.Heard owner (word ++ Entry.heard ⟨c, now, request, result, es, left⟩) := by
  have unheard {left : Connection P} {word : List Callback} (kept : left.Heard owner word) :
      left.Heard owner (word ++ []) := by
    rw [List.append_nil]
    exact kept
  cases h with
  | starts idle lookup => exact absurd idle heard.live
  | closes live | vanishes idle | abandons live => cases goesOn
  | queues ready =>
      obtain ⟨going, traffic, rfl⟩ := heard.of_opened ready
      exact unheard (.opened ready traffic)
  | opens listener opened =>
      rw [Connection.owner, listener] at owned
      cases owned
      rw [heard.of_opening opened.opening]
      exact opened.heard sound
  | transfers listener phase transferred =>
      rw [Connection.owner, listener] at owned
      cases owned
      have ready : c.status = .opened := by rw [status, phase, Phase.status]
      obtain ⟨going, traffic, rfl⟩ := heard.of_opened ready
      exact transferred.heard traffic
  | _ => exact unheard heard

theorem callbacks_cancellation (sound : c.Sound) (owned : c.owner = some owner) :
    Event.callbacks c.cancellation =
      if c.status.isOpening then [.opened owner .cancelled] else [] := by
  obtain ⟨⟨ticket, awaiting⟩, listener, rfl⟩ := Option.map_eq_some_iff.mp owned
  have decided := sound.awaiting _ listener
  rw [cancellation, listener, ← decided]
  cases awaiting <;> rfl

/-- What an end lets be heard makes a whole word of what was heard before it. -/
theorem Heard.farewell (heard : c.Heard owner word) (sound : c.Sound)
    (owned : c.owner = some owner) (closing : List Callback) :
    Word owner closing (word ++ (Event.callbacks c.farewell ++ closing)) := by
  have drained : c.outbox.messages.map (·.completion .cancelled) =
      c.outbox.tickets.map (Callback.sent · .cancelled) := by
    rw [Outbox.tickets, List.map_map]
    rfl
  rw [callbacks_farewell, callbacks_cancellation sound owned, drained]
  cases heard with
  | opening still =>
      rw [if_pos still, Outbox.tickets, sound.empty_of_opening still]
      exact .cancelled
  | refused failed empty =>
      rw [failed, Outbox.tickets, empty]
      exact .failed
  | opened ready traffic =>
      have whole : Word owner closing _ := .opened traffic c.outbox.tickets
      rw [List.append_assoc] at whole
      rw [ready]
      exact whole
  | broken failed traffic breakdown =>
      have whole : Word owner closing _ := .broken traffic breakdown c.outbox.tickets
      rw [List.append_assoc] at whole
      rw [failed]
      exact whole

/-- The close or the drop that ends an attempt makes a whole word of what was heard of it. -/
theorem Step.ended (h : c.Step now request result es left) (sound : c.Sound)
    (owned : c.owner = some owner) (heard : c.Heard owner word)
    (ends : Entry.ends ⟨c, now, request, result, es, left⟩ = true) :
    Word owner (Entry.closing ⟨c, now, request, result, es, left⟩)
      (word ++ Entry.heard ⟨c, now, request, result, es, left⟩) := by
  cases h with
  | @closes ticket live =>
      have shown : Event.callbacks (c.farewell ++ [.callback (.closed ticket)]) =
          Event.callbacks c.farewell ++ [.closed ticket] := Event.callbacks_append _ _
      have whole := heard.farewell sound owned [.closed ticket]
      rw [← shown] at whole
      exact whole
  | vanishes idle => exact absurd idle heard.live
  | abandons live =>
      have whole := heard.farewell sound owned []
      rw [List.append_nil] at whole
      exact whole
  | _ => cases ends

theorem Linked.heard (h : Linked c calls last) (sound : c.Sound) (owned : c.owner = some owner)
    (heard : c.Heard owner word) (goesOn : ∀ e ∈ calls, e.ends = false) :
    last.owner = some owner ∧ last.Heard owner (word ++ Entry.heardIn calls) := by
  induction h generalizing word with
  | nil c =>
      rw [Entry.heardIn, List.flatMap_nil, List.append_nil]
      exact ⟨owned, heard⟩
  | @cons c middle _ now request result es rest step later ih =>
      have going := goesOn _ List.mem_cons_self
      have unbegun : Entry.begins ⟨c, now, request, result, es, middle⟩ = false := by
        rw [Bool.eq_false_iff]
        intro begins
        exact heard.live (step.idle_of_begins begins)
      have kept : middle.owner = some owner := by
        have next : middle.owner = _ := step.attempt sound
        rw [next, Entry.attemptAfter_of_goesOn unbegun going]
        exact owned
      rw [Entry.heardIn, List.flatMap_cons, ← List.append_assoc]
      exact ih (step.sound sound) kept (step.heard sound owned heard going)
        fun e member => goesOn e (List.mem_cons_of_mem _ member)

end Connection

namespace Entry

/-- The ticket of the open that begins an attempt. -/
def opener (attempt : List (Entry P)) : Option Ticket :=
  attempt.head?.bind fun first =>
    match first.request with
    | some (.start ticket) => some ticket
    | _ => none

/-- How the end of an attempt is heard. -/
def closingOf (attempt : List (Entry P)) : List Callback :=
  (attempt.getLast?.map closing).getD []

theorem closingOf_concat (work : List (Entry P)) (final : Entry P) :
    closingOf (work ++ [final]) = final.closing := by
  rw [closingOf, List.getLast?_concat]
  rfl

theorem heardIn_append (first second : List (Entry P)) :
    heardIn (first ++ second) = heardIn first ++ heardIn second :=
  List.flatMap_append

theorem heardIn_singleton (e : Entry P) : heardIn [e] = e.heard :=
  List.flatMap_singleton _ _

end Entry

namespace Connection

variable {c left last : Connection P} {now : Instant} {es : List Event} {request : Option Request}
  {result : Except Error Unit} {calls : List (Entry P)}

/-- The open that begins an attempt lets nothing be heard. -/
theorem Step.begun (h : c.Step now request result es left)
    (begins : Entry.begins ⟨c, now, request, result, es, left⟩ = true) :
    ∃ owner, request = some (.start owner) ∧ left.owner = some owner ∧ left.Heard owner [] ∧
      Entry.heard ⟨c, now, request, result, es, left⟩ = [] := by
  cases h with
  | @starts owner idle lookup => exact ⟨owner, rfl, rfl, .opening rfl, rfl⟩
  | _ => cases begins

theorem Linked.attempt_word (h : Linked c calls last) (sound : c.Sound)
    (attempt : Entry.Attempt calls) :
    ∃ owner, Entry.opener calls = some owner ∧
      Word owner (Entry.closingOf calls) (Entry.heardIn calls) := by
  obtain ⟨begins, goesOn, ends⟩ := attempt
  cases h with
  | cons begin later =>
      obtain ⟨owner, rfl, owned, heard, unheard⟩ := begin.begun begins
      obtain ⟨sofar, step, -⟩ := later.at_
      have sound := begin.sound sound
      obtain ⟨owned, heard⟩ := sofar.heard sound owned heard goesOn
      have whole := step.ended (sofar.sound sound) owned heard ends
      refine ⟨owner, rfl, ?_⟩
      rw [← List.cons_append, Entry.closingOf_concat, Entry.heardIn_append, Entry.heardIn,
        List.flatMap_cons, unheard, ← Entry.heardIn, Entry.heardIn_singleton]
      exact whole

end Connection
end PolledTls
