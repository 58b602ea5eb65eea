import PolledTls.Proofs.History
import PolledTls.Proofs.Step.Callbacks
import PolledTls.Scripted

/-!
Every open completes exactly once. What is owed to the owner of the attempt under way changes only
with the calls that begin, decide or end it, so over a history as many open completions fire under
a ticket as opens were asked for with it.
-/
namespace PolledTls

variable {P : Platform}

def Callback.opened? (ticket : Ticket) : Callback → Option Completion
  | .opened t result => if t = ticket then some result else none
  | _ => none

/-- The open completions that fire under the ticket. -/
def Event.opened (ticket : Ticket) (events : List Event) : List Completion :=
  (callbacks events).filterMap (Callback.opened? ticket)

theorem Event.opened_append (ticket : Ticket) (first second : List Event) :
    opened ticket (first ++ second) = opened ticket first ++ opened ticket second := by
  rw [opened, callbacks_append, List.filterMap_append]
  rfl

theorem Event.opened_length_mono {ticket : Ticket} {first whole : List Event}
    (part : first <+: whole) : (opened ticket first).length ≤ (opened ticket whole).length := by
  obtain ⟨rest, rfl⟩ := part
  rw [opened_append, List.length_append]
  exact Nat.le_add_right _ _

theorem Callback.filterMap_opened? (owner ticket : Ticket) (results : List Completion) :
    (results.map (Callback.opened owner ·)).filterMap (opened? ticket) =
      if owner = ticket then results else [] := by
  by_cases same : owner = ticket
  · induction results with
    | nil => simp
    | cons result rest ih =>
        rw [if_pos same] at ih ⊢
        rw [List.map_cons, List.filterMap_cons, ih]
        simp [opened?, same]
  · rw [if_neg same, List.filterMap_eq_nil_iff]
    intro fired member
    obtain ⟨result, -, rfl⟩ := List.mem_map.mp member
    simp [opened?, same]

namespace Entry

def opened (e : Entry P) (ticket : Ticket) : List Completion :=
  Event.opened ticket e.events

def asksToOpen (ticket : Ticket) (e : Entry P) : Bool :=
  match e.request with
  | some (.start t) => t = ticket
  | _ => false

def opensAsked (ticket : Ticket) (calls : List (Entry P)) : Nat :=
  calls.countP (asksToOpen ticket)

def opensFired (ticket : Ticket) (calls : List (Entry P)) : Nat :=
  (Event.opened ticket (eventsOf calls)).length

theorem opensFired_cons (ticket : Ticket) (e : Entry P) (rest : List (Entry P)) :
    opensFired ticket (e :: rest) = (e.opened ticket).length + opensFired ticket rest := by
  rw [opensFired, eventsOf, List.flatMap_cons, Event.opened_append, List.length_append]
  rfl

theorem opensAsked_cons (ticket : Ticket) (e : Entry P) (rest : List (Entry P)) :
    opensAsked ticket (e :: rest) = (asksToOpen ticket e).toNat + opensAsked ticket rest := by
  rw [opensAsked, List.countP_cons, Nat.add_comm]
  cases asksToOpen ticket e <;> rfl

theorem opensAsked_concat (ticket : Ticket) (past : List (Entry P)) (e : Entry P) :
    opensAsked ticket (past ++ [e]) = opensAsked ticket past + (asksToOpen ticket e).toNat := by
  rw [opensAsked, List.countP_append, ← opensAsked, ← opensAsked, opensAsked_cons]
  rfl

end Entry

namespace Connection

variable {c left last : Connection P} {now : Instant} {es : List Event} {request : Option Request}
  {result : Except Error Unit} {calls : List (Entry P)} {ticket : Ticket}

/-- Whether an open completion is still to fire under the ticket. -/
def owes (c : Connection P) (ticket : Ticket) : Bool :=
  c.listener = some ⟨ticket, true⟩

/-- A completion is owed for the attempt under way, until it is decided. -/
theorem Sound.owes_iff (sound : c.Sound) : c.owes ticket = true ↔
    c.listener.map (·.ticket) = some ticket ∧ c.status.isOpening = true := by
  rw [owes, decide_eq_true_iff]
  constructor
  · intro owner
    exact ⟨by rw [owner]; rfl, (sound.awaiting _ owner).symm⟩
  · rintro ⟨owner, opening⟩
    obtain ⟨⟨t, awaiting⟩, listener, rfl⟩ := Option.map_eq_some_iff.mp owner
    have decided := sound.awaiting _ listener
    rw [opening] at decided
    rw [listener, ← decided]

theorem Sound.not_owes (sound : c.Sound) (decided : c.status.isOpening = false) :
    c.owes ticket = false := by
  rw [Bool.eq_false_iff, ne_eq, sound.owes_iff, decided]
  simp

theorem Sound.not_owes_of_idle (sound : c.Sound) (idle : c.status = .notOpen) :
    c.owes ticket = false :=
  sound.not_owes (by rw [idle]; rfl)

theorem opened_cancellation (c : Connection P) (ticket : Ticket) :
    Event.opened ticket c.cancellation = if c.owes ticket then [.cancelled] else [] := by
  unfold cancellation
  split
  case h_1 owner listener =>
    have fired := Callback.filterMap_opened? owner ticket [.cancelled]
    simpa [owes, listener, Event.opened] using fired
  case h_2 settled =>
    rw [owes, if_neg]
    · rfl
    · rw [decide_eq_true_iff]
      exact settled ticket

theorem opened_farewell (c : Connection P) (ticket : Ticket) :
    Event.opened ticket c.farewell = if c.owes ticket then [.cancelled] else [] := by
  rw [Event.opened, callbacks_farewell, List.filterMap_append, ← opened_cancellation]
  refine (congrArg _ ?_).trans (List.append_nil _)
  rw [List.filterMap_eq_nil_iff]
  intro fired member
  obtain ⟨m, -, rfl⟩ := List.mem_map.mp member
  rfl

theorem Transfers.opened {owner : Ticket} {channel : Channel P}
    (h : c.Transfers now owner channel es left) (ticket : Ticket) :
    Event.opened ticket es = [] := by
  rw [Event.opened, List.filterMap_eq_nil_iff]
  intro fired member
  rcases h.callbacks fired member with ⟨bytes, rfl⟩ | ⟨t, result, rfl⟩ | ⟨e, rfl⟩ <;> rfl

/-- The open completions due under the ticket in a call that leads from one connection to the
other, by what is asked and how it ends. -/
def due (c left : Connection P) (ticket : Ticket) :
    Option Request → Except Error Unit → List Completion
  | some (.start t), .error _ => if t = ticket then [.error] else []
  | some .poll, _ => if c.owes ticket then (settlement left.status).toList else []
  | some (.close _), _ | none, _ => if c.owes ticket then [.cancelled] else []
  | _, _ => []

theorem ok_mem_due : Completion.ok ∈ c.due left ticket request result ↔
    request = some .poll ∧ c.owes ticket = true ∧ left.status = .opened := by
  unfold due
  split <;> cases left.status <;> simp_all [settlement]

theorem error_mem_due : Completion.error ∈ c.due left ticket request result ↔
    (request = some (.start ticket) ∧ ∃ e, result = .error e) ∨
      request = some .poll ∧ c.owes ticket = true ∧ left.status = .failed := by
  unfold due
  split <;> cases left.status <;> simp_all [settlement]

theorem cancelled_mem_due : Completion.cancelled ∈ c.due left ticket request result ↔
    ((∃ t, request = some (.close t)) ∨ request = none) ∧ c.owes ticket = true := by
  unfold due
  split <;> cases left.status <;> simp_all [settlement]

def owesAfter (c left : Connection P) (ticket : Ticket) :
    Option Request → Except Error Unit → Bool
  | some (.start t), .ok () => t = ticket
  | some .poll, _ => c.owes ticket && (settlement left.status).isNone
  | some (.close _), _ | none, _ => false
  | _, _ => c.owes ticket

theorem Step.opened (h : c.Step now request result es left) (sound : c.Sound) (ticket : Ticket) :
    Event.opened ticket es = c.due left ticket request result := by
  cases h with
  | startRejected live => exact Callback.filterMap_opened? _ ticket [.error]
  | lookupRefused idle e => exact Callback.filterMap_opened? _ ticket [.error]
  | starts idle lookup => rfl
  | closeIgnored idle =>
      have settled : c.owes ticket = false := sound.not_owes_of_idle idle
      simp [due, settled, Event.opened, Callback.opened?]
  | closes live =>
      rw [Event.opened_append, opened_farewell]
      exact List.append_nil _
  | sendRejected unopened => rfl
  | sendUnaffordable opened size => rfl
  | queues opened => rfl
  | rests still =>
      have settled : c.owes ticket = false := sound.not_owes (by
        rcases still with at_ | at_ <;> rw [at_] <;> rfl)
      simp [due, settled, Event.opened]
  | opens owner opened =>
      rw [Event.opened, opened.callbacks, Callback.filterMap_opened?]
      simp [due, owes, owner]
  | transfers owner phase transferred =>
      have settled : c.owes ticket = false := by simp [owes, owner]
      simp [due, settled, transferred.opened]
  | ignores => rfl
  | vanishes idle =>
      have settled : c.owes ticket = false := sound.not_owes_of_idle idle
      simp [due, settled, Event.opened]
  | abandons live => exact opened_farewell c ticket

theorem Step.owes (h : c.Step now request result es left) (sound : c.Sound) (ticket : Ticket) :
    left.owes ticket = c.owesAfter left ticket request result := by
  cases h with
  | startRejected live => rfl
  | lookupRefused idle e => rfl
  | starts idle lookup => simp [owesAfter, Connection.owes]
  | closeIgnored idle => exact sound.not_owes_of_idle idle
  | closes live => rfl
  | sendRejected unopened => rfl
  | sendUnaffordable opened size => rfl
  | queues opened => rfl
  | rests still =>
      have settled : c.owes ticket = false := sound.not_owes (by
        rcases still with at_ | at_ <;> rw [at_] <;> rfl)
      simp [owesAfter, settled]
  | opens owner opened =>
      have kept := opened.listener owner
      have live := (opened.sound sound).listening.mp (by rw [kept]; rfl)
      cases status : left.status <;>
        simp_all [owesAfter, Connection.owes, Status.isOpening, settlement]
  | transfers owner phase transferred =>
      simp [owesAfter, Connection.owes, transferred.listener, owner]
  | ignores => rfl
  | vanishes idle => exact sound.not_owes_of_idle idle
  | abandons live => rfl

theorem settled_or_owed (settled : Option Completion) :
    settled.toList.length + settled.isNone.toNat = 1 := by
  cases settled <;> rfl

/-- Completions are neither lost nor made: what fires and is owed after a call was owed before it
or asked for by it. -/
theorem Step.balance (h : c.Step now request result es left) (sound : c.Sound) (ticket : Ticket) :
    (Event.opened ticket es).length + (left.owes ticket).toNat =
      (Entry.asksToOpen ticket ⟨c, now, request, result, es, left⟩).toNat +
        (c.owes ticket).toNat := by
  rw [h.opened sound, h.owes sound]
  cases h with
  -- A refused open is asked for and completes in one call, whatever was owed before.
  | @startRejected t live | @lookupRefused t idle e =>
      by_cases same : t = ticket <;> simp [due, owesAfter, Entry.asksToOpen, same]
  | starts idle lookup =>
      have settled : c.owes ticket = false := sound.not_owes_of_idle idle
      simp [due, owesAfter, Entry.asksToOpen, settled]
  | _ =>
      cases owed : c.owes ticket <;>
        simp [due, owesAfter, Entry.asksToOpen, owed, settled_or_owed]

namespace Linked

theorem balance (h : Linked c calls last) (sound : c.Sound) (ticket : Ticket) :
    Entry.opensFired ticket calls + (last.owes ticket).toNat =
      Entry.opensAsked ticket calls + (c.owes ticket).toNat := by
  induction h with
  | nil c => rfl
  | cons step later ih =>
      have one := step.balance sound ticket
      have rest := ih (step.sound sound)
      rw [Entry.opensFired_cons, Entry.opensAsked_cons]
      simp only [Entry.opened]
      omega

/-- What fired so far was asked for, and a call fires no more than is owed or asks for. -/
theorem opened_le (h : Linked c calls last) (sound : c.Sound) (settled : c.owes ticket = false)
    (step : last.Step now request result es left) {seen : List Event} (part : seen <+: es) :
    (Event.opened ticket (Entry.eventsOf calls ++ seen)).length ≤
      Entry.opensAsked ticket (calls ++ [⟨last, now, request, result, es, left⟩]) := by
  have sofar := h.balance sound ticket
  have call := step.balance (h.sound sound) ticket
  have fired : (Event.opened ticket seen).length ≤ _ := Event.opened_length_mono part
  rw [settled, Bool.toNat_false, Entry.opensFired] at sofar
  rw [Event.opened_append, List.length_append, Entry.opensAsked_concat]
  omega

end Linked

/-- Over any calls and the drop that ends them as many open completions fire under a ticket as
opens were asked for with it, and never more than were asked for so far. A refused open completes
with an error in the call itself. Else the completion is `ok` in the poll that moves the attempt to
open, an error in the poll that moves it from an opening status to failed, and cancelled in the
close or the drop that finds it opening. -/
theorem opens_complete_once (config : Config) (s : P.State) (turns : List (Turn P))
    (ticket : Ticket) :
    let calls := (idle config : Connection P).history s turns
    Entry.opensFired ticket calls = Entry.opensAsked ticket calls ∧
      ∀ past e later, calls = past ++ e :: later →
        (∀ seen, seen <+: e.events →
          (Event.opened ticket (Entry.eventsOf past ++ seen)).length ≤
            Entry.opensAsked ticket (past ++ [e])) ∧
        (.ok ∈ e.opened ticket ↔
          e.request = some .poll ∧ Entry.attempt past = some ticket ∧
            e.before.status.isOpening ∧ e.after.status = .opened) ∧
        (.error ∈ e.opened ticket ↔
          (e.request = some (.start ticket) ∧ ∃ error, e.result = .error error) ∨
            e.request = some .poll ∧ Entry.attempt past = some ticket ∧
              e.before.status.isOpening ∧ e.after.status = .failed) ∧
        (.cancelled ∈ e.opened ticket ↔
          ((∃ t, e.request = some (.close t)) ∨ e.request = none) ∧
            Entry.attempt past = some ticket ∧ e.before.status.isOpening) := by
  intro calls
  have fresh : (idle config : Connection P).Sound := sound_idle config
  obtain ⟨last, linked, gone⟩ := history_linked fresh s turns
  constructor
  · have balance := linked.balance fresh ticket
    rw [(linked.sound fresh).not_owes_of_idle gone, fresh.not_owes_of_idle rfl] at balance
    exact balance
  · intro past e later split
    have linked : Linked (idle config : Connection P) (past ++ e :: later) last := split ▸ linked
    obtain ⟨before, step, -⟩ := linked.at_
    have sound := before.sound fresh
    have owed : e.before.owes ticket = true ↔
        Entry.attempt past = some ticket ∧ e.before.status.isOpening = true := by
      rw [sound.owes_iff, before.attempt fresh]
      rfl
    rw [Entry.opened, step.opened sound ticket, ok_mem_due, error_mem_due, cancelled_mem_due, owed]
    refine ⟨?_, by simp only [and_assoc], by simp only [and_assoc], .rfl⟩
    intro seen part
    exact before.opened_le fresh (fresh.not_owes_of_idle rfl) step part

/-- A second open under another ticket while the first is at work, and a second attempt that is
closed before it is open. Between them the connection is open, and a send completes. -/
theorem opens_complete_once_reopened :
    let config : Config := { host := "h", port := 1 }
    let s : Script := {}
    let turns : List (Turn Script.platform) :=
      [⟨id, 0, .start 1⟩, ⟨id, 0, .start 2⟩, ⟨id, 0, .poll⟩, ⟨id, 0, .poll⟩, ⟨id, 0, .poll⟩,
        ⟨id, 0, .send [5] 3⟩, ⟨id, 0, .poll⟩, ⟨id, 0, .close 4⟩, ⟨id, 0, .start 5⟩,
        ⟨id, 0, .poll⟩, ⟨id, 0, .close 6⟩]
    let calls := (idle config : Connection Script.platform).history s turns
    Entry.opensFired 1 calls = 1 ∧ Entry.opensFired 2 calls = 1 ∧ Entry.opensFired 5 calls = 1 ∧
      Event.callbacks (Entry.eventsOf calls) =
        [.opened 2 .error, .opened 1 .ok, .sent 3 .ok, .closed 4, .opened 5 .cancelled,
          .closed 6] ∧
      (∃ e ∈ calls, e.request = some (.start 2) ∧ .error ∈ e.opened 2) ∧
      (∃ e ∈ calls, e.request = some .poll ∧ e.after.status = .opened ∧ .ok ∈ e.opened 1) ∧
      ∃ e ∈ calls, e.request = some (.close 6) ∧ .cancelled ∈ e.opened 5 := by
  intro config s turns calls
  have once := opens_complete_once (P := Script.platform) config s turns
  have refused : calls = calls.take 1 ++ calls[1] :: calls.drop 2 := rfl
  have opens : calls = calls.take 4 ++ calls[4] :: calls.drop 5 := rfl
  have closes : calls = calls.take 10 ++ calls[10] :: calls.drop 11 := rfl
  refine ⟨(once 1).1, (once 2).1, (once 5).1, by decide +kernel, ?_, ?_, ?_⟩
  · obtain ⟨-, -, error, -⟩ := (once 2).2 _ _ _ refused
    exact ⟨_, List.getElem_mem _, rfl, error.mpr (.inl ⟨rfl, _, rfl⟩)⟩
  · obtain ⟨-, ok, -⟩ := (once 1).2 _ _ _ opens
    exact ⟨_, List.getElem_mem _, rfl, by decide +kernel, ok.mpr ⟨rfl, by decide +kernel⟩⟩
  · obtain ⟨-, -, -, cancelled⟩ := (once 5).2 _ _ _ closes
    exact ⟨_, List.getElem_mem _, rfl, cancelled.mpr ⟨.inl ⟨6, rfl⟩, by decide +kernel⟩⟩

end Connection
end PolledTls
