import Mathlib.Algebra.Ring.Nat
import Mathlib.Data.List.Basic
import Mathlib.Data.List.Induction
import PolledTls.Outbox.Move
import PolledTls.Proofs.Sends

/-!
A queue that is handled from outside. What it holds and what it fires can be told from what was
done with it: the list of the messages queued, what was taken off and with which result, and what
was accepted of each message while it stood at the head.
-/
namespace PolledTls.Outbox

/-- A move that was made, with the queue it met and what came of it. -/
structure Handling where
  before : Outbox
  ticket : Ticket
  move : Move
  answer : Answer
  fired : List Callback
  after : Outbox

def handle (grants : Nat → Bool) (ticket : Ticket) (o : Outbox) (next : Move) : Handling :=
  let step := o.move grants ticket next
  ⟨o, ticket, next, step.1, step.2.1, step.2.2⟩

namespace Handling

def outcome (step : Handling) : Answer × List Callback × Outbox :=
  (step.answer, step.fired, step.after)

/-- The results given to what was taken off, by the answers: one where a message was found, or as
many as were drained. -/
def results (step : Handling) : List Completion :=
  match step.move, step.answer with
  | .pop result, .popped true => [result]
  | .drain result, .drained count => List.replicate count result
  | _, _ => []

/-- What was accepted of the message with this ticket. -/
def accepted? (ticket : Ticket) (step : Handling) : Option Nat :=
  match step.move, step.answer with
  | .accept count, .accepted _ =>
      if step.before.head?.map (·.ticket) = some ticket then some count else none
  | _, _ => none

/-- The deadline that was asked for the message with this ticket. -/
def armed? (ticket : Ticket) (step : Handling) : Option Deadline :=
  match step.move with
  | .arm now window =>
      if step.before.head?.map (·.ticket) = some ticket then some ⟨now, window⟩ else none
  | _ => none

/-- A move that is for no message. -/
structure Still (step : Handling) : Prop where
  accepted : ∀ ticket, step.accepted? ticket = none
  armed : ∀ ticket, step.armed? ticket = none
  answer : ∀ deadline, step.answer ≠ .armed deadline

end Handling

/-- A queue, the next ticket, and all that was done since it was empty. -/
structure Handled where
  queue : Outbox
  ticket : Ticket
  history : List Handling

def Handled.then (grants : Nat → Bool) (run : Handled) (next : Move) : Handled :=
  let step := run.queue.handle grants run.ticket next
  ⟨step.after, next.nextTicket run.ticket, run.history ++ [step]⟩

/-- Moves made one after the other with a queue that is empty at first. -/
def handled (grants : Nat → Bool) (past : List Move) : Handled :=
  past.foldl (Handled.then grants) ⟨empty, 0, []⟩

def Move.pushed? : Move → Option (List UInt8)
  | .push bytes => some bytes
  | _ => none

/-- A move that is made with the message at the head. -/
def Move.atHead : Move → Bool
  | .head | .accept _ | .arm _ _ => true
  | _ => false

/-- The messages given to a queue, oldest first. -/
def pushed (past : List Move) : List (List UInt8) :=
  past.filterMap Move.pushed?

section

variable (history : List Handling)

/-- The results in the order in which messages were taken off, one for each. -/
def resultsBy : List Completion :=
  history.flatMap (·.results)

def firedBy : List Callback :=
  history.flatMap (·.fired)

def acceptedOf (ticket : Ticket) : List Nat :=
  history.filterMap (·.accepted? ticket)

def armedOf (ticket : Ticket) : List Deadline :=
  history.filterMap (·.armed? ticket)

/-- A message as its history tells it: all but what was accepted of it is left, and its deadline is
the one it was armed with first. -/
def told (entry : List UInt8 × Ticket) : Message where
  payload := .ofList entry.1
  rest := .ofList (entry.1.drop (acceptedOf history entry.2).sum)
  deadline := (armedOf history entry.2).head?
  ticket := entry.2

/-- The messages that have not been taken off, each with its number among all that were given. -/
def remaining (given : List (List UInt8)) : List (List UInt8 × Ticket) :=
  given.zipIdx.drop (resultsBy history).length

end

variable {grants : Nat → Bool} {o left : Outbox} {ticket : Ticket} {next : Move} {past : List Move}
  {step : Handling} {history : List Handling} {given : List (List UInt8)} {m : Message}
  {rest : List Message}

theorem resultsBy_concat (history : List Handling) (step : Handling) :
    resultsBy (history ++ [step]) = resultsBy history ++ step.results := by
  rw [resultsBy, List.flatMap_append, List.flatMap_singleton]
  rfl

theorem firedBy_concat (history : List Handling) (step : Handling) :
    firedBy (history ++ [step]) = firedBy history ++ step.fired := by
  rw [firedBy, List.flatMap_append, List.flatMap_singleton]
  rfl

theorem filterMap_concat {α β : Type} (f : α → Option β) (items : List α) (last : α) :
    (items ++ [last]).filterMap f = items.filterMap f ++ (f last).toList := by
  rw [List.filterMap_append, List.filterMap_cons]
  cases f last <;> rfl

theorem acceptedOf_concat (history : List Handling) (step : Handling) (ticket : Ticket) :
    acceptedOf (history ++ [step]) ticket =
      acceptedOf history ticket ++ (step.accepted? ticket).toList :=
  filterMap_concat ..

theorem armedOf_concat (history : List Handling) (step : Handling) (ticket : Ticket) :
    armedOf (history ++ [step]) ticket =
      armedOf history ticket ++ (step.armed? ticket).toList :=
  filterMap_concat ..

theorem handled_concat (grants : Nat → Bool) (past : List Move) (next : Move) :
    handled grants (past ++ [next]) = (handled grants past).then grants next :=
  List.foldl_concat ..

theorem pushed_concat (past : List Move) (next : Move) :
    pushed (past ++ [next]) = pushed past ++ next.pushed?.toList :=
  filterMap_concat ..

theorem told_concat {entry : List UInt8 × Ticket} (accepted : step.accepted? entry.2 = none)
    (armed : step.armed? entry.2 = none) :
    told (history ++ [step]) entry = told history entry := by
  simp only [told, acceptedOf_concat, armedOf_concat, accepted, armed, Option.toList_none,
    List.append_nil]

theorem map_sent_zipIdx (result : Completion) (first count : Nat) :
    ((List.replicate count result).zipIdx first).map (fun taken => Callback.sent taken.2 taken.1) =
      (List.range' first count).map (Callback.sent · result) := by
  induction count generalizing first with
  | zero => rfl
  | succ count ih =>
      rw [List.replicate_succ, List.zipIdx_cons, List.map_cons, ih, List.range'_succ,
        List.map_cons]

/-- The numbers of the messages that remain go on from the number of those taken off. -/
theorem map_remaining (history : List Handling) (given : List (List UInt8)) :
    (remaining history given).map (·.2) =
      List.range' (resultsBy history).length (given.length - (resultsBy history).length) := by
  rw [remaining, List.map_drop]
  refine (congrArg _ (List.zipIdx_map_snd 0 given)).trans ?_
  rw [List.drop_range', Nat.zero_add, Nat.mul_one]

/-- What a queue holds and has fired, told by its history and by the messages that were given to
it. -/
structure Accounted (given : List (List UInt8)) (history : List Handling) (ticket : Ticket)
    (o : Outbox) : Prop where
  ticket : ticket = given.length
  fired : firedBy history = (resultsBy history).zipIdx.map fun taken => .sent taken.2 taken.1
  within : (resultsBy history).length ≤ given.length
  messages : o.messages = (remaining history given).map (told history)
  /-- Nothing was done for a message before it was there. -/
  unmet : ∀ later, given.length ≤ later → acceptedOf history later = [] ∧ armedOf history later = []
  part : ∀ entry ∈ remaining history given, (acceptedOf history entry.2).sum ≤ entry.1.length
  /-- Whenever a message was armed, the answer was its first deadline. -/
  armed : ∀ step ∈ history, ∀ deadline, step.answer = .armed deadline →
    ∃ m, step.before.head? = some m ∧ (armedOf history m.ticket).head? = some deadline

theorem accounted_empty : Accounted [] [] 0 empty where
  ticket := rfl
  fired := rfl
  within := Nat.le_refl 0
  messages := rfl
  unmet := fun _ _ => ⟨rfl, rfl⟩
  part := fun _ member => nomatch member
  armed := fun _ member => nomatch member

namespace Accounted

theorem ticket_lt (a : Accounted given history ticket o) {entry : List UInt8 × Ticket}
    (member : entry ∈ remaining history given) : entry.2 < given.length := by
  have number : entry.2 ∈ (remaining history given).map (·.2) := List.mem_map_of_mem member
  rw [map_remaining, List.mem_range'_1] at number
  exact Nat.lt_of_lt_of_eq number.2 (Nat.add_sub_of_le a.within)

/-- A move leaves the deadlines answered before it as they are. -/
theorem armed_concat (a : Accounted given history ticket o)
    (answered : ∀ deadline, step.answer = .armed deadline → ∃ m, step.before.head? = some m ∧
      (armedOf (history ++ [step]) m.ticket).head? = some deadline) :
    ∀ made ∈ history ++ [step], ∀ deadline, made.answer = .armed deadline →
      ∃ m, made.before.head? = some m ∧
        (armedOf (history ++ [step]) m.ticket).head? = some deadline := by
  intro made member deadline answer
  rcases List.mem_append.mp member with earlier | last
  -- deadlines are only ever added behind, so the first one stays the first
  · obtain ⟨m, head, first⟩ := a.armed made earlier deadline answer
    refine ⟨m, head, ?_⟩
    rw [armedOf_concat, List.head?_append, first]
    rfl
  · obtain rfl := List.mem_singleton.mp last
    exact answered deadline answer

/-- Messages go off from the front, or none does. -/
theorem takes {stay : List (List UInt8 × Ticket)} (a : Accounted given history ticket o)
    (gone : List (List UInt8 × Ticket)) (result : Completion) (still : step.Still)
    (split : remaining history given = gone ++ stay)
    (fired : step.fired = gone.map fun entry => .sent entry.2 result)
    (results : step.results = List.replicate gone.length result)
    (messages : left.messages = stay.map (told history)) :
    Accounted given (history ++ [step]) ticket left := by
  have untold : told (history ++ [step]) = told history :=
    funext fun entry => told_concat (still.accepted entry.2) (still.armed entry.2)
  have length : (resultsBy (history ++ [step])).length =
      (resultsBy history).length + gone.length := by
    rw [resultsBy_concat, results, List.length_append, List.length_replicate]
  have stays : remaining (history ++ [step]) given = stay := by
    rw [remaining, length, ← List.drop_drop, ← remaining, split, List.drop_left]
  -- those that go have the numbers that come next, and so their places among the results
  have numbers : gone.map (·.2) = List.range' (resultsBy history).length gone.length ∧
      gone.length ≤ given.length - (resultsBy history).length := by
    have all := map_remaining history given
    rw [split, List.map_append] at all
    obtain ⟨count, within, first, -⟩ := List.range'_eq_append_iff.mp all.symm
    have same := congrArg List.length first
    rw [List.length_map, List.length_range'] at same
    exact same ▸ ⟨first, within⟩
  exact
    { ticket := a.ticket
      fired := by
        rw [firedBy_concat, resultsBy_concat, List.zipIdx_append, List.map_append, a.fired, results,
          Nat.zero_add, map_sent_zipIdx, ← numbers.1, List.map_map, fired]
        rfl
      within := by
        have := a.within
        omega
      messages := by rw [stays, untold, messages]
      unmet := by
        intro later beyond
        rw [acceptedOf_concat, armedOf_concat, still.accepted, still.armed]
        exact ⟨(List.append_nil _).trans (a.unmet later beyond).1,
          (List.append_nil _).trans (a.unmet later beyond).2⟩
      part := by
        intro entry member
        rw [acceptedOf_concat, still.accepted, Option.toList_none, List.append_nil]
        rw [stays] at member
        exact a.part entry (split ▸ List.mem_append_right gone member)
      armed := a.armed_concat fun deadline answer => absurd answer (still.answer deadline) }

/-- A move that takes nothing off and is for no message. -/
theorem rests (a : Accounted given history ticket o) (still : step.Still) (fired : step.fired = [])
    (results : step.results = []) : Accounted given (history ++ [step]) ticket o :=
  a.takes [] .ok still rfl fired results a.messages

/-- A message comes behind those that are there. -/
theorem pushes {bytes : List UInt8} (a : Accounted given history ticket o) (still : step.Still)
    (fired : step.fired = []) (results : step.results = [])
    (messages : left.messages = o.messages ++ [.fresh bytes ticket]) :
    Accounted (given ++ [bytes]) (history ++ [step]) (ticket + 1) left := by
  have rested := a.rests still fired results
  have grown : remaining (history ++ [step]) (given ++ [bytes]) =
      remaining (history ++ [step]) given ++ [(bytes, given.length)] := by
    rw [remaining, List.zipIdx_append, List.drop_append_of_le_length, Nat.zero_add]
    · rfl
    · rw [List.length_zipIdx]
      exact rested.within
  obtain ⟨unsent, undated⟩ := rested.unmet given.length (Nat.le_refl _)
  exact
    { ticket := by rw [a.ticket, List.length_append, List.length_singleton]
      fired := rested.fired
      within := by
        rw [List.length_append]
        exact Nat.le_trans rested.within (Nat.le_add_right _ _)
      messages := by
        have last : told (history ++ [step]) (bytes, given.length) = .fresh bytes ticket := by
          rw [told, unsent, undated, ← a.ticket]
          rfl
        rw [messages, rested.messages, grown, List.map_append, List.map_singleton, last]
      unmet := by
        intro later beyond
        rw [List.length_append] at beyond
        exact rested.unmet later (Nat.le_of_add_right_le beyond)
      part := by
        intro entry member
        rw [grown] at member
        rcases List.mem_append.mp member with earlier | last
        · exact rested.part entry earlier
        · obtain rfl := List.mem_singleton.mp last
          rw [unsent]
          exact Nat.zero_le _
      armed := rested.armed }

/-- What is done for the message at the head leaves the others as they are. -/
theorem serves {first : List UInt8 × Ticket} {later : List (List UInt8 × Ticket)}
    (a : Accounted given history ticket o) (split : remaining history given = first :: later)
    (accepted : ∀ number, number ≠ first.2 → step.accepted? number = none)
    (armed : ∀ number, number ≠ first.2 → step.armed? number = none)
    (answered : ∀ deadline, step.answer = .armed deadline → ∃ m, step.before.head? = some m ∧
      (armedOf (history ++ [step]) m.ticket).head? = some deadline)
    (fired : step.fired = []) (results : step.results = [])
    (part : (acceptedOf (history ++ [step]) first.2).sum ≤ first.1.length)
    (messages : left.messages = told (history ++ [step]) first :: o.messages.tail) :
    Accounted given (history ++ [step]) ticket left := by
  have same : resultsBy (history ++ [step]) = resultsBy history := by
    rw [resultsBy_concat, results, List.append_nil]
  have stays : remaining (history ++ [step]) given = first :: later := by
    rw [remaining, same, ← remaining, split]
  -- numbers rise along what remains, so that none of the others is meant
  have others : ∀ entry ∈ later, entry.2 ≠ first.2 := by
    intro entry member
    have numbers := map_remaining history given
    rw [split, List.map_cons] at numbers
    obtain ⟨-, -, numbers⟩ := List.range'_eq_cons_iff.mp numbers.symm
    have number : entry.2 ∈ later.map (·.2) := List.mem_map_of_mem member
    rw [numbers, List.mem_range'_1] at number
    exact Nat.ne_of_gt number.1
  exact
    { ticket := a.ticket
      fired := by rw [firedBy_concat, fired, List.append_nil, a.fired, same]
      within := same ▸ a.within
      messages := by
        have kept : later.map (told (history ++ [step])) = later.map (told history) :=
          List.map_congr_left fun entry member =>
            told_concat (accepted _ (others entry member)) (armed _ (others entry member))
        rw [messages, stays, List.map_cons, kept, a.messages, split]
        rfl
      unmet := by
        intro number beyond
        have headed : first.2 < given.length := a.ticket_lt (split ▸ List.mem_cons_self)
        have other : number ≠ first.2 := Nat.ne_of_gt (Nat.lt_of_lt_of_le headed beyond)
        rw [acceptedOf_concat, armedOf_concat, accepted number other, armed number other]
        exact ⟨(List.append_nil _).trans (a.unmet number beyond).1,
          (List.append_nil _).trans (a.unmet number beyond).2⟩
      part := by
        intro entry member
        rw [stays] at member
        rcases List.mem_cons.mp member with rfl | member
        · exact part
        · rw [acceptedOf_concat, accepted _ (others entry member), Option.toList_none,
            List.append_nil]
          exact a.part entry (split ▸ List.mem_cons_of_mem first member)
      armed := a.armed_concat answered }

theorem whole (a : Accounted given history ticket o) :
    (firedBy history).filterMap Callback.sent? ++ o.tickets = List.range given.length := by
  have taken : (firedBy history).filterMap Callback.sent? =
      List.range' 0 (resultsBy history).length := by
    rw [a.fired, List.filterMap_map, ← List.zipIdx_map_snd 0 (resultsBy history)]
    exact congrFun List.filterMap_eq_map _
  have waiting : o.tickets = List.range' (resultsBy history).length
      (given.length - (resultsBy history).length) := by
    rw [tickets, a.messages, List.map_map]
    exact map_remaining history given
  have all := List.range'_append_1 (s := 0) (m := (resultsBy history).length)
    (n := given.length - (resultsBy history).length)
  rw [Nat.zero_add, Nat.add_sub_of_le a.within] at all
  rw [taken, waiting, all, List.range_eq_range']

end Accounted

theorem push_granted (granted : ∀ size, grants size = true) (o : Outbox) (bytes : List UInt8)
    (ticket : Ticket) : o.push grants bytes ticket = .ok ⟨o.messages ++ [.fresh bytes ticket]⟩ := by
  simp [push, granted]

theorem handle_push (granted : ∀ size, grants size = true) (o : Outbox) (bytes : List UInt8)
    (ticket : Ticket) :
    o.handle grants ticket (.push bytes) =
      ⟨o, ticket, .push bytes, .queued (.ok ()), [], ⟨o.messages ++ [.fresh bytes ticket]⟩⟩ := by
  simp only [handle, move, push_granted granted]

theorem handle_accept {count : Nat} (fits : count ≤ m.unsent) :
    handle grants ticket ⟨m :: rest⟩ (.accept count) =
      ⟨⟨m :: rest⟩, ticket, .accept count, .accepted (m.unsent - count), [],
        ⟨m.accept count :: rest⟩⟩ := by
  simp only [handle, move, head?, List.head?_cons, if_pos fits]
  rfl

theorem handle_overrun {count : Nat} (excess : m.unsent < count) :
    handle grants ticket ⟨m :: rest⟩ (.accept count) =
      ⟨⟨m :: rest⟩, ticket, .accept count, .overrun count m.unsent, [], ⟨m :: rest⟩⟩ := by
  simp only [handle, move, head?, List.head?_cons, if_neg (Nat.not_le.mpr excess)]

theorem handle_arm (now : Instant) (window : Duration) :
    handle grants ticket ⟨m :: rest⟩ (.arm now window) =
      ⟨⟨m :: rest⟩, ticket, .arm now window, .armed (m.deadlineAt now window), [],
        ⟨m.arm now window :: rest⟩⟩ :=
  rfl

namespace Accounted

theorem unsent_told {entry : List UInt8 × Ticket} :
    (told history entry).unsent = entry.1.length - (acceptedOf history entry.2).sum :=
  List.length_drop

/-- The message at the head, among those that were given. -/
theorem head (a : Accounted given history ticket ⟨m :: rest⟩) :
    ∃ first later, remaining history given = first :: later ∧ told history first = m ∧
      later.map (told history) = rest :=
  List.map_eq_cons_iff.mp a.messages.symm

theorem accepts {count : Nat} (a : Accounted given history ticket ⟨m :: rest⟩)
    (fits : count ≤ m.unsent) :
    Accounted given (history ++ [handle grants ticket ⟨m :: rest⟩ (.accept count)]) ticket
      ⟨m.accept count :: rest⟩ := by
  obtain ⟨first, later, split, rfl, -⟩ := a.head
  have here := a.part first (split ▸ List.mem_cons_self)
  rw [unsent_told] at fits
  rw [handle_accept (by rwa [unsent_told])]
  generalize made : Handling.mk .. = step
  have accepted : ∀ number, step.accepted? number =
      if first.2 = number then some count else none := by
    subst made
    intro number
    simp only [Handling.accepted?, head?, List.head?_cons, Option.map_some, Option.some.injEq]
    rfl
  have sum : (acceptedOf (history ++ [step]) first.2).sum =
      (acceptedOf history first.2).sum + count := by
    rw [acceptedOf_concat, accepted, if_pos rfl, Option.toList_some, List.sum_append,
      List.sum_singleton]
  have armed : ∀ number, step.armed? number = none := fun number => made ▸ rfl
  refine a.serves split (fun number other => ?_) (fun number other => armed number) ?_ ?_ ?_ ?_ ?_
  · rw [accepted, if_neg other.symm]
  · intro deadline answer
    subst made
    cases answer
  · exact made ▸ rfl
  · exact made ▸ rfl
  · omega
  · have same : told (history ++ [step]) first = (told history first).accept count := by
      have dates : armedOf (history ++ [step]) first.2 = armedOf history first.2 := by
        rw [armedOf_concat, armed, Option.toList_none, List.append_nil]
      have bytes : first.1.drop (acceptedOf (history ++ [step]) first.2).sum =
          (first.1.drop (acceptedOf history first.2).sum).drop count := by
        rw [sum, List.drop_drop]
      rw [told, dates, Message.accept, told, Message.mk.injEq]
      exact ⟨rfl, Bytes.ext bytes, rfl, rfl⟩
    rw [same]
    rfl

theorem arms (a : Accounted given history ticket ⟨m :: rest⟩) (now : Instant)
    (window : Duration) :
    Accounted given (history ++ [handle grants ticket ⟨m :: rest⟩ (.arm now window)]) ticket
      ⟨m.arm now window :: rest⟩ := by
  obtain ⟨first, later, split, rfl, -⟩ := a.head
  rw [handle_arm]
  -- from here on only what is remembered of the move counts
  generalize made : Handling.mk .. = step
  have armed : ∀ number, step.armed? number =
      if first.2 = number then some ⟨now, window⟩ else none := by
    subst made
    intro number
    simp only [Handling.armed?, head?, List.head?_cons, Option.map_some, Option.some.injEq]
    rfl
  have accepted : ∀ number, step.accepted? number = none := fun number => made ▸ rfl
  have dates : (armedOf (history ++ [step]) first.2).head? =
      some ((told history first).deadlineAt now window) := by
    rw [armedOf_concat, armed, if_pos rfl, Option.toList_some, List.head?_append, List.head?_cons,
      Message.deadlineAt, told]
    cases (armedOf history first.2).head? <;> rfl
  have sent : acceptedOf (history ++ [step]) first.2 = acceptedOf history first.2 := by
    rw [acceptedOf_concat, accepted, Option.toList_none, List.append_nil]
  refine a.serves split (fun number other => accepted number) (fun number other => ?_)
    ?_ ?_ ?_ ?_ ?_
  · rw [armed, if_neg other.symm]
  · intro deadline answer
    subst made
    cases answer
    exact ⟨told history first, rfl, dates⟩
  · exact made ▸ rfl
  · exact made ▸ rfl
  · rw [sent]
    exact a.part first (split ▸ List.mem_cons_self)
  · have same : told (history ++ [step]) first = (told history first).arm now window := by
      rw [told, dates, sent]
      rfl
    rw [same]
    rfl

theorem handle_other (a : Accounted given history ticket o) (other : next.pushed? = none) :
    Accounted given (history ++ [o.handle grants ticket next]) ticket
      (o.handle grants ticket next).after := by
  cases next with
  | push bytes => cases other
  | pop result =>
      obtain ⟨_ | ⟨m, rest⟩⟩ := o
      · exact a.rests ⟨fun _ => rfl, fun _ => rfl, nofun⟩ rfl rfl
      · obtain ⟨first, later, split, rfl, rfl⟩ := a.head
        exact a.takes [first] result ⟨fun _ => rfl, fun _ => rfl, nofun⟩ split rfl rfl rfl
  | drain result =>
      have counted : (o.handle grants ticket (.drain result)).results =
          List.replicate (remaining history given).length result := by
        change List.replicate o.messages.length result = _
        rw [a.messages, List.length_map]
      have fired : (o.handle grants ticket (.drain result)).fired =
          (remaining history given).map fun entry => .sent entry.2 result := by
        change (o.drain result).1 = _
        rw [drain_eq, a.messages, List.map_map]
        rfl
      exact a.takes (remaining history given) result ⟨fun _ => rfl, fun _ => rfl, nofun⟩
        (List.append_nil _).symm fired counted (messages_drain o result)
  | head =>
      obtain ⟨_ | ⟨m, rest⟩⟩ := o <;>
        exact a.rests ⟨fun _ => rfl, fun _ => rfl, nofun⟩ rfl rfl
  | accept count =>
      obtain ⟨_ | ⟨m, rest⟩⟩ := o
      · exact a.rests ⟨fun _ => rfl, fun _ => rfl, nofun⟩ rfl rfl
      · by_cases fits : count ≤ m.unsent
        · have after : (handle grants ticket ⟨m :: rest⟩ (.accept count)).after =
              ⟨m.accept count :: rest⟩ := by rw [handle_accept fits]
          exact after ▸ a.accepts fits
        · rw [handle_overrun (Nat.not_le.mp fits)]
          exact a.rests ⟨fun _ => rfl, fun _ => rfl, nofun⟩ rfl rfl
  | arm now window =>
      obtain ⟨_ | ⟨m, rest⟩⟩ := o
      · exact a.rests ⟨fun _ => rfl, fun _ => rfl, nofun⟩ rfl rfl
      · exact a.arms now window

/-- Whatever is done with a queue, what is told of it goes on holding. -/
theorem handle (granted : ∀ size, grants size = true) (a : Accounted given history ticket o)
    (next : Move) :
    Accounted (given ++ next.pushed?.toList) (history ++ [o.handle grants ticket next])
      (next.nextTicket ticket) (o.handle grants ticket next).after := by
  cases next with
  | push bytes =>
      rw [handle_push granted]
      exact a.pushes ⟨fun _ => rfl, fun _ => rfl, nofun⟩ rfl rfl rfl
  | _ => exact (List.append_nil given).symm ▸ a.handle_other rfl

end Accounted

theorem accounted_handled (granted : ∀ size, grants size = true) (past : List Move) :
    Accounted (pushed past) (handled grants past).history (handled grants past).ticket
      (handled grants past).queue := by
  induction past using List.reverseRecOn with
  | nil => exact accounted_empty
  | append_singleton past next ih =>
      rw [pushed_concat, handled_concat]
      exact ih.handle granted next

/-- What is remembered of the moves is what they come to. -/
theorem outcomes_foldl (grants : Nat → Bool) (list : List Move) (run : Handled) :
    (list.foldl (Handled.then grants) run).history.map Handling.outcome =
      run.history.map Handling.outcome ++ moves grants run.ticket run.queue list := by
  induction list generalizing run with
  | nil => exact (List.append_nil _).symm
  | cons next rest ih =>
      rw [List.foldl_cons, ih, Handled.then, List.map_append, List.append_assoc]
      rfl

theorem moves_handled (grants : Nat → Bool) (past : List Move) :
    (handled grants past).history.map (·.move) = past := by
  induction past using List.reverseRecOn with
  | nil => rfl
  | append_singleton past next ih =>
      rw [handled_concat, Handled.then, List.map_append, ih]
      rfl

/-- Each move was made with the queue it met. -/
theorem handle_of_mem (h : step ∈ (handled grants past).history) :
    step = step.before.handle grants step.ticket step.move := by
  induction past using List.reverseRecOn with
  | nil => cases h
  | append_singleton past next ih =>
      rw [handled_concat] at h
      rcases List.mem_append.mp h with earlier | last
      · exact ih earlier
      · obtain rfl := List.mem_singleton.mp last
        rfl

/-- All that a queue holds, answers and fires, told by what was done with it. -/
structure Recounts (grants : Nat → Bool) (past : List Move) (run : Handled) : Prop where
  moves : run.history.map (·.move) = past
  outcomes : run.history.map Handling.outcome = Outbox.moves grants 0 empty past
  /-- Messages complete in the order in which they were given, none of them twice, each with the
  result it was taken off with. To drop the queue in the end completes no more. -/
  fired : firedBy run.history ++ run.queue.discard =
    (resultsBy run.history).zipIdx.map fun taken => .sent taken.2 taken.1
  /-- Those that completed and those still there are all that were given. -/
  whole : (firedBy run.history).filterMap Callback.sent? ++ run.queue.tickets =
    List.range (pushed past).length
  messages : run.queue.messages = (remaining run.history (pushed past)).map (told run.history)
  unsent : ∀ m ∈ run.queue.messages, m.unsent + (acceptedOf run.history m.ticket).sum = m.size
  rest : ∀ m ∈ run.queue.messages, m.rest.toList = m.payload.toList.drop (m.size - m.unsent)
  popped : ∀ step ∈ run.history, ∀ result, step.move = .pop result →
    (step.answer = .popped (!step.before.isEmpty) ∧
      step.after.messages = step.before.messages.tail)
  drained : ∀ step ∈ run.history, ∀ result, step.move = .drain result →
    (step.answer = .drained step.before.size ∧ step.after.messages = [])
  accepted : ∀ step ∈ run.history, ∀ count, step.move = .accept count →
    ∀ m, step.before.head? = some m →
      if count ≤ m.unsent then
        step.answer = .accepted (m.unsent - count) ∧ step.after.head? = some (m.accept count)
      else step.answer = .overrun count m.unsent ∧ step.after = step.before
  /-- However often a message is armed, the answer is the first deadline. -/
  armed : ∀ step ∈ run.history, ∀ now window, step.move = .arm now window →
    ∀ m, step.before.head? = some m →
      ∃ deadline, (armedOf run.history m.ticket).head? = some deadline ∧
        step.answer = .armed deadline
  /-- What is done with the head changes no other message and no order. -/
  others : ∀ step ∈ run.history, step.move.atHead →
    step.fired = [] ∧ step.after.messages.tail = step.before.messages.tail ∧
      step.after.tickets = step.before.tickets

theorem accept_recounted {count : Nat} (head : o.head? = some m) :
    if count ≤ m.unsent then
      (o.handle grants ticket (.accept count)).answer = .accepted (m.unsent - count) ∧
        (o.handle grants ticket (.accept count)).after.head? = some (m.accept count)
    else
      (o.handle grants ticket (.accept count)).answer = .overrun count m.unsent ∧
        (o.handle grants ticket (.accept count)).after = o := by
  obtain ⟨_ | ⟨first, rest⟩⟩ := o
  · cases head
  · obtain rfl : first = m := Option.some.inj head
    split
    case isTrue fits =>
      rw [handle_accept fits]
      exact ⟨rfl, rfl⟩
    case isFalse excess =>
      rw [handle_overrun (Nat.not_le.mp excess)]
      exact ⟨rfl, rfl⟩

/-- A move at the head fires nothing and leaves the other messages where they are. -/
theorem handle_atHead (at_head : next.atHead) :
    (o.handle grants ticket next).fired = [] ∧
      (o.handle grants ticket next).after.messages.tail = o.messages.tail ∧
      (o.handle grants ticket next).after.tickets = o.tickets := by
  obtain ⟨_ | ⟨m, rest⟩⟩ := o
  · cases next with
    | head | accept | arm => exact ⟨rfl, rfl, rfl⟩
    | push | pop | drain => cases at_head
  · cases next with
    | head | arm => exact ⟨rfl, rfl, rfl⟩
    | accept count =>
        by_cases fits : count ≤ m.unsent
        · rw [handle_accept fits]
          exact ⟨rfl, rfl, rfl⟩
        · rw [handle_overrun (Nat.not_le.mp fits)]
          exact ⟨rfl, rfl, rfl⟩
    | push | pop | drain => cases at_head

/-- Whatever moves are made, as long as there is memory, the queue is the list of the messages that
were given to it and not taken off, each as far as it was accepted and with its first deadline. -/
theorem queue_recounts_its_past (granted : ∀ size, grants size = true) (past : List Move) :
    Recounts grants past (handled grants past) := by
  have a := accounted_handled granted past
  have told_of_mem : ∀ m ∈ (handled grants past).queue.messages,
      ∃ entry ∈ remaining (handled grants past).history (pushed past),
        told (handled grants past).history entry = m :=
    fun m member => List.mem_map.mp (a.messages ▸ member)
  exact
    { moves := moves_handled grants past
      outcomes := outcomes_foldl grants past ⟨empty, 0, []⟩
      fired := by rw [discard_eq_nil, List.append_nil, a.fired]
      whole := a.whole
      messages := a.messages
      unsent := by
        intro m member
        obtain ⟨entry, there, rfl⟩ := told_of_mem m member
        rw [Accounted.unsent_told]
        exact Nat.sub_add_cancel (a.part entry there)
      rest := by
        intro m member
        obtain ⟨entry, there, rfl⟩ := told_of_mem m member
        rw [Accounted.unsent_told]
        exact congrArg entry.1.drop (Nat.sub_sub_self (a.part entry there)).symm
      popped := by
        intro step member result move
        rw [handle_of_mem member, move]
        exact ⟨rfl, messages_pop step.before result⟩
      drained := by
        intro step member result move
        rw [handle_of_mem member, move]
        exact ⟨rfl, messages_drain step.before result⟩
      accepted := by
        intro step member count move m head
        rw [handle_of_mem member, move]
        exact accept_recounted head
      armed := by
        intro step member now window move m head
        have answer : step.answer = .armed (m.deadlineAt now window) := by
          rw [handle_of_mem member, move]
          simp only [handle, Outbox.move, head]
        obtain ⟨m', head', first⟩ := a.armed step member _ answer
        obtain rfl : m' = m := Option.some.inj (head'.symm.trans head)
        exact ⟨_, first, answer⟩
      others := by
        intro step member at_head
        rw [handle_of_mem member]
        exact handle_atHead at_head }

/-- Two messages: one armed twice, accepted in part and overrun, then popped, the other drained. -/
def mixed : List Move :=
  [.push [1, 2, 3], .arm 5 10, .accept 2, .accept 4, .push [9], .arm 7 20, .pop .error,
    .drain .cancelled, .pop .ok, .drain .ok]

theorem queue_recounts_its_past_mixed :
    Recounts (fun _ => true) mixed (handled (fun _ => true) mixed) ∧
      (handled (fun _ => true) mixed).history.map (·.answer) =
        [.queued (.ok ()), .armed ⟨5, 10⟩, .accepted 1, .overrun 4 1, .queued (.ok ()),
          .armed ⟨5, 10⟩, .popped true, .drained 1, .popped false, .drained 0] ∧
      firedBy (handled (fun _ => true) mixed).history = [.sent 0 .error, .sent 1 .cancelled] :=
  ⟨queue_recounts_its_past (fun _ => rfl) mixed, rfl, rfl⟩

end PolledTls.Outbox
