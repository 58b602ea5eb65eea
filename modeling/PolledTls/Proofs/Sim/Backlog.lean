import Mathlib.Algebra.Ring.Nat
import Mathlib.Logic.Function.Iterate
import PolledTls.Event

/-!
How messages fall into pieces, and after how many polls each of them is through when every poll
sends one piece of the oldest.
-/
namespace PolledTls

namespace Sim

/-- How many pieces of at most `limit` something of that size falls into. -/
def pieces (limit size : Nat) : Nat :=
  (size + limit - 1) / limit

/-- How many polls it takes to send so much. What is empty takes one too. -/
def rounds (limit size : Nat) : Nat :=
  max 1 (pieces limit size)

/-- What is offered piece by piece, and how much of it is taken. -/
def cuts (limit size : Nat) : List (Nat × Nat) :=
  (List.range (pieces limit size)).map fun i => (size - i * limit, min limit (size - i * limit))

/-- How many polls it takes to send messages one after the other. -/
def due (limit : Nat) (messages : List (List UInt8)) : Nat :=
  (messages.map fun bytes => rounds limit bytes.length).sum

variable {limit size : Nat}

theorem pieces_zero (positive : limit ≠ 0) : pieces limit 0 = 0 :=
  Nat.div_eq_of_lt (by omega)

theorem pieces_of_pos (positive : limit ≠ 0) (some : size ≠ 0) :
    pieces limit size = pieces limit (size - limit) + 1 := by
  have first : size + limit - 1 = size - 1 + limit := by omega
  rw [pieces, first, Nat.add_div_right _ (Nat.pos_of_ne_zero positive), pieces]
  rcases Nat.lt_or_ge size limit with short | long
  · rw [Nat.div_eq_of_lt (by omega), Nat.div_eq_of_lt (by omega)]
  · congr 2
    omega

theorem rounds_of_le (positive : limit ≠ 0) (short : size ≤ limit) : rounds limit size = 1 := by
  rcases Nat.eq_zero_or_pos size with rfl | some
  · rw [rounds, pieces_zero positive]
    rfl
  · rw [rounds, pieces_of_pos positive (Nat.ne_of_gt some), Nat.sub_eq_zero_of_le short,
      pieces_zero positive]
    rfl

theorem rounds_of_gt (positive : limit ≠ 0) (long : limit < size) :
    rounds limit size = rounds limit (size - limit) + 1 := by
  have some : size - limit ≠ 0 := by omega
  rw [rounds, rounds, pieces_of_pos positive (by omega), pieces_of_pos positive some]
  omega

theorem cuts_zero (positive : limit ≠ 0) : cuts limit 0 = [] := by
  rw [cuts, pieces_zero positive]
  rfl

theorem cuts_of_pos (positive : limit ≠ 0) (some : size ≠ 0) :
    cuts limit size = (size, min limit size) :: cuts limit (size - limit) := by
  rw [cuts, pieces_of_pos positive some, List.range_succ_eq_map, List.map_cons, List.map_map]
  congr 1
  · simp
  · refine List.map_congr_left fun i _ => ?_
    have shift : size - (i + 1) * limit = size - limit - i * limit := by
      rw [Nat.succ_mul]
      omega
    simp [shift]

theorem due_cons (bytes : List UInt8) (rest : List (List UInt8)) :
    due limit (bytes :: rest) = rounds limit bytes.length + due limit rest := by
  rw [due, List.map_cons, List.sum_cons]
  rfl

/-- What waits to be sent, the head first: the bytes that have not left, and the ticket. -/
abbrev Backlog := List (List UInt8 × Ticket)

namespace Backlog

/-- The backlog after a poll that sends at most so much. -/
def pump (limit : Nat) : Backlog → Backlog
  | [] => []
  | (bytes, ticket) :: rest =>
    if bytes.length ≤ limit then rest else (bytes.drop limit, ticket) :: rest

/-- What completes in such a poll. -/
def finished (limit : Nat) : Backlog → List (Ticket × Completion)
  | [] => []
  | (bytes, ticket) :: _ => if bytes.length ≤ limit then [(ticket, .ok)] else []

/-- How many polls it takes for all that waits to be sent. -/
def due (limit : Nat) (queue : Backlog) : Nat :=
  Sim.due limit (queue.map Prod.fst)

variable {queue rest : Backlog} {bytes : List UInt8} {ticket : Ticket}

theorem pump_of_le (short : bytes.length ≤ limit) : pump limit ((bytes, ticket) :: rest) = rest :=
  if_pos short

theorem pump_of_gt (long : limit < bytes.length) :
    pump limit ((bytes, ticket) :: rest) = (bytes.drop limit, ticket) :: rest :=
  if_neg (Nat.not_le.mpr long)

/-- A poll takes its bytes off the front of all that waits. -/
theorem take_append_pump (bytes : List UInt8) (ticket : Ticket) (rest : Backlog) :
    bytes.take limit ++ ((pump limit ((bytes, ticket) :: rest)).map Prod.fst).flatten =
      (((bytes, ticket) :: rest).map Prod.fst).flatten := by
  rw [List.map_cons, List.flatten_cons]
  rcases Nat.lt_or_ge limit bytes.length with long | short
  · rw [pump_of_gt long, List.map_cons, List.flatten_cons, ← List.append_assoc,
      List.take_append_drop]
  · rw [pump_of_le short, List.take_of_length_le short]

/-- A poll makes the first of all the writes that are ahead. -/
theorem cut_cons_pump (positive : limit ≠ 0) (some : bytes.length ≠ 0) (ticket : Ticket)
    (rest : Backlog) :
    (bytes.length, min limit bytes.length) ::
        ((pump limit ((bytes, ticket) :: rest)).map Prod.fst).flatMap
          (fun bytes => cuts limit bytes.length) =
      (((bytes, ticket) :: rest).map Prod.fst).flatMap (fun bytes => cuts limit bytes.length) := by
  rw [List.map_cons, List.flatMap_cons, cuts_of_pos positive some, List.cons_append]
  congr 1
  rcases Nat.lt_or_ge limit bytes.length with long | short
  · rw [pump_of_gt long, List.map_cons, List.flatMap_cons, List.length_drop]
  · rw [pump_of_le short, Nat.sub_eq_zero_of_le short, cuts_zero positive]
    rfl

theorem due_cons (head : List UInt8 × Ticket) (rest : Backlog) :
    due limit (head :: rest) = rounds limit head.1.length + due limit rest := by
  rw [due, List.map_cons, Sim.due_cons]
  rfl

/-- The head has left after as many polls as it takes rounds. -/
theorem iterate_pump_head (positive : limit ≠ 0) (bytes : List UInt8) (ticket : Ticket)
    (rest : Backlog) :
    (pump limit)^[rounds limit bytes.length] ((bytes, ticket) :: rest) = rest := by
  induction size : bytes.length using Nat.strongRecOn generalizing bytes with
  | _ size ih =>
      subst size
      rcases Nat.lt_or_ge limit bytes.length with long | short
      · rw [rounds_of_gt positive long, Function.iterate_succ_apply, pump_of_gt long]
        exact ih _ (Nat.sub_lt (by omega) (by omega)) _ List.length_drop
      · rw [rounds_of_le positive short]
        exact pump_of_le short

/-- After as many polls as the first messages take, these have left. -/
theorem iterate_pump_due (positive : limit ≠ 0) (queue : Backlog) (count : Nat) :
    (pump limit)^[due limit (queue.take count)] queue = queue.drop count := by
  induction queue generalizing count with
  | nil =>
      rw [List.take_nil, List.drop_nil]
      rfl
  | cons head rest ih =>
      cases count with
      | zero => rfl
      | succ count =>
          rw [List.take_succ_cons, due_cons, Nat.add_comm, Function.iterate_add_apply,
            iterate_pump_head positive, ih, List.drop_succ_cons]

/-- Whether what is done is a message that has waited for just so many polls, its own included. -/
def Completes (limit : Nat) (queue : Backlog) (polls : Nat) (done : Ticket × Completion) : Prop :=
  done.2 = .ok ∧
    ∃ i, (queue.map Prod.snd)[i]? = some done.1 ∧ polls = due limit (queue.take (i + 1))

variable {polls : Nat} {done : Ticket × Completion}

theorem due_take_succ (head : List UInt8 × Ticket) (rest : Backlog) (i : Nat) :
    due limit ((head :: rest).take (i + 1)) =
      rounds limit head.1.length + due limit (rest.take i) := by
  rw [List.take_succ_cons, due_cons]

theorem not_completes_nil (limit polls : Nat) (done : Ticket × Completion) :
    ¬ Completes limit [] polls done := by
  rintro ⟨-, i, nowhere, -⟩
  cases nowhere

theorem not_completes_zero (limit : Nat) (queue : Backlog) (done : Ticket × Completion) :
    ¬ Completes limit queue 0 done := by
  rintro ⟨-, i, there, none⟩
  cases queue with
  | nil => cases there
  | cons head rest =>
      have some : 1 ≤ rounds limit head.1.length := Nat.le_max_left _ _
      rw [due_take_succ] at none
      omega

/-- A head that fits into one piece completes in the first poll, and the others one poll later than
without it. -/
theorem completes_of_le (positive : limit ≠ 0) (short : bytes.length ≤ limit) :
    Completes limit ((bytes, ticket) :: rest) (polls + 1) done ↔
      polls = 0 ∧ done = (ticket, .ok) ∨ Completes limit rest polls done := by
  have one (i : Nat) : due limit (((bytes, ticket) :: rest).take (i + 1)) =
      due limit (rest.take i) + 1 := by
    rw [due_take_succ, rounds_of_le positive short, Nat.add_comm]
  constructor
  · rintro ⟨ok, _ | i, there, when⟩
    · rw [one] at when
      exact .inl ⟨Nat.succ.inj when, Prod.ext (Option.some.inj there).symm ok⟩
    · rw [one] at when
      exact .inr ⟨ok, i, there, Nat.succ.inj when⟩
  · rintro (⟨rfl, rfl⟩ | ⟨ok, i, there, when⟩)
    · exact ⟨rfl, 0, rfl, by rw [one]; rfl⟩
    · exact ⟨ok, i + 1, there, by rw [one, when]⟩

/-- A head that does not fit keeps all waiting for one poll more than what is left of it. -/
theorem completes_of_gt (positive : limit ≠ 0) (long : limit < bytes.length) :
    Completes limit ((bytes, ticket) :: rest) (polls + 1) done ↔
      Completes limit ((bytes.drop limit, ticket) :: rest) polls done := by
  have more (i : Nat) : due limit (((bytes, ticket) :: rest).take (i + 1)) =
      due limit (((bytes.drop limit, ticket) :: rest).take (i + 1)) + 1 := by
    rw [due_take_succ, due_take_succ, rounds_of_gt positive long, List.length_drop]
    omega
  simp only [Completes, more, Nat.succ.injEq, List.map_cons]

/-- A message completes in the last of the polls that it and the ones before it take. -/
theorem mem_finished_iff (positive : limit ≠ 0) (queue : Backlog) (count : Nat) :
    done ∈ finished limit ((pump limit)^[count] queue) ↔
      Completes limit queue (count + 1) done := by
  induction count generalizing queue with
  | zero =>
      rcases queue with _ | ⟨⟨bytes, ticket⟩, rest⟩
      · simp [finished, not_completes_nil]
      · rcases Nat.lt_or_ge limit bytes.length with long | short
        · rw [completes_of_gt positive long]
          have none := not_completes_zero limit ((bytes.drop limit, ticket) :: rest) done
          simp [finished, none, Nat.not_le.mpr long]
        · rw [completes_of_le positive short]
          have none := not_completes_zero limit rest done
          simp [finished, none, short]
  | succ count ih =>
      rw [Function.iterate_succ_apply, ih]
      rcases queue with _ | ⟨⟨bytes, ticket⟩, rest⟩
      · simp [pump, not_completes_nil]
      · rcases Nat.lt_or_ge limit bytes.length with long | short
        · rw [completes_of_gt positive long, pump_of_gt long]
        · rw [completes_of_le positive short, pump_of_le short]
          simp

/-! Messages that are numbered in order. -/

theorem due_take_zipIdx (limit first count : Nat) (messages : List (List UInt8)) :
    due limit ((messages.zipIdx first).take count) = Sim.due limit (messages.take count) := by
  rw [due, List.map_take, List.zipIdx_map_fst]

theorem completes_zipIdx (limit first : Nat) (messages : List (List UInt8)) :
    Completes limit (messages.zipIdx first) polls done ↔
      ∃ i < messages.length, done = (first + i, .ok) ∧
        polls = Sim.due limit (messages.take (i + 1)) := by
  rw [Completes, List.zipIdx_map_snd]
  constructor
  · rintro ⟨ok, i, there, when⟩
    obtain ⟨inside, number⟩ := List.getElem?_eq_some_iff.mp there
    rw [List.length_range'] at inside
    rw [List.getElem_range', Nat.one_mul] at number
    rw [due_take_zipIdx] at when
    exact ⟨i, inside, Prod.ext number.symm ok, when⟩
  · rintro ⟨i, inside, rfl, when⟩
    refine ⟨rfl, i, ?_, when.trans (due_take_zipIdx limit first _ messages).symm⟩
    rw [List.getElem?_range' inside, Nat.one_mul]

end Backlog
end Sim
end PolledTls
