import Mathlib.Algebra.Ring.Nat
import PolledTls.Sim.Clock

/-!
What a record of the uses of some clocks tells by itself, without the clocks: which handles are of
one clock, which advances concern it, and by how much those that went well have moved it.
-/
namespace PolledTls.Sim.Clocks

structure Run where
  clocks : Clocks
  /-- Each use so far with its answer, oldest first. -/
  told : List (Use × Answer)

def Run.then (run : Run) (next : Use) : Run :=
  let step := run.clocks.use next
  ⟨step.2, run.told ++ [(next, step.1)]⟩

/-- Uses made one after the other where there are no clocks at first. -/
def ran (uses : List Use) : Run :=
  uses.foldl Run.then ⟨empty, []⟩

def Answer.isMade : Answer → Bool
  | .made _ => true
  | _ => false

/-- How many handles were made; they are numbered from zero. -/
def made (told : List (Use × Answer)) : Nat :=
  told.countP (·.2.isMade)

/-- The handle of which another one is a copy, if it was made in this use. -/
def copied : Use × Answer → Nat → Nat
  | (.clone original, .made copy), handle => if handle = copy then original else handle
  | _, handle => handle

/-- The handle with which a clock was created, found from any other handle of it by going back from
copy to original. -/
def source (told : List (Use × Answer)) (handle : Nat) : Nat :=
  told.foldr copied handle

/-- An advance that was asked for, by handle and step. -/
def tried? : Use × Answer → Option (Nat × Span)
  | (.advance handle step, .advanced) | (.advance handle step, .panicked) => some (handle, step)
  | _ => none

/-- An advance that went well. -/
def moved? : Use × Answer → Option (Nat × Span)
  | (.advance handle step, .advanced) => some (handle, step)
  | _ => none

section

variable (kind : Use × Answer → Option (Nat × Span)) (told : List (Use × Answer)) (handle : Nat)

/-- The steps of one kind, in a part of a record, that concern the clock of a handle. -/
def stepsOf (part : List (Use × Answer)) : List Span :=
  ((part.filterMap kind).filter fun move => source told move.1 = source told handle).map (·.2)

/-- By how much the advances in a part of a record have moved the clock of a handle. -/
def elapsed (part : List (Use × Answer)) : Nat :=
  ((stepsOf moved? told handle part).map Span.total).sum

/-- A clock that nobody shares, after all advances of one that may be shared. -/
def plain (part : List (Use × Answer)) : Clock :=
  (stepsOf tried? told handle part).foldl (fun clock step => clock.advance step.total) .start

end

variable {kind : Use × Answer → Option (Nat × Span)}
  {told part : List (Use × Answer)} {entry : Use × Answer} {handle : Nat}

theorem source_concat (told : List (Use × Answer)) (entry : Use × Answer) (handle : Nat) :
    source (told ++ [entry]) handle = source told (copied entry handle) :=
  List.foldr_append

theorem source_append (past later : List (Use × Answer)) (handle : Nat) :
    source (past ++ later) handle = source past (source later handle) :=
  List.foldr_append

/-- A handle that is no copy is its own source. -/
theorem source_eq_self (single : ∀ entry ∈ told, copied entry handle = handle) :
    source told handle = handle := by
  induction told with
  | nil => rfl
  | cons entry rest ih =>
      have later := ih fun e member => single e (List.mem_cons_of_mem entry member)
      change copied entry (source rest handle) = handle
      rw [later]
      exact single entry List.mem_cons_self

/-- Originals come before their copies. -/
theorem source_le
    (down : ∀ {original copy}, (.clone original, .made copy) ∈ told → original < copy) :
    source told handle ≤ handle := by
  induction told with
  | nil => exact Nat.le_refl handle
  | cons entry rest ih =>
      have later := ih fun member => down (List.mem_cons_of_mem entry member)
      change copied entry (source rest handle) ≤ handle
      unfold copied
      split
      case h_1 original copy x =>
        split
        case isTrue same =>
          have less := down List.mem_cons_self
          omega
        case isFalse => exact later
      case h_2 => exact later

theorem stepsOf_append (kind : Use × Answer → Option (Nat × Span)) (told : List (Use × Answer))
    (handle : Nat) (first second : List (Use × Answer)) :
    stepsOf kind told handle (first ++ second) =
      stepsOf kind told handle first ++ stepsOf kind told handle second := by
  rw [stepsOf, List.filterMap_append, List.filter_append, List.map_append]
  rfl

theorem elapsed_append (told : List (Use × Answer)) (handle : Nat)
    (first second : List (Use × Answer)) :
    elapsed told handle (first ++ second) =
      elapsed told handle first + elapsed told handle second := by
  rw [elapsed, stepsOf_append, List.map_append, List.sum_append]
  rfl

theorem stepsOf_of_none (silent : kind entry = none) : stepsOf kind told handle [entry] = [] := by
  rw [stepsOf, List.filterMap_cons, silent]
  rfl

theorem stepsOf_of_some {mover : Nat} {step : Span} (moves : kind entry = some (mover, step)) :
    stepsOf kind told handle [entry] =
      if source told mover = source told handle then [step] else [] := by
  rw [stepsOf, List.filterMap_cons, moves]
  by_cases same : source told mover = source told handle <;> simp [same]

theorem stepsOf_congr {told' : List (Use × Answer)} {handle' : Nat}
    (same : ∀ move ∈ part.filterMap kind,
      (source told move.1 = source told handle ↔ source told' move.1 = source told' handle')) :
    stepsOf kind told handle part = stepsOf kind told' handle' part := by
  have kept : (part.filterMap kind).filter (fun move => source told move.1 = source told handle) =
      (part.filterMap kind).filter fun move => source told' move.1 = source told' handle' :=
    List.filter_congr fun move member => decide_eq_decide.mpr (same move member)
  rw [stepsOf, kept]
  rfl

/-- What concerned a clock before a use concerns it after the use. -/
theorem stepsOf_concat (apart : ∀ move ∈ part.filterMap kind, copied entry move.1 = move.1) :
    stepsOf kind (told ++ [entry]) handle part = stepsOf kind told (copied entry handle) part := by
  refine stepsOf_congr fun move member => ?_
  rw [source_concat, source_concat, apart move member]

theorem elapsed_concat (apart : ∀ move ∈ part.filterMap moved?, copied entry move.1 = move.1) :
    elapsed (told ++ [entry]) handle part = elapsed told (copied entry handle) part := by
  rw [elapsed, stepsOf_concat apart]
  rfl

theorem elapsed_of_none (silent : moved? entry = none) : elapsed told handle [entry] = 0 := by
  rw [elapsed, stepsOf_of_none silent]
  rfl

theorem elapsed_of_some {mover : Nat} {step : Span} (moves : moved? entry = some (mover, step)) :
    elapsed told handle [entry] =
      if source told mover = source told handle then step.total else 0 := by
  rw [elapsed, stepsOf_of_some moves]
  split <;> rfl

theorem elapsed_of_source {g h : Nat} (same : source told g = source told h) :
    elapsed told g part = elapsed told h part := by
  rw [elapsed, elapsed, stepsOf, stepsOf, same]

/-! A use that is no copying leaves the sources as they were. -/

theorem elapsed_grow (single : ∀ handle, copied entry handle = handle) :
    elapsed (told ++ [entry]) handle (told ++ [entry]) =
      elapsed told handle told + elapsed told handle [entry] := by
  rw [elapsed_concat fun move _ => single move.1, single, elapsed_append]

theorem plain_grow {mover : Nat} {step : Span} (single : ∀ handle, copied entry handle = handle)
    (tries : tried? entry = some (mover, step)) :
    plain (told ++ [entry]) handle (told ++ [entry]) =
      if source told mover = source told handle then (plain told handle told).advance step.total
      else plain told handle told := by
  rw [plain, stepsOf_concat fun move _ => single move.1, single, stepsOf_append,
    stepsOf_of_some tries, List.foldl_append]
  split <;> rfl

theorem tried_of_moved {move : Nat × Span} (moved : moved? entry = some move) :
    tried? entry = some move := by
  unfold moved? at moved
  split at moved
  case h_1 => exact moved
  case h_2 => cases moved

theorem moved_of_not_tried (silent : tried? entry = none) : moved? entry = none := by
  cases moved : moved? entry with
  | none => rfl
  | some move =>
      rw [tried_of_moved moved] at silent
      cases silent

theorem mem_tried_of_moved {move : Nat × Span} (member : move ∈ part.filterMap moved?) :
    move ∈ part.filterMap tried? := by
  obtain ⟨entry, there, moved⟩ := List.mem_filterMap.mp member
  exact List.mem_filterMap.mpr ⟨entry, there, tried_of_moved moved⟩

theorem made_concat (told : List (Use × Answer)) (entry : Use × Answer) :
    made (told ++ [entry]) = made told + entry.2.isMade.toNat := by
  rw [made, List.countP_append, List.countP_singleton]
  cases entry.2.isMade <;> rfl

end PolledTls.Sim.Clocks
