import PolledTls.Event

/-!
The byte stream in a record: what writes were accepted, cut into shares at the completions of
sends. The share of a number is what was accepted while exactly so many sends had completed.
-/
namespace PolledTls.Event

/-- The bytes of a write that were accepted: the first of those offered, as many as answered. -/
def accepted : Event → List UInt8
  | .call (.write offered (.ok count)) => offered.take count
  | _ => []

def taken (events : List Event) : List UInt8 :=
  events.flatMap accepted

def completion? : Event → Option Completion
  | .callback (.sent _ result) => some result
  | _ => none

def completions (events : List Event) : List Completion :=
  events.filterMap completion?

/-- The bytes accepted while exactly `i` sends had completed, if `done` had before the events. -/
def shareFrom (i : Nat) : Nat → List Event → List UInt8
  | _, [] => []
  | done, event :: rest =>
    (if done = i then event.accepted else []) ++
      shareFrom i (done + event.completion?.toList.length) rest

def share (i : Nat) (events : List Event) : List UInt8 :=
  shareFrom i 0 events

@[simp] theorem completions_append (first second : List Event) :
    completions (first ++ second) = completions first ++ completions second :=
  List.filterMap_append

theorem taken_append (first second : List Event) :
    taken (first ++ second) = taken first ++ taken second :=
  List.flatMap_append

theorem completions_cons (event : Event) (rest : List Event) :
    completions (event :: rest) = event.completion?.toList ++ completions rest := by
  rw [completions, List.filterMap_cons]
  cases event.completion? <;> rfl

theorem accepted_of_completion {event : Event} {result : Completion}
    (completes : event.completion? = some result) : event.accepted = [] := by
  cases event with
  | callback fired => rfl
  | _ => cases completes

theorem shareFrom_append (i done : Nat) (first second : List Event) :
    shareFrom i done (first ++ second) =
      shareFrom i done first ++ shareFrom i (done + (completions first).length) second := by
  induction first generalizing done with
  | nil => rfl
  | cons event rest ih =>
      rw [List.cons_append, shareFrom, ih, shareFrom, completions_cons, List.length_append,
        List.append_assoc, Nat.add_assoc]

theorem share_append (i : Nat) (first second : List Event) :
    share i (first ++ second) =
      share i first ++ shareFrom i (completions first).length second := by
  rw [share, shareFrom_append, Nat.zero_add]
  rfl

theorem completions_concat (events : List Event) (event : Event) :
    completions (events ++ [event]) = completions events ++ event.completion?.toList := by
  rw [completions_append, completions_cons]
  exact congrArg _ (List.append_nil _)

theorem share_concat (i : Nat) (events : List Event) (event : Event) :
    share i (events ++ [event]) =
      share i events ++ if (completions events).length = i then event.accepted else [] := by
  rw [share_append]
  exact congrArg _ (List.append_nil _)

theorem share_concat_of_quiet {event : Event} (quiet : event.accepted = []) (i : Nat)
    (events : List Event) : share i (events ++ [event]) = share i events := by
  rw [share_concat, quiet, ite_self, List.append_nil]

/-- The share of a send that had completed before does not grow. -/
theorem shareFrom_of_lt {i done : Nat} (before : i < done) (events : List Event) :
    shareFrom i done events = [] := by
  induction events generalizing done with
  | nil => rfl
  | cons event rest ih =>
      rw [shareFrom, if_neg (by omega), ih (by omega)]
      rfl

/-- Nothing is accepted for a send before all earlier ones have completed. -/
theorem shareFrom_of_gt {i done : Nat} {events : List Event}
    (after : done + (completions events).length < i) : shareFrom i done events = [] := by
  induction events generalizing done with
  | nil => rfl
  | cons event rest ih =>
      rw [completions_cons, List.length_append] at after
      rw [shareFrom, if_neg (by omega), ih (by omega)]
      rfl

theorem share_of_gt {i : Nat} {events : List Event} (after : (completions events).length < i) :
    share i events = [] :=
  shareFrom_of_gt (by omega)

theorem le_completions_of_share {i : Nat} {events : List Event} (some : share i events ≠ []) :
    i ≤ (completions events).length := by
  apply Nat.le_of_not_lt
  intro beyond
  exact some (share_of_gt beyond)

/-- The shares in order are everything that was accepted. -/
theorem taken_eq_shareFrom {done count : Nat} {events : List Event}
    (all : (completions events).length < count) :
    taken events = (List.range' done count).flatMap (shareFrom · done events) := by
  induction events generalizing done count with
  | nil => simp [taken, shareFrom]
  | cons event rest ih =>
      obtain ⟨more, rfl⟩ : ∃ more, count = more + 1 := ⟨count - 1, by omega⟩
      have first : taken (event :: rest) = event.accepted ++ taken rest := rfl
      have later : ∀ i ∈ List.range' (done + 1) more, shareFrom i done (event :: rest) =
          shareFrom i (done + event.completion?.toList.length) rest := by
        intro i member
        have beyond := (List.mem_range'_1.mp member).1
        rw [shareFrom, if_neg (by omega)]
        rfl
      -- Only the first share can begin with the event; if the event completes a send it ends there.
      rw [completions_cons, List.length_append] at all
      rw [first, List.range'_succ, List.flatMap_cons, List.flatMap_def, List.map_congr_left later,
        ← List.flatMap_def, shareFrom, if_pos rfl, List.append_assoc]
      cases completes : event.completion? with
      | none =>
          rw [completes] at all
          have whole : taken rest = (List.range' done (more + 1)).flatMap _ :=
            ih (by simpa using all)
          rw [List.range'_succ, List.flatMap_cons] at whole
          rw [whole]
          rfl
      | some result =>
          rw [completes] at all
          have fewer : 1 + (completions rest).length < more + 1 := all
          have whole : taken rest = (List.range' (done + 1) more).flatMap _ := ih (by omega)
          have settled : shareFrom done (done + 1) rest = [] := shareFrom_of_lt (by omega) rest
          rw [whole]
          exact congrArg (event.accepted ++ ·) (congrArg (· ++ _) settled.symm)

theorem taken_eq_share {count : Nat} {events : List Event}
    (all : (completions events).length < count) :
    taken events = (List.range count).flatMap (share · events) := by
  rw [List.range_eq_range']
  exact taken_eq_shareFrom all

end PolledTls.Event
