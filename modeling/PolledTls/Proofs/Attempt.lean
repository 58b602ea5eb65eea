import PolledTls.Proofs.History

/-!
The attempts of a history. Each reaches from the open that begins it to the close or the drop that
ends it; nothing waits to be sent before it begins, and nothing when it has ended.
-/
namespace PolledTls

variable {P : Platform}

namespace Entry

def begins (e : Entry P) : Bool :=
  match e.request, e.result with
  | some (.start _), .ok () => true
  | _, _ => false

def ends (e : Entry P) : Bool :=
  match e.request, e.result with
  | some (.close _), .ok () | none, _ => true
  | _, _ => false

theorem request_of_ends {e : Entry P} (ends : e.ends = true) :
    (∃ t, e.request = some (.close t)) ∨ e.request = none := by
  unfold Entry.ends at ends
  split at ends <;> simp_all

/-- The calls of one attempt, from the open that begins it to the close or the drop that ends it. -/
inductive Attempt : List (Entry P) → Prop
  | mk {first final : Entry P} {work : List (Entry P)} (begins : first.begins = true)
      (goesOn : ∀ e ∈ work, e.ends = false) (ends : final.ends = true) :
      Attempt (first :: (work ++ [final]))

/-- An attempt told from its first call, its last one and those between them. -/
theorem attempt_iff {calls : List (Entry P)} :
    Attempt calls ↔ calls.head?.any begins = true ∧ calls.tail.getLast?.any ends = true ∧
      ∀ e ∈ calls.tail.dropLast, e.ends = false := by
  constructor
  · rintro ⟨begins, goesOn, ends⟩
    rw [List.tail_cons, List.dropLast_concat, List.getLast?_concat]
    exact ⟨begins, ends, goesOn⟩
  · rintro ⟨begins, ends, goesOn⟩
    cases calls with
    | nil => cases begins
    | cons first rest =>
        rw [List.tail_cons] at ends goesOn
        cases last : rest.getLast? with
        | none =>
            rw [last] at ends
            cases ends
        | some final =>
            rw [last] at ends
            obtain ⟨work, rfl⟩ := List.getLast?_eq_some_iff.mp last
            rw [List.dropLast_concat] at goesOn
            exact .mk begins goesOn ends

instance (calls : List (Entry P)) : Decidable (Attempt calls) :=
  decidable_of_iff _ attempt_iff.symm

theorem ends_of_begins {e : Entry P} (begins : e.begins = true) : e.ends = false := by
  unfold Entry.begins at begins
  unfold Entry.ends
  split at begins <;> simp_all

theorem Attempt.last {calls : List (Entry P)} (whole : Attempt calls) :
    ∃ before final, calls = before ++ [final] ∧ final.ends = true := by
  obtain ⟨begins, goesOn, ends⟩ := whole
  exact ⟨_ :: _, _, rfl, ends⟩

/-- Before a call of an attempt stands the open that begins it, and no end. -/
theorem Attempt.before {first e : Entry P} {before after : List (Entry P)}
    (whole : Attempt (first :: (before ++ e :: after))) :
    first.begins = true ∧ ∀ other ∈ before, other.ends = false := by
  generalize cut : first :: (before ++ e :: after) = calls at whole
  obtain ⟨begins, goesOn, ends⟩ := whole
  obtain ⟨rfl, rest⟩ := List.cons.inj cut
  refine ⟨begins, ?_⟩
  intro other member
  rcases List.append_eq_append_iff.mp rest with ⟨more, rfl, -⟩ | ⟨more, rfl, last⟩
  · exact goesOn other (List.mem_append_left _ member)
  -- The calls before this one cannot take in the last call, so they are those in the midst.
  · cases more with
    | nil =>
        rw [List.append_nil] at member
        exact goesOn other member
    | cons head tail => simp at last

theorem attemptAfter_of_goesOn {e : Entry P} (open_ : e.begins = false) (close : e.ends = false)
    (attempt : Option Ticket) : e.attemptAfter attempt = attempt := by
  unfold begins at open_
  unfold ends at close
  unfold attemptAfter
  split at open_ <;> split at close <;> simp_all

theorem attemptAfter_of_ends {e : Entry P} (ends : e.ends = true) (attempt : Option Ticket) :
    e.attemptAfter attempt = none := by
  unfold Entry.ends at ends
  unfold attemptAfter
  split at ends <;> simp_all

/-- An attempt under way after calls was under way before them, or begins in one of them. -/
theorem attempt_foldl {calls : List (Entry P)} {current : Option Ticket} {ticket : Ticket}
    (under : calls.foldl (fun current e => e.attemptAfter current) current = some ticket) :
    (∃ earlier first work, calls = earlier ++ first :: work ∧ first.begins = true ∧
      ∀ e ∈ work, e.ends = false) ∨ current = some ticket ∧ ∀ e ∈ calls, e.ends = false := by
  induction calls generalizing current with
  | nil => exact .inr ⟨under, by simp⟩
  | cons e rest ih =>
      rw [List.foldl_cons] at under
      rcases ih under with ⟨earlier, first, work, rfl, begins, goesOn⟩ | ⟨before, goesOn⟩
      · exact .inl ⟨e :: earlier, first, work, rfl, begins, goesOn⟩
      · by_cases begins : e.begins = true
        · exact .inl ⟨[], e, rest, rfl, begins, goesOn⟩
        -- An end would have left no attempt under way.
        · by_cases ends : e.ends = true
          · rw [attemptAfter_of_ends ends] at before
            cases before
          · rw [Bool.not_eq_true] at begins ends
            rw [attemptAfter_of_goesOn begins ends] at before
            refine .inr ⟨before, ?_⟩
            intro other member
            rcases List.mem_cons.mp member with rfl | later
            · exact ends
            · exact goesOn other later

end Entry

namespace Connection

variable {c left last : Connection P} {now : Instant} {es : List Event} {request : Option Request}
  {result : Except Error Unit} {calls : List (Entry P)}

theorem Step.idle_of_begins (h : c.Step now request result es left)
    (begins : Entry.begins ⟨c, now, request, result, es, left⟩ = true) : c.status = .notOpen := by
  cases h with
  | starts idle lookup => exact idle
  | _ => cases begins

theorem Step.empty_of_begins (h : c.Step now request result es left) (sound : c.Sound)
    (begins : Entry.begins ⟨c, now, request, result, es, left⟩ = true) :
    c.outbox.messages = [] := by
  have idle := h.idle_of_begins begins
  exact sound.empty (by simp [idle]) (by simp [idle])

theorem Linked.idle_of_attempt (h : Linked c calls last) (sound : c.Sound)
    (attempt : Entry.Attempt calls) : c.outbox.messages = [] ∧ last.outbox.messages = [] := by
  obtain ⟨begins, goesOn, ends⟩ := attempt
  constructor
  · cases h with
    | cons step later => exact step.empty_of_begins sound begins
  · rw [← List.cons_append] at h
    obtain ⟨before, step, after⟩ := h.at_
    cases after with
    | nil => exact step.emptied (before.sound sound) (Entry.request_of_ends ends)

theorem first_end {e : Entry P} (member : e ∈ calls) (ends : e.ends = true) :
    ∃ work final later, calls = work ++ final :: later ∧ (∀ e ∈ work, e.ends = false) ∧
      final.ends = true := by
  induction calls with
  | nil => cases member
  | cons first rest ih =>
      by_cases done : first.ends = true
      · exact ⟨[], first, rest, rfl, by simp, done⟩
      · rw [Bool.not_eq_true] at done
        rcases List.mem_cons.mp member with rfl | behind
        · rw [done] at ends
          cases ends
        · obtain ⟨work, final, later, rfl, goesOn, ended⟩ := ih behind
          refine ⟨first :: work, final, later, rfl, ?_, ended⟩
          intro other there
          rcases List.mem_cons.mp there with rfl | among
          · exact done
          · exact goesOn other among

theorem getLast?_history (c : Connection P) (s : P.State) (turns : List (Turn P)) :
    ∃ final, (c.history s turns).getLast? = some final ∧ final.ends = true := by
  induction turns generalizing c s with
  | nil => exact ⟨_, rfl, rfl⟩
  | cons turn rest ih =>
      obtain ⟨final, last, ends⟩ := ih _ _
      refine ⟨final, ?_, ends⟩
      rw [history, List.getLast?_cons, last]
      rfl

/-- The last call of a history is among those that follow any other. -/
theorem end_after {c : Connection P} {s : P.State} {turns : List (Turn P)}
    {past later : List (Entry P)} {e : Entry P} (whole : c.history s turns = past ++ e :: later) :
    ∃ final ∈ e :: later, final.ends = true := by
  obtain ⟨final, drop, ends⟩ := getLast?_history c s turns
  refine ⟨final, List.mem_of_getLast? ?_, ends⟩
  rw [whole, List.getLast?_append, List.getLast?_cons] at drop
  rw [List.getLast?_cons]
  exact drop

/-- An open that begins an attempt is the first of its calls. -/
theorem attempt_of_begins {c : Connection P} {s : P.State} {turns : List (Turn P)}
    {past later : List (Entry P)} {e : Entry P} (whole : c.history s turns = past ++ e :: later)
    (begins : e.begins = true) :
    ∃ after rest, later = after ++ rest ∧ Entry.Attempt (e :: after) := by
  obtain ⟨final, member, ends⟩ := end_after whole
  have behind : final ∈ later := by
    rcases List.mem_cons.mp member with rfl | behind
    · rw [Entry.ends_of_begins begins] at ends
      cases ends
    · exact behind
  obtain ⟨work, final, rest, rfl, goesOn, ended⟩ := first_end behind ends
  exact ⟨work ++ [final], rest, by simp, .mk begins goesOn ended⟩

/-- A call under an attempt is one of the calls of an attempt, if a call ends it. -/
theorem attempt_around {past later : List (Entry P)} {e : Entry P} {ticket : Ticket}
    (under : Entry.attempt past = some ticket) (done : ∃ final ∈ e :: later, final.ends = true) :
    ∃ earlier before after rest, past = earlier ++ before ∧ later = after ++ rest ∧
      Entry.Attempt (before ++ e :: after) := by
  rcases Entry.attempt_foldl under with ⟨earlier, first, work, rfl, begins, goesOn⟩ | ⟨none, _⟩
  · obtain ⟨final, member, ends⟩ := done
    obtain ⟨more, final, rest, split, going, ended⟩ := first_end member ends
    cases more with
    | nil =>
        obtain ⟨rfl, rfl⟩ := List.cons.inj split
        exact ⟨earlier, first :: work, [], later, rfl, rfl, .mk begins goesOn ended⟩
    | cons head tail =>
        obtain ⟨rfl, rfl⟩ := List.cons.inj split
        have goes : ∀ other ∈ work ++ e :: tail, other.ends = false := by
          intro other there
          rcases List.mem_append.mp there with old | new
          · exact goesOn other old
          · exact going other new
        have attempt := Entry.Attempt.mk begins goes ended
        rw [List.append_assoc] at attempt
        exact ⟨earlier, first :: work, tail ++ [final], rest, rfl, by simp, attempt⟩
  · cases none

/-- A call of a history that finds an attempt under way is one of its calls: the drop ends it if no
close did. -/
theorem attempt_of_owned {c : Connection P} {s : P.State} {turns : List (Turn P)}
    {past later : List (Entry P)} {e : Entry P} {ticket : Ticket} (idle : c.listener = none)
    (whole : c.history s turns = past ++ e :: later)
    (linked : Linked c (past ++ e :: later) last) (sound : c.Sound)
    (owned : e.before.listener.map (·.ticket) = some ticket) :
    ∃ earlier before after rest, past = earlier ++ before ∧ later = after ++ rest ∧
      Entry.Attempt (before ++ e :: after) := by
  obtain ⟨before, step, -⟩ := linked.at_
  have under : Entry.attempt past = some ticket := by
    rw [← owned, before.attempt sound, idle]
    rfl
  exact attempt_around under (end_after whole)

end Connection
end PolledTls
