import Mathlib.Data.List.Basic
import Mathlib.Data.List.Induction
import PolledTls.Proofs.Sim.Advances

/-!
The time that clocks tell, whoever moves them and whatever went wrong before. It is what was added
to it with success, by any handle of the same clock; an advance that would pass the longest span
panics and is as if it had not been made.
-/
namespace PolledTls.Sim.Clocks

variable {run : Run} {kind : Use × Answer → Option (Nat × Span)}
  {told past later : List (Use × Answer)} {entry : Use × Answer} {handle : Nat}

/-! What holds of the clocks after any uses. -/

/-- A timeline stands where the record says, for one handle of it. -/
structure Tells (told : List (Use × Answer)) (handle : Nat) (timeline : Timeline) : Prop where
  elapsed : timeline.value.total = elapsed told handle told
  plain : (plain told handle told).now = timeline.value.total

/-- Handles are numbered as they are made. Each names a timeline that stands where the record says,
and two of them name the same one if they come from one source. -/
structure Keeps (run : Run) : Prop where
  handles : run.clocks.handles.length = made run.told
  copies : ∀ {original copy}, (.clone original, .made copy) ∈ run.told →
    original < copy ∧ copy < made run.told
  tried : ∀ move ∈ run.told.filterMap tried?, move.1 < made run.told
  placed : ∀ {handle place}, run.clocks.handles[handle]? = some place →
    ∃ timeline, run.clocks.timelines[place]? = some timeline ∧ Tells run.told handle timeline
  shared : ∀ {g h p q}, run.clocks.handles[g]? = some p → run.clocks.handles[h]? = some q →
    (p = q ↔ source run.told g = source run.told h)

theorem keeps_empty : Keeps ⟨empty, []⟩ where
  handles := rfl
  copies member := nomatch member
  tried _ member := nomatch member
  placed found := nomatch found
  shared found := nomatch found

/-- A use that moves nothing leaves a timeline where it was, for the handles there were and for a
copy of one of them. -/
theorem Tells.concat {timeline : Timeline} (tells : Tells told (copied entry handle) timeline)
    (silent : tried? entry = none)
    (apart : ∀ move ∈ told.filterMap tried?, copied entry move.1 = move.1) :
    Tells (told ++ [entry]) handle timeline where
  elapsed := by
    rw [elapsed_append, elapsed_of_none (moved_of_not_tried silent), Nat.add_zero,
      elapsed_concat fun move member => apart move (mem_tried_of_moved member)]
    exact tells.elapsed
  plain := by
    rw [Clocks.plain, stepsOf_append, stepsOf_concat apart, stepsOf_of_none silent, List.append_nil]
    exact tells.plain

/-- An advance of another clock. -/
theorem Tells.elsewhere {timeline : Timeline} {mover : Nat} {step : Span}
    (tells : Tells told handle timeline) (moves : tried? entry = some (mover, step))
    (single : ∀ handle, copied entry handle = handle)
    (other : source told mover ≠ source told handle) :
    Tells (told ++ [entry]) handle timeline where
  elapsed := by
    have still : Clocks.elapsed told handle [entry] = 0 := by
      cases moved : moved? entry with
      | none => exact elapsed_of_none moved
      | some move =>
          obtain rfl := Option.some.inj ((tried_of_moved moved).symm.trans moves)
          rw [elapsed_of_some moved, if_neg other]
    rw [elapsed_grow single, still]
    exact tells.elapsed
  plain := by
    rw [plain_grow single moves, if_neg other]
    exact tells.plain

/-- An advance by a handle of the same clock: the time goes on or, where that is too far, stays. -/
theorem Tells.advance {timeline : Timeline} {mover : Nat} {step : Span}
    (tells : Tells told handle timeline) (same : source told mover = source told handle) :
    Tells (told ++ [(.advance mover step,
      if (timeline.advance step).1 then .advanced else .panicked)]) handle
      (timeline.advance step).2 := by
  cases sum : timeline.value.add? step with
  | some time =>
      have later := Span.total_of_add? sum
      have fits : (Clocks.plain told handle told).now + step.total ≤ Duration.longest := by
        rw [tells.plain, ← later, ← Span.total_longest]
        exact time.total_le_longest
      rw [Timeline.advance_of_some sum]
      change Tells (told ++ [(.advance mover step, .advanced)]) handle _
      constructor
      · rw [elapsed_grow fun _ => rfl, elapsed_of_some rfl, if_pos same, ← tells.elapsed]
        exact later
      · rw [plain_grow (fun _ => rfl) rfl, if_pos same, Clock.advance_of_le fits, tells.plain]
        exact later.symm
  | none =>
      have beyond := Span.add?_eq_none_iff.mp sum
      rw [← tells.plain, Span.total_longest] at beyond
      rw [Timeline.advance_of_none sum]
      change Tells (told ++ [(.advance mover step, .panicked)]) handle _
      constructor
      · rw [elapsed_grow fun _ => rfl, elapsed_of_none rfl]
        exact tells.elapsed
      · rw [plain_grow (fun _ => rfl) rfl, if_pos same, Clock.advance_of_lt beyond]
        exact tells.plain

namespace Keeps

/-- A handle that has not been made yet is no copy. -/
theorem source_of_le (keeps : Keeps run) (fresh : made run.told ≤ handle) :
    source run.told handle = handle := by
  refine source_eq_self fun entry member => ?_
  unfold copied
  split
  case h_1 original copy x =>
    have known := (keeps.copies member).2
    rw [if_neg (by omega)]
  case h_2 => rfl

theorem lt_of_found (keeps : Keeps run) {place : Nat}
    (found : run.clocks.handles[handle]? = some place) : handle < made run.told := by
  rw [← keeps.handles]
  exact (List.getElem?_eq_some_iff.mp found).1

/-- A use that makes no handle, with the timelines as it leaves them. -/
theorem keep (keeps : Keeps run) {timelines : List Timeline} (none : entry.2.isMade = false)
    (single : ∀ handle, copied entry handle = handle)
    (known : ∀ move, tried? entry = some move → move.1 < made run.told)
    (placed : ∀ {handle place : Nat}, run.clocks.handles[handle]? = some place →
      ∃ timeline : Timeline, timelines[place]? = some timeline ∧
        Tells (run.told ++ [entry]) handle timeline) :
    Keeps ⟨⟨timelines, run.clocks.handles⟩, run.told ++ [entry]⟩ where
  handles := by
    rw [keeps.handles, made_concat, none]
    rfl
  copies := by
    intro original copy member
    rw [made_concat, none]
    rcases List.mem_append.mp member with earlier | last
    · exact keeps.copies earlier
    · rw [← List.mem_singleton.mp last] at none
      cases none
  tried := by
    intro move member
    rw [made_concat, none]
    obtain ⟨e, there, tries⟩ := List.mem_filterMap.mp member
    rcases List.mem_append.mp there with earlier | last
    · exact keeps.tried move (List.mem_filterMap.mpr ⟨e, earlier, tries⟩)
    · rw [List.mem_singleton.mp last] at tries
      exact known move tries
  placed := placed
  shared := by
    intro g h p q foundG foundH
    rw [source_concat, source_concat, single, single]
    exact keeps.shared foundG foundH

/-- A use after which all is as before. -/
theorem idle (keeps : Keeps run) (none : entry.2.isMade = false) (silent : tried? entry = .none)
    (single : ∀ handle, copied entry handle = handle) :
    Keeps ⟨run.clocks, run.told ++ [entry]⟩ := by
  refine keeps.keep none single (fun move tries => ?_) ?_
  · rw [silent] at tries
    cases tries
  · intro handle place found
    obtain ⟨timeline, there, tells⟩ := keeps.placed found
    exact ⟨timeline, there, .concat (by rwa [single]) silent fun move _ => single move.1⟩

/-- A use that makes a handle, for a timeline that is new or for one that another handle names. -/
theorem make (keeps : Keeps run) {timelines : List Timeline} {place : Nat} (timeline : Timeline)
    (makes : entry.2 = .made (made run.told)) (silent : tried? entry = none)
    (older : ∀ handle < made run.told, copied entry handle = handle)
    (down : ∀ original copy, entry = (.clone original, .made copy) → original < copy)
    (kept : ∀ p : Nat, ∀ t : Timeline, run.clocks.timelines[p]? = some t → timelines[p]? = some t)
    (there : timelines[place]? = some timeline)
    (tells : Tells run.told (copied entry (made run.told)) timeline)
    (shares : ∀ h p : Nat, run.clocks.handles[h]? = some p →
      (p = place ↔ source run.told h = source run.told (copied entry (made run.told)))) :
    Keeps ⟨⟨timelines, run.clocks.handles ++ [place]⟩, run.told ++ [entry]⟩ := by
  have more : made (run.told ++ [entry]) = made run.told + 1 := by
    rw [made_concat, makes]
    rfl
  have apart : ∀ move ∈ run.told.filterMap tried?, copied entry move.1 = move.1 :=
    fun move member => older move.1 (keeps.tried move member)
  -- A handle found afterwards was there before, or it is the one made.
  have found {handle p : Nat} (at_ : (run.clocks.handles ++ [place])[handle]? = some p) :
      run.clocks.handles[handle]? = some p ∨ handle = made run.told ∧ p = place := by
    rw [List.getElem?_append] at at_
    split at at_
    case isTrue => exact .inl at_
    case isFalse beyond =>
      rw [List.getElem?_singleton] at at_
      split at at_
      case isTrue first =>
        refine .inr ⟨?_, (Option.some.inj at_).symm⟩
        rw [← keeps.handles]
        omega
      case isFalse => cases at_
  exact
    { handles := by rw [List.length_append, keeps.handles, more]; rfl
      copies := by
        intro original copy member
        rw [more]
        rcases List.mem_append.mp member with earlier | last
        · obtain ⟨less, known⟩ := keeps.copies earlier
          exact ⟨less, Nat.lt_succ_of_lt known⟩
        · obtain rfl := List.mem_singleton.mp last
          refine ⟨down original copy rfl, ?_⟩
          obtain rfl : copy = made run.told := Answer.made.inj makes
          exact Nat.lt_succ_self _
      tried := by
        intro move member
        rw [List.filterMap_append, List.filterMap_cons, silent, List.filterMap_nil,
          List.append_nil] at member
        rw [more]
        exact Nat.lt_succ_of_lt (keeps.tried move member)
      placed := by
        intro handle p at_
        rcases found at_ with earlier | ⟨rfl, rfl⟩
        · obtain ⟨t, stands, tells⟩ := keeps.placed earlier
          rw [← older handle (keeps.lt_of_found earlier)] at tells
          exact ⟨t, kept p t stands, tells.concat silent apart⟩
        · exact ⟨timeline, there, tells.concat silent apart⟩
      shared := by
        intro g h p q atG atH
        rw [source_concat, source_concat]
        rcases found atG with earlierG | ⟨rfl, rfl⟩ <;> rcases found atH with earlierH | ⟨rfl, rfl⟩
        · rw [older g (keeps.lt_of_found earlierG), older h (keeps.lt_of_found earlierH)]
          exact keeps.shared earlierG earlierH
        · rw [older g (keeps.lt_of_found earlierG)]
          exact shares g p earlierG
        · rw [older h (keeps.lt_of_found earlierH), eq_comm, shares h q earlierH]
          exact eq_comm
        · exact iff_of_true rfl rfl }

theorem source_lt (keeps : Keeps run) (known : handle < made run.told) :
    source run.told handle < made run.told :=
  Nat.lt_of_le_of_lt (source_le fun member => (keeps.copies member).1) known

/-- A handle that is about to be made has not been moved. -/
theorem stepsOf_made (keeps : Keeps run)
    (known : ∀ move ∈ run.told.filterMap kind, move.1 < made run.told) :
    stepsOf kind run.told (made run.told) run.told = [] := by
  rw [stepsOf, List.map_eq_nil_iff, List.filter_eq_nil_iff]
  intro move member
  rw [decide_eq_true_eq, keeps.source_of_le (Nat.le_refl _)]
  exact Nat.ne_of_lt (keeps.source_lt (known move member))

theorem tells_start (keeps : Keeps run) : Tells run.told (made run.told) .start where
  elapsed := by
    rw [elapsed, keeps.stepsOf_made fun move member => keeps.tried move (mem_tried_of_moved member)]
    rfl
  plain := by
    rw [plain, keeps.stepsOf_made keeps.tried]
    rfl

theorem create (keeps : Keeps run) : Keeps (run.then .create) := by
  refine keeps.make .start (congrArg Answer.made keeps.handles) rfl (fun _ _ => rfl)
    (fun _ _ same => nomatch same) ?_ List.getElem?_concat_length keeps.tells_start ?_
  · intro p t stands
    rw [List.getElem?_append_left (List.getElem?_eq_some_iff.mp stands).1]
    exact stands
  · intro h p found
    obtain ⟨timeline, stands, -⟩ := keeps.placed found
    have old := (List.getElem?_eq_some_iff.mp stands).1
    have older := keeps.source_lt (keeps.lt_of_found found)
    refine iff_of_false (Nat.ne_of_lt old) ?_
    change _ ≠ source run.told (made run.told)
    rw [keeps.source_of_le (Nat.le_refl _)]
    exact Nat.ne_of_lt older

theorem clone (keeps : Keeps run) (handle : Nat) : Keeps (run.then (.clone handle)) := by
  cases found : run.clocks.handles[handle]? with
  | none =>
      have answer : run.clocks.use (.clone handle) = (.unknownHandle, run.clocks) := by
        rw [use, found]
      rw [Run.then, answer]
      exact keeps.idle rfl rfl fun _ => rfl
  | some place =>
      have answer : run.clocks.use (.clone handle) = (.made (made run.told),
          { run.clocks with handles := run.clocks.handles ++ [place] }) := by
        rw [use, found, keeps.handles]
      obtain ⟨timeline, stands, tells⟩ := keeps.placed found
      have known := keeps.lt_of_found found
      have original : copied (.clone handle, .made (made run.told)) (made run.told) = handle :=
        if_pos rfl
      rw [Run.then, answer]
      refine keeps.make timeline rfl rfl (fun h less => if_neg (Nat.ne_of_lt less))
        ?_ (fun _ _ stands => stands) stands ?_ ?_
      · rintro _ _ ⟨⟩
        exact known
      · rw [original]
        exact tells
      · intro h p foundH
        rw [original]
        exact keeps.shared foundH found

theorem now (keeps : Keeps run) (handle : Nat) : Keeps (run.then (.now handle)) := by
  rw [Run.then, use]
  split
  case h_1 => exact keeps.idle rfl rfl fun _ => rfl
  case h_2 => exact keeps.idle rfl rfl fun _ => rfl

theorem advance (keeps : Keeps run) (handle : Nat) (step : Span) :
    Keeps (run.then (.advance handle step)) := by
  cases found : run.clocks.handles[handle]? with
  | none =>
      have answer : run.clocks.use (.advance handle step) = (.unknownHandle, run.clocks) := by
        rw [use, timelineOf?_of_unknown found]
      rw [Run.then, answer]
      exact keeps.idle rfl rfl fun _ => rfl
  | some place =>
      obtain ⟨timeline, stands, tells⟩ := keeps.placed found
      have inside := (List.getElem?_eq_some_iff.mp stands).1
      have moves : tried? (.advance handle step,
          if (timeline.advance step).1 then .advanced else .panicked) = some (handle, step) := by
        cases (timeline.advance step).1 <;> rfl
      rw [Run.then, use_advance found stands]
      refine keeps.keep (by cases (timeline.advance step).1 <;> rfl) (fun _ => rfl) ?_ ?_
      · rintro _ tries
        obtain rfl := Option.some.inj (moves.symm.trans tries)
        exact keeps.lt_of_found found
      · intro h q foundH
        obtain ⟨t, standsH, tellsH⟩ := keeps.placed foundH
        by_cases same : place = q
        · subst same
          obtain rfl : timeline = t := Option.some.inj (stands.symm.trans standsH)
          exact ⟨_, List.getElem?_set_self inside,
            tellsH.advance ((keeps.shared found foundH).mp rfl)⟩
        · have other := mt (keeps.shared found foundH).mpr same
          exact ⟨t, (List.getElem?_set_ne same).trans standsH,
            tellsH.elsewhere moves (fun _ => rfl) other⟩

theorem step (keeps : Keeps run) (next : Use) : Keeps (run.then next) := by
  cases next with
  | create => exact keeps.create
  | clone handle => exact keeps.clone handle
  | advance handle step => exact keeps.advance handle step
  | now handle => exact keeps.now handle

/-! The answer to each use, from what the record tells before it. -/

theorem found_of_lt (keeps : Keeps run) (known : handle < made run.told) :
    ∃ place, run.clocks.handles[handle]? = some place := by
  rw [← keeps.handles] at known
  exact ⟨_, List.getElem?_eq_getElem known⟩

theorem missing_of_not_lt (keeps : Keeps run) (unknown : ¬ handle < made run.told) :
    run.clocks.handles[handle]? = none := by
  rw [← keeps.handles] at unknown
  exact List.getElem?_eq_none (Nat.not_lt.mp unknown)

theorem clone_answer (keeps : Keeps run) (handle : Nat) :
    (run.clocks.use (.clone handle)).1 =
      if handle < made run.told then .made (made run.told) else .unknownHandle := by
  split
  case isTrue known =>
    obtain ⟨place, found⟩ := keeps.found_of_lt known
    rw [use, found, keeps.handles]
  case isFalse unknown => rw [use, keeps.missing_of_not_lt unknown]

theorem advance_answer (keeps : Keeps run) (handle : Nat) (step : Span) :
    (run.clocks.use (.advance handle step)).1 =
      if handle < made run.told then
        if Span.longest.total < elapsed run.told handle run.told + step.total then .panicked
        else .advanced
      else .unknownHandle := by
  split
  case isTrue known =>
    obtain ⟨place, found⟩ := keeps.found_of_lt known
    obtain ⟨timeline, stands, tells⟩ := keeps.placed found
    rw [use_advance found stands, ← tells.elapsed]
    cases sum : timeline.value.add? step with
    | none =>
        rw [if_pos (Span.add?_eq_none_iff.mp sum), Timeline.advance_of_none sum]
        rfl
    | some time =>
        have fits := time.total_le_longest
        rw [Span.total_of_add? sum] at fits
        rw [if_neg (Nat.not_lt.mpr fits), Timeline.advance_of_some sum]
        rfl
  case isFalse unknown => rw [use, timelineOf?_of_unknown (keeps.missing_of_not_lt unknown)]

theorem now_answer (keeps : Keeps run) (known : handle < made run.told) :
    ∃ time, (run.clocks.use (.now handle)).1 = .reading time ∧
      time.total = elapsed run.told handle run.told ∧
      (plain run.told handle run.told).now = time.total := by
  obtain ⟨place, found⟩ := keeps.found_of_lt known
  obtain ⟨timeline, stands, tells⟩ := keeps.placed found
  refine ⟨timeline.value, ?_, tells.elapsed, tells.plain⟩
  rw [use, now?, timelineOf?_of_placed found stands]
  exact congrArg Answer.reading timeline.get_eq

theorem now_unknown (keeps : Keeps run) (unknown : ¬ handle < made run.told) :
    (run.clocks.use (.now handle)).1 = .unknownHandle := by
  rw [use, now?, timelineOf?_of_unknown (keeps.missing_of_not_lt unknown)]
  rfl

end Keeps

theorem ran_concat (uses : List Use) (next : Use) : ran (uses ++ [next]) = (ran uses).then next :=
  List.foldl_concat ..

theorem keeps_ran (uses : List Use) : Keeps (ran uses) := by
  induction uses using List.reverseRecOn with
  | nil => exact keeps_empty
  | append_singleton uses next ih =>
      rw [ran_concat]
      exact ih.step next

/-! The record up to some use is that of the uses before it. -/

variable {uses : List Use} {next : Use} {answer : Answer}

theorem uses_told (uses : List Use) : (ran uses).told.map (·.1) = uses := by
  induction uses using List.reverseRecOn with
  | nil => rfl
  | append_singleton uses next ih =>
      rw [ran_concat, Run.then, List.map_append, ih]
      rfl

theorem told_of_append (split : (ran uses).told = past ++ later) :
    (ran (past.map (·.1))).told = past := by
  induction later using List.reverseRecOn generalizing uses with
  | nil =>
      rw [List.append_nil] at split
      rw [← split, uses_told]
  | append_singleton later last ih =>
      rcases List.eq_nil_or_concat uses with rfl | ⟨earlier, next, rfl⟩
      · exact absurd split.symm (by simp [ran])
      · rw [List.concat_eq_append, ran_concat, Run.then, ← List.append_assoc] at split
        exact ih (List.append_inj_left' split rfl)

theorem answer_of_append (split : (ran uses).told = past ++ (next, answer) :: later) :
    answer = ((ran (past.map (·.1))).clocks.use next).1 := by
  rw [← List.singleton_append, ← List.append_assoc] at split
  have told := told_of_append split
  rw [List.map_append, List.map_singleton, ran_concat, Run.then] at told
  exact (congrArg Prod.snd (List.head_eq_of_cons_eq (List.append_inj_right' told rfl))).symm

/-- Handles made later are new, so those there were keep their source. -/
theorem source_of_append (split : (ran uses).told = past ++ later) (known : handle < made past) :
    source (past ++ later) handle = source past handle := by
  rw [source_append]
  refine congrArg (source past) (source_eq_self fun entry member => ?_)
  unfold copied
  split
  case h_2 => rfl
  case h_1 original copy x =>
    -- The copy got its number when all the handles of the past had theirs.
    obtain ⟨between, rest, rfl⟩ := List.append_of_mem member
    rw [← List.append_assoc] at split
    have keeps := keeps_ran ((past ++ between).map (·.1))
    have answer := answer_of_append split
    rw [keeps.clone_answer, told_of_append split] at answer
    have grown : made past ≤ made (past ++ between) := by
      rw [made, made, List.countP_append]
      exact Nat.le_add_right _ _
    split at answer
    case isTrue =>
      rw [if_neg]
      have number := Answer.made.inj answer
      omega
    case isFalse => cases answer

/-- What concerned a clock in the first part of a record concerns it in view of the whole. -/
theorem stepsOf_of_append (split : (ran uses).told = past ++ later) (known : handle < made past)
    (tries : ∀ entry move, kind entry = some move → tried? entry = some move) :
    stepsOf kind (past ++ later) handle past = stepsOf kind past handle past := by
  have keeps := keeps_ran (past.map (·.1))
  refine stepsOf_congr fun move member => ?_
  obtain ⟨entry, there, is⟩ := List.mem_filterMap.mp member
  have mover := keeps.tried move (List.mem_filterMap.mpr
    ⟨entry, (told_of_append split).symm ▸ there, tries entry move is⟩)
  rw [told_of_append split] at mover
  rw [source_of_append split known, source_of_append split mover]

/-- What any clocks answer to any uses of them, told by the record of these uses. A handle is known
once it was made; an advance goes well as long as the time can be told afterwards, whatever panicked
before it, by this handle or by another one of the same clock. -/
structure TellsTime (told : List (Use × Answer)) : Prop where
  created : ∀ {past later answer}, told = past ++ (.create, answer) :: later →
    answer = .made (made past)
  cloned : ∀ {past later handle answer}, told = past ++ (.clone handle, answer) :: later →
    answer = if handle < made past then .made (made past) else .unknownHandle
  advanced : ∀ {past later handle step answer},
    told = past ++ (.advance handle step, answer) :: later →
      answer = if handle < made past then
          if Span.longest.total < elapsed told handle past + step.total then .panicked
          else .advanced
        else .unknownHandle
  /-- The time is the sum of the advances that went well, and it is what a clock tells that nobody
  shares. -/
  read : ∀ {past later handle answer}, told = past ++ (.now handle, answer) :: later →
    if handle < made past then
      ∃ time, answer = .reading time ∧ time.total = elapsed told handle past ∧
        (plain told handle past).now = time.total
    else answer = .unknownHandle
  /-- Two readings of one clock are apart by the advances between them that went well. -/
  between : ∀ {past middle later g h early late},
    told = past ++ (.now g, .reading early) :: middle ++ (.now h, .reading late) :: later →
      source told g = source told h →
        early.total ≤ late.total ∧
        (late.sub early).total = elapsed told h middle ∧
        Clock.since late.total early.total = elapsed told h middle ∧
        early.sub late = .zero ∧
        Clock.since early.total late.total = 0

theorem read_of_append {past later : List (Use × Answer)}
    (split : (ran uses).told = past ++ (.now handle, answer) :: later) :
    if handle < made past then
      ∃ time, answer = .reading time ∧ time.total = elapsed (ran uses).told handle past ∧
        (plain (ran uses).told handle past).now = time.total
    else answer = .unknownHandle := by
  have keeps := keeps_ran (past.map (·.1))
  have told := told_of_append split
  rw [answer_of_append split]
  split
  case isTrue known =>
    have now := keeps.now_answer (told.symm ▸ known)
    rw [told] at now
    rw [split, elapsed, plain, stepsOf_of_append split known fun _ _ => tried_of_moved,
      stepsOf_of_append split known fun _ _ => id]
    exact now
  case isFalse unknown => exact keeps.now_unknown (told.symm ▸ unknown)

/-- However clocks are created, cloned, moved and read, and whatever of that panics, each of them
and all its clones tell the sum of the advances of it that went well; and those go well that do not
lead beyond the longest span. -/
theorem clocks_tell_time (uses : List Use) : TellsTime (ran uses).told where
  created := by
    intro past later answer split
    have keeps := keeps_ran (past.map (·.1))
    rw [answer_of_append split, use, keeps.handles, told_of_append split]
  cloned := by
    intro past later handle answer split
    have keeps := keeps_ran (past.map (·.1))
    rw [answer_of_append split, keeps.clone_answer, told_of_append split]
  advanced := by
    intro past later handle step answer split
    have keeps := keeps_ran (past.map (·.1))
    rw [answer_of_append split, keeps.advance_answer, told_of_append split]
    split
    case isTrue known =>
      rw [split, elapsed, elapsed, stepsOf_of_append split known fun _ _ => tried_of_moved]
    case isFalse => rfl
  read := read_of_append
  between := by
    intro past middle later g h early late split same
    have first : early.total = elapsed (ran uses).told h past := by
      rw [List.append_assoc] at split
      have read := read_of_append split
      split at read
      case isTrue =>
        obtain ⟨time, is, total, -⟩ := read
        rw [Answer.reading.inj is, total, elapsed_of_source same]
      case isFalse => cases read
    have second : late.total =
        elapsed (ran uses).told h past + elapsed (ran uses).told h middle := by
      have read := read_of_append split
      split at read
      case isTrue =>
        obtain ⟨time, is, total, -⟩ := read
        rw [Answer.reading.inj is, total, elapsed_append]
        rfl
      case isFalse => cases read
    have later : (late.sub early).total = elapsed (ran uses).told h middle := by
      rw [Span.total_sub]
      omega
    refine ⟨by omega, later, ?_, Span.total_injective ?_, ?_⟩
    · rw [← later, Span.total_sub]
      rfl
    · rw [Span.total_sub, Span.total_zero]
      omega
    · change early.total - late.total = 0
      omega

/-- Three fifths of a second twice carry; the step to the very end goes well and one nanosecond more
panics, by the clock or by its clone; another clock has a time of its own. -/
example :
    let part : Span := ⟨0, 600000000, by decide⟩
    let tick : Span := ⟨0, 1, by decide⟩
    let left : Span := ⟨18446744073709551614, 799999999, by decide⟩
    (ran [.create, .clone 0, .advance 0 part, .advance 1 part, .now 0, .advance 1 left,
        .advance 0 tick, .clone 1, .now 2, .advance 2 .zero, .create, .advance 3 tick, .now 3,
        .advance 1 tick, .now 0]).told.map (·.2) =
      [.made 0, .made 1, .advanced, .advanced, .reading ⟨1, 200000000, by decide⟩, .advanced,
        .panicked, .made 2, .reading .longest, .advanced, .made 3, .advanced, .reading tick,
        .panicked, .reading .longest] := by
  decide +kernel

end PolledTls.Sim.Clocks
