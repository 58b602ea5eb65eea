import PolledTls.Time.Span

/-!
Virtual time: a clock that nobody shares, and clocks as their owners hold them, with the lock that
guards the time of each.
-/
namespace PolledTls

/-!
A value under a lock. Whoever panics with the lock in hand leaves the value as it stands, and the
lock poisoned: it can still be taken, but whoever takes it is told.
-/

structure Locked (α : Type) where
  value : α
  poisoned : Bool
deriving DecidableEq

namespace Locked

variable {α : Type}

def clean (value : α) : Locked α :=
  ⟨value, false⟩

/-- The value as one gets it with the lock. Of a poisoned lock it comes as an error. -/
def take (cell : Locked α) : Except α α :=
  if cell.poisoned then .error cell.value else .ok cell.value

/-- The value, poisoned or not. -/
def get (cell : Locked α) : α :=
  match cell.take with
  | .ok value | .error value => value

/-- Changes the value with the lock in hand. Where there is no new value this panics, before
anything is written. -/
def update (cell : Locked α) (change : α → Option α) : Bool × Locked α :=
  match change cell.get with
  | some value => (true, { cell with value })
  | none => (false, { cell with poisoned := true })

@[simp] theorem get_eq (cell : Locked α) : cell.get = cell.value := by
  unfold get take
  cases cell.poisoned <;> rfl

theorem update_of_some {cell : Locked α} {change : α → Option α} {value : α}
    (changed : change cell.value = some value) :
    cell.update change = (true, { cell with value }) := by
  rw [update, get_eq, changed]

theorem update_of_none {cell : Locked α} {change : α → Option α}
    (panics : change cell.value = none) :
    cell.update change = (false, { cell with poisoned := true }) := by
  rw [update, get_eq, panics]

end Locked

namespace Sim

/-!
A clock of virtual time: it starts at zero and moves only when told to.
-/

structure Clock where
  now : Instant
deriving DecidableEq

namespace Clock

def start : Clock := ⟨0⟩

def advance? (clock : Clock) (step : Duration) : Option Clock :=
  (Duration.add? clock.now step).map Clock.mk

/-- The clock after an advance; one that would pass the longest duration leaves it as it is. -/
def advance (clock : Clock) (step : Duration) : Clock :=
  (clock.advance? step).getD clock

theorem advance_of_le {clock : Clock} {step : Duration}
    (fits : clock.now + step ≤ Duration.longest) : clock.advance step = ⟨clock.now + step⟩ := by
  rw [advance, advance?, Duration.add?_eq_some_iff.mpr ⟨rfl, fits⟩]
  rfl

theorem advance_of_lt {clock : Clock} {step : Duration}
    (beyond : Duration.longest < clock.now + step) : clock.advance step = clock := by
  rw [advance, advance?, Duration.add?_eq_none_iff.mpr beyond]
  rfl

/-- The time from one reading to another, zero if there is none. -/
def since (later earlier : Instant) : Duration :=
  later - earlier

def spelled (clock : Clock) : String :=
  Text.record "SimClock" [("elapsed", Duration.text clock.now)] false

end Clock

/-!
Clocks of virtual time as their owners hold them. A handle names the timeline that it reads and
moves; a clone of it names the same one, and a new clock has a timeline of its own.
-/

/-- The time of a clock and of all its clones. -/
abbrev Timeline := Locked Span

namespace Timeline

def start : Timeline := .clean .zero

def now (timeline : Timeline) : Span :=
  timeline.get

/-- Moves the time forward, and says whether that went well: beyond the longest span it panics. -/
def advance (timeline : Timeline) (step : Span) : Bool × Timeline :=
  timeline.update (·.add? step)

theorem advance_of_some {timeline : Timeline} {step sum : Span}
    (fits : timeline.value.add? step = some sum) :
    timeline.advance step = (true, { timeline with value := sum }) :=
  Locked.update_of_some fits

theorem advance_of_none {timeline : Timeline} {step : Span}
    (beyond : timeline.value.add? step = none) :
    timeline.advance step = (false, { timeline with poisoned := true }) :=
  Locked.update_of_none beyond

end Timeline

structure Clocks where
  timelines : List Timeline
  /-- The place of the timeline that each handle names. -/
  handles : List Nat

namespace Clocks

inductive Use where
  | create
  | clone (handle : Nat)
  | advance (handle : Nat) (step : Span)
  | now (handle : Nat)
deriving DecidableEq

inductive Answer where
  | made (handle : Nat)
  | advanced
  | panicked
  | reading (time : Span)
  | unknownHandle
deriving DecidableEq

def empty : Clocks := ⟨[], []⟩

def timelineOf? (clocks : Clocks) (handle : Nat) : Option (Nat × Timeline) := do
  let place ← clocks.handles[handle]?
  let timeline ← clocks.timelines[place]?
  return (place, timeline)

def now? (clocks : Clocks) (handle : Nat) : Option Span :=
  (clocks.timelineOf? handle).map (·.2.now)

def use (clocks : Clocks) : Use → Answer × Clocks
  | .create =>
    (.made clocks.handles.length,
      ⟨clocks.timelines ++ [.start], clocks.handles ++ [clocks.timelines.length]⟩)
  | .clone handle =>
    match clocks.handles[handle]? with
    | none => (.unknownHandle, clocks)
    | some place =>
      (.made clocks.handles.length, { clocks with handles := clocks.handles ++ [place] })
  | .advance handle step =>
    match clocks.timelineOf? handle with
    | none => (.unknownHandle, clocks)
    | some (place, timeline) =>
      let (moved, timeline) := timeline.advance step
      (if moved then .advanced else .panicked,
        { clocks with timelines := clocks.timelines.set place timeline })
  | .now handle =>
    match clocks.now? handle with
    | none => (.unknownHandle, clocks)
    | some time => (.reading time, clocks)

variable {clocks : Clocks} {handle place : Nat} {timeline : Timeline}

theorem timelineOf?_of_placed (found : clocks.handles[handle]? = some place)
    (stands : clocks.timelines[place]? = some timeline) :
    clocks.timelineOf? handle = some (place, timeline) := by
  rw [timelineOf?, found]
  change (clocks.timelines[place]?.bind fun timeline => some (place, timeline)) = _
  rw [stands]
  rfl

theorem timelineOf?_of_unknown (missing : clocks.handles[handle]? = none) :
    clocks.timelineOf? handle = none := by
  rw [timelineOf?, missing]
  rfl

theorem use_advance (found : clocks.handles[handle]? = some place)
    (stands : clocks.timelines[place]? = some timeline) (step : Span) :
    clocks.use (.advance handle step) =
      (if (timeline.advance step).1 then .advanced else .panicked,
        { clocks with timelines := clocks.timelines.set place (timeline.advance step).2 }) := by
  rw [use, timelineOf?_of_placed found stands]

/-- A clock and a clone of it. -/
def pair : Clocks :=
  ((empty.use .create).2.use (.clone 0)).2

end Clocks

end Sim
end PolledTls
