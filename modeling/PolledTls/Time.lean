import PolledTls.Text

/-!
Time as whole nanoseconds, and the text of a duration: the exact value in the largest of s, ms, µs
and ns that leaves a whole part, without trailing zeros.
-/
namespace PolledTls

/-- A length of time in nanoseconds. -/
abbrev Duration := Nat

/-- A reading of a clock, in nanoseconds since some fixed beginning. -/
abbrev Instant := Nat

namespace Duration

def microsecond : Duration := 1000
def millisecond : Duration := 1000 * microsecond
def second : Duration := 1000 * millisecond

/-- The longest duration: seconds fill 64 bits and nanoseconds stay below one second. -/
def longest : Duration := UInt64.size * second - 1

def add? (a b : Duration) : Option Duration :=
  if a + b ≤ longest then some (a + b) else none

theorem add?_eq_some_iff {a b sum : Duration} :
    add? a b = some sum ↔ a + b = sum ∧ sum ≤ longest := by
  simp only [add?]
  split <;> grind

theorem add?_eq_none_iff {a b : Duration} : add? a b = none ↔ longest < a + b := by
  simp [add?]

/-- The difference of two lengths of time, where there is one. -/
def sub? (a b : Duration) : Option Duration :=
  if b ≤ a then some (a - b) else none

theorem sub?_of_le {a b : Duration} (enough : b ≤ a) : sub? a b = some (a - b) :=
  if_pos enough

def overflowText : String := "overflow when adding durations"

/-- The digits of `n / 10 ^ places` after the point, ending with the last that is not zero. -/
def fractionDigits : Nat → Nat → List Char
  | 0, _ => []
  | places + 1, n =>
    if n = 0 then []
    else
      let unit := Nat.pow 10 places
      Nat.digitChar (n / unit) :: fractionDigits places (n % unit)

/-- `n / 10 ^ places` written out exactly. -/
def decimal (places n : Nat) : String :=
  let unit := Nat.pow 10 places
  let whole := toString (n / unit)
  match fractionDigits places (n % unit) with
  | [] => whole
  | digits => whole ++ "." ++ String.ofList digits

def text (d : Duration) : String :=
  if second ≤ d then decimal 9 d ++ "s"
  else if millisecond ≤ d then decimal 6 d ++ "ms"
  else if microsecond ≤ d then decimal 3 d ++ "µs"
  else decimal 0 d ++ "ns"

end Duration

/-!
A window that starts at a reading of the clock. It has passed once strictly more time has gone by;
a clock that reads earlier than the start counts as no time gone by.
-/

structure Deadline where
  started : Instant
  window : Duration
deriving DecidableEq

namespace Deadline

/-- The time gone by since the start. A difference is taken only after it, where there is one. -/
def elapsed? (deadline : Deadline) (now : Instant) : Option Duration :=
  if now ≤ deadline.started then some 0 else Duration.sub? now deadline.started

def elapsed (deadline : Deadline) (now : Instant) : Duration :=
  (deadline.elapsed? now).getD 0

theorem elapsed?_eq (deadline : Deadline) (now : Instant) :
    deadline.elapsed? now = some (now - deadline.started) := by
  by_cases early : now ≤ deadline.started
  · rw [elapsed?, if_pos early, Nat.sub_eq_zero_of_le early]
  · rw [elapsed?, if_neg early, Duration.sub?_of_le (Nat.le_of_not_le early)]

theorem elapsed_eq (deadline : Deadline) (now : Instant) :
    deadline.elapsed now = now - deadline.started := by
  rw [elapsed, elapsed?_eq, Option.getD_some]

/-- The elapsed time, once it exceeds the window. -/
def passed? (deadline : Deadline) (now : Instant) : Option Duration :=
  let elapsed := deadline.elapsed now
  if deadline.window < elapsed then some elapsed else none

theorem passed?_eq_some_iff {deadline : Deadline} {now : Instant} {elapsed : Duration} :
    deadline.passed? now = some elapsed ↔
      elapsed = deadline.elapsed now ∧ deadline.window < elapsed := by
  simp only [passed?]
  split <;> grind

theorem passed?_eq_none_iff {deadline : Deadline} {now : Instant} :
    deadline.passed? now = none ↔ deadline.elapsed now ≤ deadline.window := by
  simp [passed?]

theorem elapsed_shift (started now shift : Instant) (window : Duration) :
    elapsed ⟨started + shift, window⟩ (now + shift) = elapsed ⟨started, window⟩ now := by
  rw [elapsed_eq, elapsed_eq]
  exact Nat.add_sub_add_right now shift started

def hasPassed (deadline : Deadline) (now : Instant) : Bool :=
  (deadline.passed? now).isSome

/-- The text over the virtual clock, whose readings start at zero. -/
def spelled (deadline : Deadline) : String :=
  Text.record "Deadline"
    [("started", Text.applied "SimInstant" [Duration.text deadline.started]),
      ("window", deadline.window.text)] false

end Deadline

end PolledTls
