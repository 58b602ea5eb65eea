import PolledTls.Time

/-!
A duration as it is kept: whole seconds in 64 bits, and the nanoseconds beyond them. A sum carries
from the nanoseconds into the seconds and a difference borrows from the seconds; both come to the
sum and the difference in nanoseconds, where those can be kept.
-/
namespace PolledTls

structure Span where
  seconds : UInt64
  nanos : UInt32
  nanos_lt : nanos < 1000000000
deriving DecidableEq

namespace Span

def zero : Span := ⟨0, 0, by decide⟩

/-- As many seconds as 64 bits can count, and one nanosecond less than another second. -/
def longest : Span := ⟨18446744073709551615, 999999999, by decide⟩

/-- The nanoseconds in all. -/
def total (span : Span) : Nat :=
  1000000000 * span.seconds.toNat + span.nanos.toNat

@[simp] theorem total_zero : zero.total = 0 := rfl

theorem total_longest : longest.total = Duration.longest := rfl

theorem toNat_nanos_lt (span : Span) : span.nanos.toNat < 1000000000 :=
  UInt32.lt_iff_toNat_lt.mp span.nanos_lt

theorem total_le_longest (span : Span) : span.total ≤ longest.total := by
  have seconds := span.seconds.toNat_lt
  have nanos := span.toNat_nanos_lt
  change 1000000000 * _ + _ ≤ 18446744073709551615999999999
  omega

theorem total_injective {a b : Span} (same : a.total = b.total) : a = b := by
  have first := a.toNat_nanos_lt
  have second := b.toNat_nanos_lt
  rw [total, total] at same
  have seconds : a.seconds = b.seconds := UInt64.toNat_inj.mp (by omega)
  have nanos : a.nanos = b.nanos := UInt32.toNat_inj.mp (by omega)
  cases a
  cases b
  cases seconds
  cases nanos
  rfl

theorem toNat_ofNat_mod (n : Nat) : (UInt32.ofNat (n % 1000000000)).toNat = n % 1000000000 := by
  have less := Nat.mod_lt n (show 0 < 1000000000 by decide)
  exact UInt32.toNat_ofNat_of_lt' (Nat.lt_trans less (by decide))

/-- The span of so many nanoseconds, unless they are too many. -/
def ofNanos? (n : Nat) : Option Span :=
  if n ≤ longest.total then
    some ⟨.ofNat (n / 1000000000), .ofNat (n % 1000000000), by
      rw [UInt32.lt_iff_toNat_lt, toNat_ofNat_mod]
      exact Nat.mod_lt n (by decide)⟩
  else none

theorem total_of_ofNanos? {n : Nat} {span : Span} (found : ofNanos? n = some span) :
    span.total = n := by
  unfold ofNanos? at found
  split at found
  case isTrue fits =>
    obtain rfl := Option.some.inj found
    change n ≤ 18446744073709551615999999999 at fits
    have seconds : (UInt64.ofNat (n / 1000000000)).toNat = n / 1000000000 :=
      UInt64.toNat_ofNat_of_lt' (by change _ < 18446744073709551616; omega)
    change 1000000000 * (UInt64.ofNat _).toNat + (UInt32.ofNat _).toNat = n
    rw [seconds, toNat_ofNat_mod, Nat.div_add_mod]
  case isFalse => cases found

/-- A sum of whole seconds, unless 64 bits cannot hold it. -/
def addSeconds? (a b : UInt64) : Option UInt64 :=
  if a.toNat + b.toNat < UInt64.size then some (a + b) else none

def subSeconds? (a b : UInt64) : Option UInt64 :=
  if b ≤ a then some (a - b) else none

theorem addSeconds?_eq_some_iff {a b sum : UInt64} :
    addSeconds? a b = some sum ↔ sum.toNat = a.toNat + b.toNat := by
  unfold addSeconds?
  split
  case isTrue fits =>
    rw [Option.some.injEq, ← UInt64.toNat_inj, UInt64.toNat_add, Nat.mod_eq_of_lt fits]
    exact eq_comm
  case isFalse most =>
    have bound := sum.toNat_lt_size
    simp only [reduceCtorEq, false_iff]
    omega

theorem addSeconds?_eq_none_iff {a b : UInt64} :
    addSeconds? a b = none ↔ 18446744073709551616 ≤ a.toNat + b.toNat := by
  simp [addSeconds?, UInt64.size]

theorem subSeconds?_eq_some_iff {a b rest : UInt64} :
    subSeconds? a b = some rest ↔ a.toNat = rest.toNat + b.toNat := by
  unfold subSeconds?
  split
  case isTrue enough =>
    have le := UInt64.le_iff_toNat_le.mp enough
    rw [Option.some.injEq, ← UInt64.toNat_inj, UInt64.toNat_sub_of_le _ _ enough]
    omega
  case isFalse short =>
    rw [UInt64.le_iff_toNat_le] at short
    simp only [reduceCtorEq, false_iff]
    omega

theorem subSeconds?_eq_none_iff {a b : UInt64} :
    subSeconds? a b = none ↔ a.toNat < b.toNat := by
  simp [subSeconds?, UInt64.lt_iff_toNat_lt]

/-- Two parts of a second come to less than 32 bits can hold. -/
theorem toNat_nanos_add (a b : Span) :
    (a.nanos + b.nanos).toNat = a.nanos.toNat + b.nanos.toNat := by
  have first := a.toNat_nanos_lt
  have second := b.toNat_nanos_lt
  rw [UInt32.toNat_add]
  omega

theorem nanos_add_lt_iff {a b : Span} :
    a.nanos + b.nanos < 1000000000 ↔ a.nanos.toNat + b.nanos.toNat < 1000000000 := by
  rw [UInt32.lt_iff_toNat_lt, toNat_nanos_add]
  rfl

theorem toNat_carried {a b : Span} (full : ¬ a.nanos + b.nanos < 1000000000) :
    (a.nanos + b.nanos - 1000000000).toNat = a.nanos.toNat + b.nanos.toNat - 1000000000 := by
  rw [UInt32.not_lt] at full
  rw [UInt32.toNat_sub_of_le _ _ full, toNat_nanos_add]
  rfl

theorem carried_lt {a b : Span} (full : ¬ a.nanos + b.nanos < 1000000000) :
    a.nanos + b.nanos - 1000000000 < 1000000000 := by
  have first := a.toNat_nanos_lt
  have second := b.toNat_nanos_lt
  rw [UInt32.lt_iff_toNat_lt, toNat_carried full]
  change _ < 1000000000
  omega

theorem toNat_borrowed (a b : Span) :
    (a.nanos + 1000000000 - b.nanos).toNat = a.nanos.toNat + 1000000000 - b.nanos.toNat := by
  have first := a.toNat_nanos_lt
  have second := b.toNat_nanos_lt
  have lent : (a.nanos + 1000000000).toNat = a.nanos.toNat + 1000000000 := by
    rw [UInt32.toNat_add]
    change (_ + 1000000000) % 4294967296 = _
    omega
  rw [UInt32.toNat_sub_of_le _ _ (UInt32.le_iff_toNat_le.mpr (by omega)), lent]

theorem borrowed_lt {a b : Span} (short : ¬ b.nanos ≤ a.nanos) :
    a.nanos + 1000000000 - b.nanos < 1000000000 := by
  rw [UInt32.le_iff_toNat_le] at short
  rw [UInt32.lt_iff_toNat_lt, toNat_borrowed]
  change _ < 1000000000
  omega

theorem nanos_sub_lt {a b : Span} (enough : b.nanos ≤ a.nanos) :
    a.nanos - b.nanos < 1000000000 := by
  have first := a.toNat_nanos_lt
  rw [UInt32.lt_iff_toNat_lt, UInt32.toNat_sub_of_le _ _ enough]
  change _ < 1000000000
  omega

/-- The sum, unless it is longer than the longest span. -/
def add? (a b : Span) : Option Span :=
  if fits : a.nanos + b.nanos < 1000000000 then
    (addSeconds? a.seconds b.seconds).map fun seconds => ⟨seconds, a.nanos + b.nanos, fits⟩
  else
    (addSeconds? a.seconds b.seconds).bind (addSeconds? · 1) |>.map fun seconds =>
      ⟨seconds, a.nanos + b.nanos - 1000000000, carried_lt fits⟩

def sub? (a b : Span) : Option Span :=
  if enough : b.nanos ≤ a.nanos then
    (subSeconds? a.seconds b.seconds).map fun seconds =>
      ⟨seconds, a.nanos - b.nanos, nanos_sub_lt enough⟩
  else
    (subSeconds? a.seconds b.seconds).bind (subSeconds? · 1) |>.map fun seconds =>
      ⟨seconds, a.nanos + 1000000000 - b.nanos, borrowed_lt enough⟩

/-- The difference, or nothing where the second span is the longer one. -/
def sub (a b : Span) : Span :=
  (a.sub? b).getD zero

theorem total_of_add? {a b sum : Span} (kept : a.add? b = some sum) :
    sum.total = a.total + b.total := by
  unfold add? at kept
  split at kept
  case isTrue fits =>
    obtain ⟨seconds, whole, rfl⟩ := Option.map_eq_some_iff.mp kept
    rw [addSeconds?_eq_some_iff] at whole
    simp only [total, toNat_nanos_add, whole]
    omega
  case isFalse full =>
    obtain ⟨seconds, carried, rfl⟩ := Option.map_eq_some_iff.mp kept
    obtain ⟨whole, first, one⟩ := Option.bind_eq_some_iff.mp carried
    rw [addSeconds?_eq_some_iff] at first one
    change seconds.toNat = _ + 1 at one
    rw [nanos_add_lt_iff] at full
    simp only [total, toNat_carried (mt nanos_add_lt_iff.mp full), one, first]
    omega

theorem longest_lt_of_add? {a b : Span} (lost : a.add? b = none) :
    longest.total < a.total + b.total := by
  change 18446744073709551615999999999 < _
  unfold add? at lost
  split at lost
  case isTrue fits =>
    rw [Option.map_eq_none_iff, addSeconds?_eq_none_iff] at lost
    rw [total, total]
    omega
  case isFalse full =>
    rw [Option.map_eq_none_iff, Option.bind_eq_none_iff] at lost
    rw [nanos_add_lt_iff] at full
    rw [total, total]
    cases whole : addSeconds? a.seconds b.seconds with
    | none =>
        rw [addSeconds?_eq_none_iff] at whole
        omega
    | some seconds =>
        have one := addSeconds?_eq_none_iff.mp (lost seconds whole)
        change _ ≤ _ + 1 at one
        rw [addSeconds?_eq_some_iff] at whole
        omega

theorem add?_eq_none_iff {a b : Span} :
    a.add? b = none ↔ longest.total < a.total + b.total := by
  refine ⟨longest_lt_of_add?, fun beyond => Option.eq_none_iff_forall_ne_some.mpr ?_⟩
  intro sum kept
  have most := sum.total_le_longest
  rw [total_of_add? kept] at most
  omega

theorem total_of_sub? {a b rest : Span} (left : a.sub? b = some rest) :
    a.total = rest.total + b.total := by
  unfold sub? at left
  split at left
  case isTrue enough =>
    obtain ⟨seconds, whole, rfl⟩ := Option.map_eq_some_iff.mp left
    rw [subSeconds?_eq_some_iff] at whole
    have le := UInt32.le_iff_toNat_le.mp enough
    simp only [total, UInt32.toNat_sub_of_le _ _ enough, whole]
    omega
  case isFalse short =>
    obtain ⟨seconds, borrowed, rfl⟩ := Option.map_eq_some_iff.mp left
    obtain ⟨whole, first, one⟩ := Option.bind_eq_some_iff.mp borrowed
    rw [subSeconds?_eq_some_iff] at first one
    change _ = _ + 1 at one
    have bound := b.toNat_nanos_lt
    simp only [total, toNat_borrowed, first, one]
    omega

theorem lt_of_sub? {a b : Span} (nothing : a.sub? b = none) : a.total < b.total := by
  have bound := a.toNat_nanos_lt
  unfold sub? at nothing
  split at nothing
  case isTrue enough =>
    rw [Option.map_eq_none_iff, subSeconds?_eq_none_iff] at nothing
    rw [total, total]
    omega
  case isFalse short =>
    rw [Option.map_eq_none_iff, Option.bind_eq_none_iff] at nothing
    rw [UInt32.le_iff_toNat_le] at short
    rw [total, total]
    cases whole : subSeconds? a.seconds b.seconds with
    | none =>
        rw [subSeconds?_eq_none_iff] at whole
        omega
    | some seconds =>
        have one := subSeconds?_eq_none_iff.mp (nothing seconds whole)
        change _ < 1 at one
        rw [subSeconds?_eq_some_iff] at whole
        omega

theorem total_sub (a b : Span) : (a.sub b).total = a.total - b.total := by
  rw [sub]
  cases left : a.sub? b with
  | none =>
      have less := lt_of_sub? left
      rw [Option.getD_none, total_zero]
      omega
  | some rest =>
      rw [Option.getD_some, total_of_sub? left, Nat.add_sub_cancel]

end Span
end PolledTls
