import Mathlib.Algebra.Ring.Nat
import PolledTls.Time

/-!
Numbers and durations in a text. A text is cut in one way only where characters of one kind end, so
a number can be read back from its digits and a duration from its figures and its unit.
-/
namespace PolledTls

/-- Two cuts of a text where the characters of a kind end are the same. -/
theorem cut_unique {p : Char → Bool} {a b rest others : List Char}
    (every : ∀ c ∈ a, p c = true) (all : ∀ c ∈ b, p c = true)
    (ends : ∀ c ∈ rest.head?, p c = false) (stops : ∀ c ∈ others.head?, p c = false)
    (same : a ++ rest = b ++ others) : a = b ∧ rest = others := by
  have nothing {tail : List Char} (other : ∀ c ∈ tail.head?, p c = false) :
      tail.takeWhile p = [] := by
    cases tail with
    | nil => rfl
    | cons c tail => exact List.takeWhile_cons_of_neg (Bool.eq_false_iff.mp (other c rfl))
  have fronts := congrArg (List.takeWhile p) same
  rw [List.takeWhile_append_of_pos every, List.takeWhile_append_of_pos all, nothing ends,
    nothing stops, List.append_nil, List.append_nil] at fronts
  subst fronts
  exact ⟨rfl, List.append_cancel_left same⟩

theorem toList_toString (n : Nat) : (toString n).toList = Nat.toDigits 10 n := by
  rw [Nat.toString_eq_ofList_toDigits, String.toList_ofList]

theorem isDigit_of_mem_toString {n : Nat} {c : Char} (member : c ∈ (toString n).toList) :
    c.isDigit = true := by
  rw [toList_toString] at member
  exact Nat.isDigit_of_mem_toDigits (by decide) (by decide) member

theorem toString_injective {n m : Nat} (same : (toString n).toList = (toString m).toList) :
    n = m := by
  rw [toList_toString, toList_toString] at same
  have values := congrArg (Nat.ofDigitChars 10 · 0) same
  rwa [Nat.ofDigitChars_ten_toDigits, Nat.ofDigitChars_ten_toDigits] at values

theorem digitChar_injective {n m : Nat} (small : n < 10) (little : m < 10)
    (same : n.digitChar = m.digitChar) : n = m := by
  have codes := congrArg Char.toNat same
  rw [Nat.toNat_digitChar_of_lt_ten small, Nat.toNat_digitChar_of_lt_ten little] at codes
  exact Nat.add_left_cancel codes

namespace Duration

theorem leading_lt {places n : Nat} (within : n < 10 ^ (places + 1)) : n / 10 ^ places < 10 := by
  rw [Nat.pow_succ] at within
  exact Nat.div_lt_of_lt_mul within

theorem isDigit_of_mem_fractionDigits {places n : Nat} {c : Char} (within : n < 10 ^ places)
    (member : c ∈ fractionDigits places n) : c.isDigit = true := by
  induction places generalizing n with
  | zero => cases member
  | succ places ih =>
      rw [fractionDigits] at member
      split at member
      · cases member
      · rcases List.mem_cons.mp member with rfl | later
        · rw [Nat.isDigit_digitChar]
          exact decide_eq_true (leading_lt within)
        · exact ih (Nat.mod_lt _ (Nat.pow_pos (by decide))) later

/-- Zeros at the end are not written, and yet no two fractions are written alike. -/
theorem fractionDigits_injective {places n m : Nat} (within : n < 10 ^ places)
    (inside : m < 10 ^ places) (same : fractionDigits places n = fractionDigits places m) :
    n = m := by
  induction places generalizing n m with
  | zero => omega
  | succ places ih =>
      have unit : 0 < 10 ^ places := Nat.pow_pos (by decide)
      rw [fractionDigits, fractionDigits] at same
      split at same <;> split at same
      · omega
      · cases same
      · cases same
      · obtain ⟨first, later⟩ := List.cons.inj same
        have leading := digitChar_injective (leading_lt within) (leading_lt inside) first
        have others := ih (Nat.mod_lt _ unit) (Nat.mod_lt _ unit) later
        rw [← Nat.div_add_mod n (10 ^ places), ← Nat.div_add_mod m (10 ^ places), leading, others]

/-- A fraction behind its point, if there is any. -/
def pointed : List Char → List Char
  | [] => []
  | digits => '.' :: digits

theorem toList_decimal (places n : Nat) :
    (decimal places n).toList = (toString (n / 10 ^ places)).toList ++
      pointed (fractionDigits places (n % 10 ^ places)) := by
  change (match fractionDigits places (n % 10 ^ places) with
    | [] => toString (n / 10 ^ places)
    | digits => toString (n / 10 ^ places) ++ "." ++ String.ofList digits).toList = _
  cases fractionDigits places (n % 10 ^ places) with
  | nil => exact (List.append_nil _).symm
  | cons digit digits =>
      simp only [String.toList_append, String.toList_ofList, List.append_assoc]
      rfl

theorem pointed_injective {digits others : List Char} (same : pointed digits = pointed others) :
    digits = others := by
  cases digits <;> cases others <;> cases same <;> rfl

theorem decimal_injective {places n m : Nat}
    (same : (decimal places n).toList = (decimal places m).toList) : n = m := by
  have unit : 0 < 10 ^ places := Nat.pow_pos (by decide)
  have point (digits : List Char) : ∀ c ∈ (pointed digits).head?, c.isDigit = false := by
    intro c first
    cases digits <;> cases first
    rfl
  rw [toList_decimal, toList_decimal] at same
  obtain ⟨whole, part⟩ := cut_unique (fun c => isDigit_of_mem_toString)
    (fun c => isDigit_of_mem_toString) (point _) (point _) same
  have fraction := fractionDigits_injective (Nat.mod_lt _ unit) (Nat.mod_lt _ unit)
    (pointed_injective part)
  rw [← Nat.div_add_mod n (10 ^ places), ← Nat.div_add_mod m (10 ^ places),
    toString_injective whole, fraction]

/-- A character of the numeral of a duration. -/
def isFigure (c : Char) : Bool :=
  c.isDigit || c == '.'

theorem isFigure_of_mem_decimal {places n : Nat} {c : Char}
    (member : c ∈ (decimal places n).toList) : isFigure c = true := by
  rw [toList_decimal] at member
  rcases List.mem_append.mp member with whole | part
  · rw [isFigure, isDigit_of_mem_toString whole, Bool.true_or]
  · have digits := @isDigit_of_mem_fractionDigits places (n % 10 ^ places) c
      (Nat.mod_lt _ (Nat.pow_pos (by decide)))
    cases written : fractionDigits places (n % 10 ^ places) with
    | nil => rw [written] at part; cases part
    | cons digit rest =>
        rw [written] at part digits
        rcases List.mem_cons.mp part with rfl | later
        · rfl
        · rw [isFigure, digits later, Bool.true_or]

/-- How many decimal places below each unit a duration can have. -/
def units : List (Nat × String) :=
  [(9, "s"), (6, "ms"), (3, "µs"), (0, "ns")]

theorem exists_unit (d : Duration) :
    ∃ unit ∈ units, d.text = decimal unit.1 d ++ unit.2 := by
  rw [text]
  split
  · exact ⟨(9, "s"), by decide, rfl⟩
  split
  · exact ⟨(6, "ms"), by decide, rfl⟩
  split
  · exact ⟨(3, "µs"), by decide, rfl⟩
  · exact ⟨(0, "ns"), by decide, rfl⟩

theorem text_injective {a b : Duration} (same : a.text.toList = b.text.toList) : a = b := by
  obtain ⟨unit, known, spelled⟩ := a.exists_unit
  obtain ⟨other, listed, written⟩ := b.exists_unit
  rw [spelled, written, String.toList_append, String.toList_append] at same
  have letters : ∀ unit ∈ units, ∀ c ∈ unit.2.toList.head?, isFigure c = false := by
    have all : ∀ unit ∈ units, unit.2.toList.head?.all (!isFigure ·) = true := by decide +kernel
    intro unit known c first
    exact (Bool.not_eq_true' _).mp ((Option.all_eq_true _ _).mp (all unit known) c first)
  have distinct : ∀ unit ∈ units, ∀ other ∈ units, unit.2 = other.2 → unit = other := by
    decide +kernel
  obtain ⟨figures, name⟩ := cut_unique (fun c => isFigure_of_mem_decimal)
    (fun c => isFigure_of_mem_decimal) (letters unit known) (letters other listed) same
  obtain rfl := distinct unit known other listed (String.toList_inj.mp name)
  exact decimal_injective figures

theorem space_not_mem_text (d : Duration) : ' ' ∉ d.text.toList := by
  obtain ⟨unit, known, spelled⟩ := d.exists_unit
  rw [spelled, String.toList_append]
  intro member
  rcases List.mem_append.mp member with figure | letter
  · have := isFigure_of_mem_decimal figure
    cases this
  · have spaceless : ∀ unit ∈ units, ' ' ∉ unit.2.toList := by decide +kernel
    exact spaceless unit known letter

end Duration
end PolledTls
