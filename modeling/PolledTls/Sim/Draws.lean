/-!
The choices of a simulation. A network draws from any source that keeps to the range it is asked
for, and that is all that is concluded from. The source that is run stands for a generator that is
not part of this program: a stream of 64-bit values that a seed fixes once and for all, the ChaCha
key stream with 20 rounds, and uniform choices made of it.
-/
namespace PolledTls.Sim

/-- A source of choices and how far it has been drawn from. -/
structure Draws where
  /-- The choice made at a place, between a least and a greatest value, and the place after it. -/
  draw : Nat → Nat → Nat → Nat × Nat
  draw_bounds : ∀ place least most, least ≤ most →
    least ≤ (draw place least most).1 ∧ (draw place least most).1 ≤ most
  place : Nat

namespace Draws

/-- Always the least value. -/
def least : Draws where
  draw place least _ := (least, place)
  draw_bounds _ least _ h := ⟨Nat.le_refl least, h⟩
  place := 0

def between (draws : Draws) (least most : Nat) : Nat × Draws :=
  let (choice, place) := draws.draw draws.place least most
  (choice, { draws with place })

theorem between_bounds (draws : Draws) {least most : Nat} (h : least ≤ most) :
    least ≤ (draws.between least most).1 ∧ (draws.between least most).1 ≤ most :=
  draws.draw_bounds draws.place least most h

end Draws

/-- The sixteen words a key-stream block is computed on. -/
abbrev Block := Array UInt32

namespace Block

def rotateLeft (x amount : UInt32) : UInt32 :=
  (x <<< amount) ||| (x >>> (32 - amount))

def quarterRound (a b c d : Nat) (w : Block) : Block :=
  let mix (x y z : Nat) (amount : UInt32) (w : Block) : Block :=
    let w := w.setIfInBounds x (w.getD x 0 + w.getD y 0)
    w.setIfInBounds z (rotateLeft (w.getD z 0 ^^^ w.getD x 0) amount)
  mix c d b 7 (mix a b d 8 (mix c d b 12 (mix a b d 16 w)))

def doubleRound (w : Block) : Block :=
  let columns := quarterRound 3 7 11 15
    (quarterRound 2 6 10 14 (quarterRound 1 5 9 13 (quarterRound 0 4 8 12 w)))
  quarterRound 3 4 9 14
    (quarterRound 2 7 8 13 (quarterRound 1 6 11 12 (quarterRound 0 5 10 15 columns)))

def keyStream (key : List UInt32) (counter : Nat) : Block :=
  let constants : List UInt32 := [0x61707865, 0x3320646e, 0x79622d32, 0x6b206574]
  let start : Block :=
    (constants ++ key ++ [counter.toUInt32, (counter >>> 32).toUInt32, 0, 0]).toArray
  let mixed := (List.range 10).foldl (fun w _ => doubleRound w) start
  mixed.zipWith (· + ·) start

end Block

/-! The key stream of a seed as a source. A place in it is how many values have been taken. -/

namespace KeyStream

def rotateRight (x amount : UInt32) : UInt32 :=
  (x >>> amount) ||| (x <<< ((32 - amount) % 32))

/-- `n` key words from the state of a linear congruential generator. -/
def keyWords : Nat → UInt64 → List UInt32
  | 0, _ => []
  | n + 1, state =>
    let state := state * 6364136223846793005 + 11634580027462260723
    let word := rotateRight (((state >>> 18) ^^^ state) >>> 27).toUInt32 (state >>> 59).toUInt32
    word :: keyWords n state

/-- The value with number `index`: two words of the stream, the low one first. -/
def valueAt (key : List UInt32) (index : Nat) : Nat :=
  let block := Block.keyStream key (index / 8)
  let word := index % 8 * 2
  (block.getD word 0).toNat + UInt32.size * (block.getD (word + 1) 0).toNat

theorem valueAt_lt (key : List UInt32) (index : Nat) : valueAt key index < UInt64.size := by
  have low := UInt32.toNat_lt ((Block.keyStream key (index / 8)).getD (index % 8 * 2) 0)
  have high := UInt32.toNat_lt ((Block.keyStream key (index / 8)).getD (index % 8 * 2 + 1) 0)
  simp only [valueAt, UInt32.size, UInt64.size] at *
  omega

/-- The greatest low half with which a product is taken; the rest would favour some values. -/
def zone (range : Nat) : Nat :=
  (range <<< (63 - range.log2)) - 1

/-- A value below `range`, drawn again while the low half of the product is beyond the zone. -/
def below (key : List UInt32) (range : Nat) : Nat → Nat → Nat × Nat
  | 0, taken => (0, taken)
  | fuel + 1, taken =>
    let product := valueAt key taken * range
    if product % UInt64.size ≤ zone range then (product / UInt64.size, taken + 1)
    else below key range fuel (taken + 1)

theorem below_lt (key : List UInt32) {range : Nat} (h : 0 < range) (fuel taken : Nat) :
    (below key range fuel taken).1 < range := by
  induction fuel generalizing taken with
  | zero => exact h
  | succ fuel ih =>
    simp only [below]
    split
    · exact Nat.div_lt_of_lt_mul (Nat.mul_lt_mul_of_pos_right (valueAt_lt key taken) h)
    · exact ih _

/-- How many values the stream has before it repeats. -/
def period : Nat := 8 * UInt64.size

def between (key : List UInt32) (taken least most : Nat) : Nat × Nat :=
  let (offset, taken) := below key (most - least + 1) period taken
  (least + offset, taken)

theorem between_bounds (key : List UInt32) (taken least most : Nat) (h : least ≤ most) :
    least ≤ (between key taken least most).1 ∧ (between key taken least most).1 ≤ most := by
  have : (below key (most - least + 1) period taken).1 < most - least + 1 :=
    below_lt key (Nat.zero_lt_succ _) period taken
  simp only [between]
  omega

end KeyStream

def Draws.ofSeed (seed : UInt64) : Draws :=
  let key := KeyStream.keyWords 8 seed
  { draw := KeyStream.between key
    draw_bounds := KeyStream.between_bounds key
    place := 0 }

end PolledTls.Sim
