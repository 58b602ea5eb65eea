/-!
Bytes whose number is at hand, and the buffer they are read into.
-/
namespace PolledTls

structure Bytes where
  toList : List UInt8
  size : Nat
  length_toList : toList.length = size
deriving DecidableEq

namespace Bytes

def ofList (bytes : List UInt8) : Bytes :=
  ⟨bytes, bytes.length, rfl⟩

def isEmpty (bytes : Bytes) : Bool :=
  bytes.size == 0

def take (bytes : Bytes) (count : Nat) : List UInt8 :=
  bytes.toList.take count

def drop (bytes : Bytes) (count : Nat) : Bytes :=
  ⟨bytes.toList.drop count, bytes.size - count, by simp [bytes.length_toList]⟩

@[ext] theorem ext {a b : Bytes} (h : a.toList = b.toList) : a = b := by
  obtain ⟨x, _, rfl⟩ := a
  obtain ⟨y, _, rfl⟩ := b
  obtain rfl : x = y := h
  rfl

@[simp] theorem toList_ofList (bytes : List UInt8) : (ofList bytes).toList = bytes := rfl

@[simp] theorem toList_drop (bytes : Bytes) (count : Nat) :
    (bytes.drop count).toList = bytes.toList.drop count := rfl

theorem size_eq (bytes : Bytes) : bytes.size = bytes.toList.length :=
  bytes.length_toList.symm

end Bytes

/-- A buffer with room for a number of bytes, all zero at first. What has been stored stands at the
front and is kept from one read to the next. -/
structure Buffer where
  room : Nat
  front : List UInt8
  length_front : front.length ≤ room
deriving DecidableEq

namespace Buffer

def zeroed (room : Nat) : Buffer :=
  ⟨room, [], Nat.zero_le room⟩

def toList (buffer : Buffer) : List UInt8 :=
  buffer.front ++ List.replicate (buffer.room - buffer.front.length) 0

/-- Stores bytes over the front, as far as there is room. -/
def store (buffer : Buffer) (bytes : List UInt8) : Buffer where
  room := buffer.room
  front :=
    let stored := bytes.take buffer.room
    stored ++ buffer.front.drop stored.length
  length_front := by
    have := buffer.length_front
    simp only [List.length_append, List.length_drop, List.length_take]
    omega

def take (buffer : Buffer) (count : Nat) : List UInt8 :=
  let stored := buffer.front.take count
  stored ++ List.replicate (min count buffer.room - stored.length) 0

@[simp] theorem length_toList (buffer : Buffer) : buffer.toList.length = buffer.room := by
  have := buffer.length_front
  simp only [toList, List.length_append, List.length_replicate]
  omega

theorem take_eq (buffer : Buffer) (count : Nat) : buffer.take count = buffer.toList.take count := by
  have := buffer.length_front
  simp only [take, toList, List.take_append, List.take_replicate, List.length_take]
  congr 2
  omega

theorem toList_store (buffer : Buffer) (bytes : List UInt8) :
    (buffer.store bytes).toList =
      bytes.take buffer.room ++ buffer.toList.drop (bytes.take buffer.room).length := by
  have := buffer.length_front
  have h : (bytes.take buffer.room).length ≤ buffer.room := by
    simp only [List.length_take]
    omega
  simp only [toList, store]
  generalize bytes.take buffer.room = stored at h
  rw [List.drop_append, List.drop_replicate, List.append_assoc, List.length_append,
    List.length_drop]
  congr 3
  omega

/-- Bytes that were stored whole are what is taken again. -/
theorem take_store {buffer : Buffer} {bytes : List UInt8} {count : Nat}
    (whole : (bytes.take buffer.room).length = count) :
    (buffer.store bytes).take (min count buffer.room) = bytes.take buffer.room := by
  have within : count ≤ buffer.room := by
    rw [← whole, List.length_take]
    exact Nat.min_le_left _ _
  rw [Nat.min_eq_left within, take_eq, toList_store]
  exact List.take_left' whole

end Buffer
end PolledTls
