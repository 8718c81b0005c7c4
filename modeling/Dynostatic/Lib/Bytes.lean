/-
**Writing a range of a byte array.**

A byte array is a function from offsets. `blit` writes a range of it from a source, `fill` from a
constant; reading inside the range gives the source, reading outside gives the old byte. `slice`
reads a range as a list.
-/

import Mathlib.Logic.Basic

namespace Bytes

variable {Byte : Type*}

/-- Write `count` bytes at `low`: byte `i` of the source goes to `low + i`. -/
def blit (memory : Nat → Byte) (low count : Nat) (source : Nat → Byte) : Nat → Byte :=
  fun k => if low ≤ k ∧ k < low + count then source (k - low) else memory k

/-- Write one value at every offset of a range. -/
def fill (memory : Nat → Byte) (low count : Nat) (byte : Byte) : Nat → Byte :=
  blit memory low count fun _ => byte

theorem blit_inside {memory source : Nat → Byte} {low count k : Nat}
    (inside : low ≤ k ∧ k < low + count) : blit memory low count source k = source (k - low) :=
  if_pos inside

theorem blit_outside {memory source : Nat → Byte} {low count k : Nat}
    (outside : k < low ∨ low + count ≤ k) : blit memory low count source k = memory k :=
  if_neg (by omega)

/-- Only the bytes in the range are read from the source. -/
theorem blit_congr {memory source source' : Nat → Byte} {low count : Nat}
    (same : ∀ i < count, source i = source' i) :
    blit memory low count source = blit memory low count source' := by
  funext k
  by_cases inside : low ≤ k ∧ k < low + count
  · rw [blit_inside inside, blit_inside inside, same (k - low) (by omega)]
  · rw [blit, blit, if_neg inside, if_neg inside]

theorem fill_inside {memory : Nat → Byte} {low count k : Nat} {byte : Byte}
    (inside : low ≤ k ∧ k < low + count) : fill memory low count byte k = byte :=
  if_pos inside

theorem fill_outside {memory : Nat → Byte} {low count k : Nat} {byte : Byte}
    (outside : k < low ∨ low + count ≤ k) : fill memory low count byte k = memory k :=
  blit_outside outside

/-- A fill keeps the bytes that have its value already. -/
theorem fill_of_eq {memory : Nat → Byte} {low count k : Nat} {byte : Byte}
    (same : memory k = byte) : fill memory low count byte k = byte := by
  by_cases inside : low ≤ k ∧ k < low + count
  · exact fill_inside inside
  · exact (if_neg inside).trans same

@[simp] theorem fill_empty (memory : Nat → Byte) (low : Nat) (byte : Byte) :
    fill memory low 0 byte = memory := by
  funext k
  exact blit_outside (Nat.lt_or_ge k low)

/-- Two fills with one value commute. -/
theorem fill_comm (memory : Nat → Byte) (low count low' count' : Nat) (byte : Byte) :
    fill (fill memory low count byte) low' count' byte =
      fill (fill memory low' count' byte) low count byte := by
  funext k
  simp only [fill, blit]
  split <;> split <;> rfl

/-! ### Reading a range -/

/-- The bytes of a range, in order. -/
def slice (memory : Nat → Byte) (low count : Nat) : List Byte :=
  (List.range count).map fun i => memory (low + i)

@[simp] theorem length_slice (memory : Nat → Byte) (low count : Nat) :
    (slice memory low count).length = count := by
  unfold slice
  simp only [List.length_map, List.length_range]

theorem getElem?_slice (memory : Nat → Byte) {low count i : Nat} (inside : i < count) :
    (slice memory low count)[i]? = some (memory (low + i)) := by
  unfold slice
  rw [List.getElem?_map, List.getElem?_range inside]
  rfl

theorem slice_congr {memory memory' : Nat → Byte} {low count : Nat}
    (same : ∀ k, low ≤ k → k < low + count → memory k = memory' k) :
    slice memory low count = slice memory' low count := by
  refine List.map_congr_left fun i inside => ?_
  have bound := List.mem_range.mp inside
  exact same _ (by omega) (by omega)

/-! ### Byte strings -/

/-- Replace the bytes from an offset on. -/
def splice (old : List Byte) (offset : Nat) (bytes : List Byte) : List Byte :=
  old.take offset ++ bytes ++ old.drop (offset + bytes.length)

theorem length_splice {old bytes : List Byte} {offset : Nat}
    (inside : offset + bytes.length ≤ old.length) :
    (splice old offset bytes).length = old.length := by
  unfold splice
  simp only [List.length_append, List.length_take, List.length_drop]
  omega

theorem getElem?_splice {old bytes : List Byte} {offset : Nat}
    (inside : offset + bytes.length ≤ old.length) (i : Nat) :
    (splice old offset bytes)[i]? =
      if offset ≤ i ∧ i < offset + bytes.length then bytes[i - offset]? else old[i]? := by
  have front : (old.take offset).length = offset := by
    rw [List.length_take]
    omega
  have through : (old.take offset ++ bytes).length = offset + bytes.length := by
    rw [List.length_append, front]
  unfold splice
  rcases Nat.lt_or_ge i offset with before | from_offset
  · rw [if_neg (by omega), List.getElem?_append_left (by omega),
      List.getElem?_append_left (by omega), List.getElem?_take_of_lt before]
  · rcases Nat.lt_or_ge i (offset + bytes.length) with within | after
    · rw [if_pos ⟨from_offset, within⟩, List.getElem?_append_left (by omega),
        List.getElem?_append_right (by omega), front]
    · rw [if_neg (by omega), List.getElem?_append_right (by omega), through, List.getElem?_drop]
      congr 1
      omega

/-- **Writing inside a range splices the string read from it.** -/
theorem slice_blit {memory source : Nat → Byte} {low count inside count' : Nat}
    (fits : inside + count' ≤ count) :
    slice (blit memory (low + inside) count' source) low count =
      splice (slice memory low count) inside (slice source 0 count') := by
  have length : inside + (slice source 0 count').length ≤ (slice memory low count).length := by
    rwa [length_slice, length_slice]
  refine List.ext_getElem? fun i => ?_
  rw [getElem?_splice length, length_slice]
  rcases Nat.lt_or_ge i count with within | past
  · rw [getElem?_slice _ within]
    by_cases written : inside ≤ i ∧ i < inside + count'
    · rw [if_pos written, getElem?_slice _ (by omega), blit_inside ⟨by omega, by omega⟩]
      congr 2
      omega
    · rw [if_neg written, getElem?_slice _ within, blit_outside (by omega)]
  · rw [if_neg (by omega), List.getElem?_eq_none (by rwa [length_slice]),
      List.getElem?_eq_none (by rwa [length_slice])]

end Bytes
