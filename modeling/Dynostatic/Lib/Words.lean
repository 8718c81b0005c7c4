/-
**Words in a byte memory.**

A word is a number below a bound that is kept as `width` bytes. A `Format` says which bytes, in one
way for each word: `encode` and `decode` are inverse to each other. `load` and `store` read and
write a word at an offset; the lemmas below are what a program needs that keeps words among other
bytes: a load after a store, stores that cancel, and writes that are apart and so commute.

`littleEndian` is the format with the low byte first.
-/

import Mathlib.Algebra.Ring.Nat
import Dynostatic.Lib.Bytes

namespace Words

open Bytes

/-- **How words below `bound` are kept as bytes.** Byte strings are functions from offsets, of which
only the first `width` bytes count. -/
structure Format (Byte : Type*) (bound : Nat) where
  width : Nat
  encode : Nat → Nat → Byte
  decode : (Nat → Byte) → Nat
  decode_congr : ∀ bytes bytes' : Nat → Byte, (∀ i < width, bytes i = bytes' i) →
    decode bytes = decode bytes'
  decode_encode : ∀ word < bound, decode (encode word) = word
  encode_decode : ∀ bytes, ∀ i < width, encode (decode bytes) i = bytes i

namespace Format

variable {Byte : Type*} {bound : Nat} (format : Format Byte bound)

/-- Two words or more take a byte. -/
theorem width_pos (several : 1 < bound) : 0 < format.width := by
  refine Nat.pos_of_ne_zero fun none => ?_
  have same := format.decode_congr (format.encode 0) (format.encode 1)
    fun i inside => absurd (none ▸ inside) (Nat.not_lt_zero i)
  rw [format.decode_encode 0 (by omega), format.decode_encode 1 several] at same
  exact Nat.zero_ne_one same

/-- Read the word at an offset. -/
def load (memory : Nat → Byte) (low : Nat) : Nat := format.decode fun i => memory (low + i)

/-- Write the word at an offset. -/
def store (memory : Nat → Byte) (low word : Nat) : Nat → Byte :=
  blit memory low format.width (format.encode word)

variable {memory memory' source : Nat → Byte} {low low' word word' count : Nat}

theorem load_congr
    (same : ∀ k, low ≤ k → k < low + format.width → memory k = memory' k) :
    format.load memory low = format.load memory' low :=
  format.decode_congr _ _ fun i inside => same (low + i) (by omega) (by omega)

/-- A copy of the bytes is a copy of the word. -/
theorem load_shift (same : ∀ i < format.width, memory (low + i) = memory' (low' + i)) :
    format.load memory low = format.load memory' low' :=
  format.decode_congr _ _ same

/-- A load gives what was stored. -/
@[simp] theorem load_store (small : word < bound) :
    format.load (format.store memory low word) low = word := by
  refine Eq.trans (format.decode_congr _ _ fun i inside => ?_) (format.decode_encode word small)
  rw [store, blit_inside ⟨Nat.le_add_right _ _, Nat.add_lt_add_left inside _⟩,
    Nat.add_sub_cancel_left]

/-- Storing what is there changes nothing. -/
@[simp] theorem store_load : format.store memory low (format.load memory low) = memory := by
  funext k
  by_cases inside : low ≤ k ∧ k < low + format.width
  · rw [store, blit_inside inside, load, format.encode_decode _ _ (by omega)]
    congr 1
    omega
  · exact if_neg inside

/-- The last store counts. -/
@[simp] theorem store_store :
    format.store (format.store memory low word) low word' = format.store memory low word' := by
  funext k
  simp only [store, blit]
  split <;> rfl

theorem store_outside {k : Nat} (outside : k < low ∨ low + format.width ≤ k) :
    format.store memory low word k = memory k :=
  blit_outside outside

/-- A write apart from a word does not change it. -/
theorem load_blit (apart : low + format.width ≤ low' ∨ low' + count ≤ low) :
    format.load (blit memory low' count source) low = format.load memory low :=
  format.load_congr fun k _ _ => blit_outside (by omega)

/-- **Writes that are apart commute.** -/
theorem store_blit (apart : low + format.width ≤ low' ∨ low' + count ≤ low) :
    format.store (blit memory low' count source) low word =
      blit (format.store memory low word) low' count source := by
  funext k
  simp only [store, blit]
  split <;> split <;> first | rfl | omega

end Format

/-! ### Low byte first -/

/-- The word of a string of bytes, low byte first. -/
def littleEndianWord : (width : Nat) → (Nat → UInt8) → Nat
  | 0, _ => 0
  | width + 1, bytes => (bytes 0).toNat + 256 * littleEndianWord width fun i => bytes (i + 1)

/-- The bytes of a word, low byte first. -/
def littleEndianBytes (word i : Nat) : UInt8 := UInt8.ofNat (word / 256 ^ i)

theorem littleEndianBytes_succ (word i : Nat) :
    littleEndianBytes word (i + 1) = littleEndianBytes (word / 256) i := by
  unfold littleEndianBytes
  rw [Nat.div_div_eq_div_mul, Nat.pow_succ']

theorem littleEndianWord_congr {width : Nat} {bytes bytes' : Nat → UInt8}
    (same : ∀ i < width, bytes i = bytes' i) :
    littleEndianWord width bytes = littleEndianWord width bytes' := by
  induction width generalizing bytes bytes' with
  | zero => rfl
  | succ width ih =>
    rw [littleEndianWord, littleEndianWord, same 0 (Nat.zero_lt_succ _),
      ih fun i inside => same (i + 1) (Nat.succ_lt_succ inside)]

theorem littleEndianWord_bytes (width word : Nat) :
    littleEndianWord width (littleEndianBytes word) = word % 256 ^ width := by
  induction width generalizing word with
  | zero => rw [Nat.pow_zero, Nat.mod_one, littleEndianWord]
  | succ width ih =>
    have low : (littleEndianBytes word 0).toNat = word % 256 := by
      rw [littleEndianBytes, Nat.pow_zero, Nat.div_one, UInt8.toNat_ofNat']
    rw [littleEndianWord, low, funext (littleEndianBytes_succ word), ih, Nat.pow_succ',
      Nat.mod_mul]

theorem littleEndianBytes_word {width i : Nat} (bytes : Nat → UInt8) (inside : i < width) :
    littleEndianBytes (littleEndianWord width bytes) i = bytes i := by
  induction width generalizing bytes i with
  | zero => exact absurd inside (Nat.not_lt_zero i)
  | succ width ih =>
    have low := (bytes 0).toNat_lt
    cases i with
    | zero =>
      apply UInt8.toNat.inj
      rw [littleEndianBytes, Nat.pow_zero, Nat.div_one, UInt8.toNat_ofNat', littleEndianWord]
      omega
    | succ i =>
      have rest : littleEndianWord (width + 1) bytes / 256 =
          littleEndianWord width fun i => bytes (i + 1) := by
        rw [littleEndianWord]
        omega
      rw [littleEndianBytes_succ, rest, ih _ (Nat.lt_of_succ_lt_succ inside)]

/-- **The format with the low byte first.** -/
def littleEndian (width : Nat) : Format UInt8 (256 ^ width) where
  width := width
  encode := littleEndianBytes
  decode := littleEndianWord width
  decode_congr := fun _ _ => littleEndianWord_congr
  decode_encode := fun word small =>
    (littleEndianWord_bytes width word).trans (Nat.mod_eq_of_lt small)
  encode_decode := fun bytes _ => littleEndianBytes_word bytes

end Words
