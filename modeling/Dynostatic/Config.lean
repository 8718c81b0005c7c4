/-
**The build configuration and `size_t` arithmetic.**

A `Config` is one build of the library: the macros of `dynostatic-buffer.h`, the widths and
alignments of the target, and the header's static assertions as fields, so that a configuration the
header rejects is not a `Config`. A `Placement` adds where the linker put the instance.

Every `size_t` addition and subtraction of the source goes through `sizeAdd` and `sizeSub`: the
result wraps modulo `2 ^ sizeBits`, as in the code, and the operands are logged as an `Event`. The
events also record the assertions evaluated, the indices used and the byte ranges written;
`Event.Safe` says what each of them must satisfy for the step to be free of error.
-/

import Dynostatic.Lib.Rounding
import Dynostatic.Lib.Traced

namespace Dynostatic

open Tracing Tracing.Traced Rounding

/-! ### Configurations -/

/-- A build of the library that the header's static assertions accept. -/
structure Config where
  /-- The width of `size_t` in bits. -/
  sizeBits : Nat
  /-- The width of `uintptr_t` in bits. -/
  ptrBits : Nat
  /-- `alignof(uint32_t)` on the target. -/
  alignofUint32 : Nat
  /-- `alignof(ds_max_align_t)` on the target. -/
  alignofMaxAlign : Nat
  /-- `sizeof` of the array `allocators`. -/
  sizeofAllocators : Nat
  /-- `DS_BUFFER_MEMORY_SIZE`. -/
  bufferMemorySize : Nat
  /-- `DS_MAX_ALLOCATION_COUNT`. -/
  maxAllocationCount : Nat
  /-- `DS_MAX_ALLOCATION_SIZE`. -/
  maxAllocationSize : Nat
  /-- `DS_ALIGNMENT`. -/
  alignment : Nat
  /-- `DS_ZERO_ON_FREE == 1u`. -/
  zeroOnFree : Bool
  /-- `DS_ALIGNMENT must be a power of two`. -/
  alignment_pow2 : alignment &&& (alignment - 1) = 0
  /-- `DS_ALIGNMENT must at least satisfy 32-bit types`. -/
  alignment_ge : alignofUint32 ≤ alignment
  /-- `DS_ALIGNMENT exceeds the strictest fundamental alignment`. -/
  alignment_le : alignment ≤ alignofMaxAlign
  /-- `DS_MAX_ALLOCATION_SIZE must not exceed DS_BUFFER_MEMORY_SIZE`. -/
  maxSize_le : maxAllocationSize ≤ bufferMemorySize
  /-- `DS_MAX_ALLOCATION_COUNT must be positive`. -/
  maxCount_pos : 0 < maxAllocationCount
  /-- `DS_MAX_ALLOCATION_SIZE must be positive`. -/
  maxSize_pos : 0 < maxAllocationSize
  /-- `DS_MAX_ALLOCATION_SIZE must be a multiple of DS_ALIGNMENT`. -/
  maxSize_mod : maxAllocationSize % alignment = 0
  /-- `ds_align_up may overflow for sizes near SIZE_MAX`. -/
  maxSize_guard : maxAllocationSize ≤ (2 ^ sizeBits - 1 - alignment) + 1
  /-- The language: an alignment is positive. -/
  alignofUint32_pos : 0 < alignofUint32
  /-- The language: the size of the array `memory` is a `size_t`. -/
  memorySize_lt : bufferMemorySize < 2 ^ sizeBits
  /-- The language: the length of the array `allocators` is a `size_t`. -/
  maxCount_lt : maxAllocationCount < 2 ^ sizeBits

/-- A configuration, and where an instance built with it lies in the address space. -/
structure Placement extends Config where
  /-- The address of `memory[0]`. -/
  base : Nat
  /-- The address of `allocators[0]`. -/
  allocatorsBase : Nat
  /-- No object lies at `NULL`. -/
  base_pos : 0 < base
  /-- No object lies at `NULL`. -/
  allocatorsBase_pos : 0 < allocatorsBase
  /-- `alignas(DS_ALIGNMENT)` on `memory`. -/
  base_aligned : alignment ∣ base
  /-- The arena lies in the address space. -/
  base_fits : base + bufferMemorySize ≤ 2 ^ ptrBits

namespace Config

variable (c : Config)

theorem alignment_pos : 0 < c.alignment :=
  Nat.lt_of_lt_of_le c.alignofUint32_pos c.alignment_ge

theorem exists_alignment : ∃ shift, c.alignment = 2 ^ shift :=
  (Nat.and_sub_one_eq_zero_iff_isPowerOfTwo (Nat.ne_of_gt c.alignment_pos)).mp c.alignment_pow2

theorem alignment_dvd_maxSize : c.alignment ∣ c.maxAllocationSize :=
  Nat.dvd_of_mod_eq_zero c.maxSize_mod

theorem alignment_le_maxSize : c.alignment ≤ c.maxAllocationSize :=
  Nat.le_of_dvd c.maxSize_pos c.alignment_dvd_maxSize

/-- **The static assertion on `DS_MAX_ALLOCATION_SIZE` keeps the rounding's addition exact.** -/
theorem add_mask_lt {size : Nat} (small : size ≤ c.maxAllocationSize) :
    size + (c.alignment - 1) < 2 ^ c.sizeBits := by
  have guarded := c.maxSize_guard
  have positive := c.alignment_pos
  have ordered := c.alignment_le_maxSize
  have bounded := c.maxSize_le
  have fits := c.memorySize_lt
  omega

end Config

/-! ### Events -/

/-- What a checker standing beside the program sees. -/
inductive Event where
  /-- `DS_ASSERT(cond)` was evaluated. -/
  | assertion (holds : Bool)
  /-- `allocators[index]` was read or written. -/
  | access (index : Nat)
  /-- Two `size_t` values were added. -/
  | add (first second : Nat)
  /-- The second `size_t` value was subtracted from the first. -/
  | sub (first second : Nat)
  /-- The bytes `[dest, dest + count)` were written. -/
  | write (dest count : Nat)
  /-- `memcpy(dest, src, count)` was called. -/
  | copy (dest src count : Nat)
  /-- `ds_align_up(size)` was called. -/
  | alignUp (size : Nat)
  deriving DecidableEq, Repr

/-- **An event free of error**: the assertion holds, the index is below the record count, the sum
is a `size_t`, the difference does not wrap, the bytes written lie in the arena. -/
def Event.Safe (q : Placement) : Event → Prop
  | .assertion holds => holds = true
  | .access index => index < q.maxAllocationCount
  | .add first second => first + second < 2 ^ q.sizeBits
  | .sub first second => second ≤ first
  | .write dest count => q.base ≤ dest ∧ dest + count ≤ q.base + q.bufferMemorySize
  | .copy _ _ _ => True
  | .alignUp _ => True

/-! ### `size_t` arithmetic -/

section Arithmetic

variable (c : Config)

/-- `first + second` in `size_t`. -/
def sizeAdd (first second : Nat) : Traced Event Nat := do
  emit (.add first second)
  pure ((first + second) % 2 ^ c.sizeBits)

/-- `first - second` in `size_t`. -/
def sizeSub (first second : Nat) : Traced Event Nat := do
  emit (.sub first second)
  pure ((first + (2 ^ c.sizeBits - second)) % 2 ^ c.sizeBits)

/-- `first * second` in `size_t`. -/
def sizeMul (first second : Nat) : Nat := (first * second) % 2 ^ c.sizeBits

/-- `ds_align_up`: `(size + mask) & ~mask` with every operand in `size_t`. -/
def dsAlignUp (size : Nat) : Traced Event Nat := do
  emit (.alignUp size)
  let mask ← sizeSub c c.alignment 1
  let sum ← sizeAdd c size mask
  pure (BitVec.ofNat c.sizeBits sum &&& ~~~ BitVec.ofNat c.sizeBits mask).toNat

variable {c}

/-- An addition that does not wrap is exact. -/
theorem yields_sizeAdd {q : Placement} {first second : Nat}
    (small : first + second < 2 ^ q.sizeBits) :
    Yields (Event.Safe q) (sizeAdd q.toConfig first second) (first + second) := by
  refine Yields.bind (yields_emit small) ?_
  rw [Nat.mod_eq_of_lt small]
  exact yields_pure

/-- A subtraction that does not wrap is exact. -/
theorem yields_sizeSub {q : Placement} {first second : Nat} (ordered : second ≤ first)
    (small : first < 2 ^ q.sizeBits) :
    Yields (Event.Safe q) (sizeSub q.toConfig first second) (first - second) := by
  have split : first + (2 ^ q.sizeBits - second) = (first - second) + 2 ^ q.sizeBits := by omega
  refine Yields.bind (yields_emit ordered) ?_
  rw [split, Nat.add_mod_right, Nat.mod_eq_of_lt (by omega)]
  exact yields_pure

/-- **`ds_align_up` rounds up** on every size it is meant for. -/
theorem yields_dsAlignUp {q : Placement} {size : Nat} (small : size ≤ q.maxAllocationSize) :
    Yields (Event.Safe q) (dsAlignUp q.toConfig size) (roundUp q.alignment size) := by
  have exact := q.add_mask_lt small
  have unit : q.alignment < 2 ^ q.sizeBits :=
    Nat.lt_of_le_of_lt (Nat.le_trans q.alignment_le_maxSize q.maxSize_le) q.memorySize_lt
  obtain ⟨shift, power⟩ := q.exists_alignment
  refine Yields.bind (yields_emit trivial) ?_
  refine (yields_sizeSub q.alignment_pos unit).bind ?_
  refine (yields_sizeAdd exact).bind ?_
  rw [power] at exact ⊢
  rw [and_not_mask_toNat exact, ← roundUp]
  exact yields_pure

/-- **A product that wraps is seen in any quotient by less than the range of `size_t`.** -/
theorem sizeMul_div_eq_iff {first second total : Nat} (positive : 0 < total)
    (small : total < 2 ^ c.sizeBits) :
    sizeMul c first second / total = first * second / total ↔
      first * second < 2 ^ c.sizeBits := by
  unfold sizeMul
  constructor
  · intro same
    by_contra wraps
    have large : 2 ^ c.sizeBits ≤ first * second := Nat.le_of_not_lt wraps
    have wrapped : first * second % 2 ^ c.sizeBits ≤ first * second - total := by
      rw [Nat.mod_eq_sub_mod large]
      exact Nat.le_trans (Nat.mod_le _ _) (Nat.sub_le_sub_left (Nat.le_of_lt small) _)
    have less := Nat.div_le_div_right (c := total) wrapped
    rw [same, Nat.div_eq_sub_div positive (Nat.le_trans (Nat.le_of_lt small) large)] at less
    omega
  · intro exact
    rw [Nat.mod_eq_of_lt exact]

theorem roundUp_le_maxSize {size : Nat} (small : size ≤ c.maxAllocationSize) :
    roundUp c.alignment size ≤ c.maxAllocationSize :=
  roundUp_le c.alignment_pos c.alignment_dvd_maxSize small

theorem roundUp_pos {size : Nat} (positive : 0 < size) : 0 < roundUp c.alignment size :=
  Nat.lt_of_lt_of_le positive (le_roundUp c.alignment_pos size)

end Arithmetic

end Dynostatic
