/-
**The instance and its memory.**

The types of `dynostatic-buffer.h`, and the three memory helpers of the source. The arrays are
functions of the index: `memory` at an offset below `DS_BUFFER_MEMORY_SIZE`, `allocators` at an
index below `DS_MAX_ALLOCATION_COUNT`. Larger arguments are not part of the instance; that the code
never goes there is the business of the `access` and `write` events.

An address is a natural number, the value of `(uintptr_t)p`, and `NULL` is `0`. The byte at offset
`k` of the arena has the address `base + k`; the bytes outside the arena are not the instance's, and
where the source reads them (`ds_safe_memory_copy`) they are an argument.
-/

import Mathlib.Logic.Function.Basic
import Dynostatic.Config
import Dynostatic.Lib.Bytes

namespace Dynostatic

open Tracing Tracing.Traced Bytes

/-! ### Types -/

/-- The `ERROR_DS_*` codes of `ds_err_code_t`. -/
inductive DsErrCode where
  | ok
  | noInit
  | invalidArg
  | alreadyInit
  | noMemory
  | noAllocators
  | tooBigChunk
  | memoryOutOfDs
  | criticalErr
  | allocatorNotFound
  | ptrAllocYet
  deriving DecidableEq, Repr

/-- `ds_allocator_status_t`. -/
inductive DsAllocatorStatus where
  | notUsed
  | free
  | allocated
  deriving DecidableEq, Repr

/-- `ds_allocator_t`. -/
structure DsAllocator where
  head : Nat
  size : Nat
  allocationStatus : DsAllocatorStatus
  deriving DecidableEq, Repr

/-- A record of zero bytes. `DS_NOT_USED` is `0`, so it reads as unused. -/
def DsAllocator.zero : DsAllocator := ⟨0, 0, .notUsed⟩

/-- `dynostatic_buffer_t`. -/
structure DynostaticBuffer where
  initMagic : UInt16
  dataHead : Nat
  usedAllocators : Nat
  memory : Nat → UInt8
  allocators : Nat → DsAllocator

/-- `DS_MAGIC_NUMBER`. -/
def dsMagicNumber : UInt16 := 0x1525

/-! ### The record table -/

/-- Read `allocators[index]`. -/
def readAllocator (s : DynostaticBuffer) (index : Nat) : Traced Event DsAllocator := do
  emit (.access index)
  pure (s.allocators index)

/-- Assign the fields of `allocators[index]`. -/
def writeAllocator (s : DynostaticBuffer) (index : Nat) (record : DsAllocator) :
    Traced Event DynostaticBuffer := do
  emit (.access index)
  pure { s with allocators := Function.update s.allocators index record }

theorem yields_readAllocator {q : Placement} (s : DynostaticBuffer) {index : Nat}
    (inside : index < q.maxAllocationCount) :
    Yields (Event.Safe q) (readAllocator s index) (s.allocators index) :=
  Yields.bind (yields_emit inside) yields_pure

theorem yields_writeAllocator {q : Placement} (s : DynostaticBuffer) {index : Nat}
    (inside : index < q.maxAllocationCount) (record : DsAllocator) :
    Yields (Event.Safe q) (writeAllocator s index record)
      { s with allocators := Function.update s.allocators index record } :=
  Yields.bind (yields_emit inside) yields_pure

/-! ### Memory helpers -/

section Memory

variable (q : Placement)

/-- The byte at an address: the arena's inside the arena, `outside` elsewhere. -/
def byteAt (s : DynostaticBuffer) (outside : Nat → UInt8) (address : Nat) : UInt8 :=
  if q.base ≤ address ∧ address < q.base + q.bufferMemorySize then s.memory (address - q.base)
  else outside address

/-- The arena after the bytes `[dest, dest + count)` are written from `source`. -/
def storeBytes (s : DynostaticBuffer) (dest count : Nat) (source : Nat → UInt8) :
    DynostaticBuffer :=
  { s with memory := fun k => if dest ≤ q.base + k ∧ q.base + k < dest + count then
                                source (q.base + k - dest)
                              else s.memory k }

/-- `ds_memset`. -/
def dsMemset (s : DynostaticBuffer) (dest destSize : Nat) (signToSet : UInt8) (sizeToSet : Nat) :
    Traced Event DynostaticBuffer := do
  emit (.assertion (dest ≠ 0))
  emit (.assertion (sizeToSet ≤ destSize))
  emit (.write dest sizeToSet)
  pure (storeBytes q s dest sizeToSet fun _ => signToSet)

/-- `ds_zero`, on the arena. -/
def dsZero (s : DynostaticBuffer) (dest destSize sizeToZero : Nat) :
    Traced Event DynostaticBuffer :=
  dsMemset q s dest destSize 0 sizeToZero

/-- `ds_zero(p_ds_buffer->allocators, sizeof(..), sizeof(..))`: the record table, zeroed whole. -/
def dsZeroAllocators (s : DynostaticBuffer) : Traced Event DynostaticBuffer := do
  emit (.assertion (q.allocatorsBase ≠ 0))
  emit (.assertion (q.sizeofAllocators ≤ q.sizeofAllocators))
  pure { s with allocators := fun _ => DsAllocator.zero }

/-- `ds_memcpy`: the destination takes the bytes the source range holds before the call. -/
def dsMemcpy (s : DynostaticBuffer) (outside : Nat → UInt8) (dest destSize src sizeToCopy : Nat) :
    Traced Event DynostaticBuffer := do
  emit (.assertion (dest ≠ 0))
  emit (.assertion (src ≠ 0))
  emit (.assertion (sizeToCopy ≤ destSize))
  emit (.copy dest src sizeToCopy)
  emit (.write dest sizeToCopy)
  pure (storeBytes q s dest sizeToCopy fun i => byteAt q s outside (src + i))

variable {q}

theorem byteAt_inside (s : DynostaticBuffer) (outside : Nat → UInt8) {k : Nat}
    (inside : k < q.bufferMemorySize) : byteAt q s outside (q.base + k) = s.memory k := by
  unfold byteAt
  rw [if_pos ⟨Nat.le_add_right _ _, Nat.add_lt_add_left inside _⟩, Nat.add_sub_cancel_left]

/-- A write to the arena, by offset. -/
theorem storeBytes_base (s : DynostaticBuffer) (low count : Nat) (source : Nat → UInt8) :
    storeBytes q s (q.base + low) count source =
      { s with memory := blit s.memory low count source } := by
  unfold storeBytes
  congr 1
  funext k
  simp only [blit, Nat.add_le_add_iff_left, Nat.add_assoc, Nat.add_lt_add_iff_left,
    Nat.add_sub_add_left]

theorem yields_dsMemset (s : DynostaticBuffer) {low destSize count : Nat} (byte : UInt8)
    (fits : count ≤ destSize) (inside : low + count ≤ q.bufferMemorySize) :
    Yields (Event.Safe q) (dsMemset q s (q.base + low) destSize byte count)
      { s with memory := fill s.memory low count byte } := by
  have positive := q.base_pos
  have nonNull : q.base + low ≠ 0 := by omega
  refine Yields.bind (yields_emit (decide_eq_true nonNull)) ?_
  refine Yields.bind (yields_emit (decide_eq_true fits)) ?_
  refine Yields.bind (yields_emit ⟨Nat.le_add_right _ _, by omega⟩) ?_
  rw [storeBytes_base]
  exact yields_pure

theorem yields_dsZero (s : DynostaticBuffer) {low destSize count : Nat} (fits : count ≤ destSize)
    (inside : low + count ≤ q.bufferMemorySize) :
    Yields (Event.Safe q) (dsZero q s (q.base + low) destSize count)
      { s with memory := fill s.memory low count 0 } :=
  yields_dsMemset s 0 fits inside

theorem yields_dsZeroAllocators (s : DynostaticBuffer) :
    Yields (Event.Safe q) (dsZeroAllocators q s)
      { s with allocators := fun _ => DsAllocator.zero } := by
  refine Yields.bind (yields_emit (decide_eq_true (Nat.ne_of_gt q.allocatorsBase_pos))) ?_
  exact Yields.bind (yields_emit (decide_eq_true (Nat.le_refl _))) yields_pure

theorem yields_dsMemcpy (s : DynostaticBuffer) (outside : Nat → UInt8)
    {low destSize src count : Nat} (nonNull : src ≠ 0) (fits : count ≤ destSize)
    (inside : low + count ≤ q.bufferMemorySize) :
    Yields (Event.Safe q) (dsMemcpy q s outside (q.base + low) destSize src count)
      { s with memory := blit s.memory low count fun i => byteAt q s outside (src + i) } := by
  have positive := q.base_pos
  have target : q.base + low ≠ 0 := by omega
  refine Yields.bind (yields_emit (decide_eq_true target)) ?_
  refine Yields.bind (yields_emit (decide_eq_true nonNull)) ?_
  refine Yields.bind (yields_emit (decide_eq_true fits)) ?_
  refine Yields.bind (yields_emit trivial) ?_
  refine Yields.bind (yields_emit ⟨Nat.le_add_right _ _, by omega⟩) ?_
  rw [storeBytes_base]
  exact yields_pure

end Memory

end Dynostatic
