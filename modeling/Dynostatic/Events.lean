/-
**The events a call can log.**

`ds_memcpy` has two callers and `ds_align_up` three. Every other event is `Plain`, and a predicate
that holds of the plain events holds of every event of a function that reaches neither of the two
(`every_dsFree` and the like). The functions that do reach them add the one event in question, under
the conditions the source reaches it: `every_dsGetNewAllocator`, `every_dsMalloc`, `every_dsCalloc`,
`every_resizeRecord` for the roundings, `every_moveBlock` and `every_dsSafeMemoryCopy` for the
copies.

The state is arbitrary throughout: none of this is about what an instance holds.
-/

import Dynostatic.System

namespace Dynostatic

open Tracing Tracing.Traced

/-- The event is neither a `memcpy` nor a rounding. -/
def Event.Plain : Event → Prop
  | .copy _ _ _ => False
  | .alignUp _ => False
  | _ => True

section Plain

variable {P : Event → Prop} (plain : ∀ event : Event, event.Plain → P event)

include plain

/-! ### Arithmetic, records and memory -/

theorem every_sizeAdd (c : Config) (first second : Nat) : Every P (sizeAdd c first second) := by
  simp only [sizeAdd, every_bind, every_emit, every_pure, and_true]
  exact plain (.add first second) trivial

theorem every_sizeSub (c : Config) (first second : Nat) : Every P (sizeSub c first second) := by
  simp only [sizeSub, every_bind, every_emit, every_pure, and_true]
  exact plain (.sub first second) trivial

theorem every_readAllocator (s : DynostaticBuffer) (index : Nat) :
    Every P (readAllocator s index) := by
  simp only [readAllocator, every_bind, every_emit, every_pure, and_true]
  exact plain (.access index) trivial

theorem every_writeAllocator (s : DynostaticBuffer) (index : Nat) (record : DsAllocator) :
    Every P (writeAllocator s index record) := by
  simp only [writeAllocator, every_bind, every_emit, every_pure, and_true]
  exact plain (.access index) trivial

theorem every_dsMemset (q : Placement) (s : DynostaticBuffer) (dest destSize : Nat) (byte : UInt8)
    (count : Nat) : Every P (dsMemset q s dest destSize byte count) := by
  simp only [dsMemset, every_bind, every_emit, every_pure, and_true]
  exact ⟨plain (.assertion _) trivial, plain (.assertion _) trivial, plain (.write _ _) trivial⟩

theorem every_dsZeroAllocators (q : Placement) (s : DynostaticBuffer) :
    Every P (dsZeroAllocators q s) := by
  simp only [dsZeroAllocators, every_bind, every_emit, every_pure, and_true]
  exact ⟨plain (.assertion _) trivial, plain (.assertion _) trivial⟩

theorem every_dsAlignUp (c : Config) {size : Nat} (aligned : P (.alignUp size)) :
    Every P (dsAlignUp c size) := by
  simp only [dsAlignUp, every_bind, every_emit, every_pure, and_true]
  exact ⟨aligned, every_sizeSub plain _ _ _, every_sizeAdd plain _ _ _⟩

theorem every_dsMemcpy (q : Placement) (s : DynostaticBuffer) (outside : Nat → UInt8)
    {dest src count : Nat} (destSize : Nat) (copied : P (.copy dest src count)) :
    Every P (dsMemcpy q s outside dest destSize src count) := by
  simp only [dsMemcpy, every_bind, every_emit, every_pure, and_true]
  exact ⟨plain (.assertion _) trivial, plain (.assertion _) trivial, plain (.assertion _) trivial,
    copied, plain (.write _ _) trivial⟩

/-! ### The static functions -/

theorem every_findLoop (q : Placement) (s : DynostaticBuffer) (offset allocIdx offsetInBlock : Nat)
    (rest iter : Nat) : Every P (findLoop q s offset allocIdx offsetInBlock rest iter) := by
  induction rest generalizing iter with
  | zero => exact every_pure P _
  | succ rest ih =>
    simp only [findLoop, every_bind, every_ite, every_pure, every_readAllocator plain,
      every_sizeSub plain, ih, implies_true, and_self]

theorem every_containing (q : Placement) (s : DynostaticBuffer) (memory : Nat)
    (allocIdx offsetInBlock : Nat) :
    Every P (dsFindAllocatorContaining q s memory allocIdx offsetInBlock) := by
  have wraps : P (.sub memory q.base) := plain _ trivial
  simp only [dsFindAllocatorContaining, every_bind, every_ite, every_emit, every_pure, wraps,
    every_findLoop plain, implies_true, and_self]

theorem every_forMemory (q : Placement) (s : DynostaticBuffer) (memory allocIdx : Nat) :
    Every P (dsFindAllocatorForMemory q s memory allocIdx) := by
  simp only [dsFindAllocatorForMemory, every_bind, every_ite, every_pure, every_containing plain,
    implies_true, and_self]

theorem every_scanForReuse (s : DynostaticBuffer) (alignedSize rest iter : Nat) :
    Every P (scanForReuse s alignedSize rest iter) := by
  induction rest generalizing iter with
  | zero => exact every_pure P _
  | succ rest ih =>
    simp only [scanForReuse, every_bind, every_ite, every_pure, every_readAllocator plain, ih,
      implies_true, and_self]

theorem every_reuseRecord (c : Config) (s : DynostaticBuffer) (iter : Nat) :
    Every P (reuseRecord c s iter) := by
  simp only [reuseRecord, every_bind, every_pure, every_readAllocator plain,
    every_writeAllocator plain, every_sizeAdd plain, and_self]

theorem every_bumpRecord (c : Config) (s : DynostaticBuffer) (alignedSize iter allocIdx : Nat) :
    Every P (bumpRecord c s alignedSize iter allocIdx) := by
  simp only [bumpRecord, every_bind, every_ite, every_pure, every_writeAllocator plain,
    every_sizeAdd plain, every_sizeSub plain, implies_true, and_self]

theorem every_dsGetNewAllocator (c : Config) (s : DynostaticBuffer) {size : Nat} (allocIdx : Nat)
    (aligned : P (.alignUp size)) : Every P (dsGetNewAllocator c s size allocIdx) := by
  simp only [dsGetNewAllocator, every_bind, every_ite, every_pure, every_dsAlignUp plain c aligned,
    every_scanForReuse plain, implies_true, true_and]
  intro _
  split
  · exact every_reuseRecord plain _ _ _
  · exact every_bumpRecord plain _ _ _ _ _

theorem every_reclaimRecord (s : DynostaticBuffer) (index : Nat) :
    Every P (reclaimRecord s index) := by
  simp only [reclaimRecord, every_bind, every_readAllocator plain, every_writeAllocator plain,
    and_self]

theorem every_dsReclaimTrailing (s : DynostaticBuffer) (index : Nat) :
    Every P (dsReclaimTrailing s index) := by
  induction index generalizing s with
  | zero => exact every_reclaimRecord plain s 0
  | succ index ih =>
    have steps : P (.sub (index + 1) 1) := plain _ trivial
    simp only [dsReclaimTrailing, every_bind, every_ite, every_emit, every_pure, steps,
      every_reclaimRecord plain, every_readAllocator plain, ih, implies_true, and_self]

/-! ### Releasing and reporting -/

theorem every_scrubRecord (q : Placement) (s : DynostaticBuffer) (record : DsAllocator) :
    Every P (scrubRecord q s record) := by
  simp only [scrubRecord, dsZero, every_bind, every_ite, every_pure, every_sizeSub plain,
    every_dsMemset plain, implies_true, and_self]

theorem every_freeRecord (q : Placement) (s : DynostaticBuffer) (allocIdx : Nat) :
    Every P (freeRecord q s allocIdx) := by
  simp only [freeRecord, every_bind, every_ite, every_pure, every_readAllocator plain,
    every_scrubRecord plain, every_sizeAdd plain, every_sizeSub plain, every_writeAllocator plain,
    every_dsReclaimTrailing plain, implies_true, and_self]

theorem every_dsFree (q : Placement) (s : DynostaticBuffer) (pDsBuffer : BufferArg)
    (pMemory : Option Nat) : Every P (dsFree q s pDsBuffer pMemory) := by
  cases pMemory with
  | none => exact every_pure P _
  | some memory =>
    simp only [dsFree, every_bind, every_ite, every_pure, every_forMemory plain,
      every_freeRecord plain, implies_true, and_self]

theorem every_usageLoop (q : Placement) (s : DynostaticBuffer) (rest iter usage : Nat) :
    Every P (usageLoop q s rest iter usage) := by
  induction rest generalizing iter usage with
  | zero => exact every_pure P _
  | succ rest ih =>
    simp only [usageLoop, every_bind, every_ite, every_readAllocator plain, every_sizeAdd plain, ih,
      implies_true, and_self]

theorem every_maxSizeLoop (s : DynostaticBuffer) (rest iter maxSize : Nat) :
    Every P (maxSizeLoop s rest iter maxSize) := by
  induction rest generalizing iter maxSize with
  | zero => exact every_pure P _
  | succ rest ih =>
    simp only [maxSizeLoop, every_bind, every_ite, every_pure, every_readAllocator plain, ih,
      implies_true, and_self]

/-- The getters, and the two ends of an instance's life. -/
theorem every_reports (q : Placement) (s : DynostaticBuffer) (pDsBuffer : BufferArg)
    (out : Option Nat) :
    Every P (dsGetMemoryUsage q s pDsBuffer out) ∧
      Every P (dsGetMaxNewAllocationSize q s pDsBuffer out) ∧
      Every P (dsGetFreeAllocatorCnt q s pDsBuffer out) ∧
      Every P (dsInitializeAllocation q s pDsBuffer) ∧
      Every P (dsDeinitAllocation q s pDsBuffer) := by
  simp only [dsGetMemoryUsage, dsGetMaxNewAllocationSize, bumpMax, dsGetFreeAllocatorCnt,
    dsInitializeAllocation, dsDeinitAllocation, dsZero, every_bind, every_ite, every_pure,
    every_usageLoop plain, every_maxSizeLoop plain, every_sizeSub plain, every_dsMemset plain,
    every_dsZeroAllocators plain, implies_true, and_self]

theorem every_dsSafeMemorySet (q : Placement) (s : DynostaticBuffer) (pAllocHolder : BufferArg)
    (dst : Nat) (value : Int) (count : Nat) :
    Every P (dsSafeMemorySet q s pAllocHolder dst value count) := by
  simp only [dsSafeMemorySet, every_bind, every_ite, every_pure, every_containing plain,
    every_readAllocator plain, every_sizeSub plain, every_dsMemset plain, implies_true, and_self]

/-! ### Roundings -/

/-- `ds_malloc` rounds a size that passed its check. -/
theorem every_dsMalloc (q : Placement) (s : DynostaticBuffer) (pDsBuffer : BufferArg)
    (pMemory : Option Nat) {size : Nat}
    (aligned : size ≤ q.maxAllocationSize → P (.alignUp size)) :
    Every P (dsMalloc q s pDsBuffer pMemory size) := by
  cases pMemory with
  | none => exact every_pure P _
  | some memory =>
    simp only [dsMalloc, every_bind, every_ite, every_pure, every_forMemory plain,
      every_readAllocator plain, implies_true, and_true, true_and]
    intro _ _ small _
    exact every_dsGetNewAllocator plain _ _ _ (aligned (Nat.le_of_not_lt small))

omit plain in
/-- A successful `ds_malloc` had a size that passed its check. -/
theorem le_of_dsMalloc_ok {q : Placement} {s : DynostaticBuffer} {pDsBuffer : BufferArg}
    {pMemory : Option Nat} {size : Nat}
    (ok : (dsMalloc q s pDsBuffer pMemory size).value.code = .ok) :
    size ≤ q.maxAllocationSize := by
  by_contra large
  rw [not_le] at large
  cases pMemory with
  | none => cases ok
  | some memory =>
    simp only [dsMalloc, value_ite, value_pure, if_pos large] at ok
    split at ok
    · cases ok
    · split at ok <;> cases ok

/-- `ds_calloc` rounds a size that `ds_malloc` has accepted. -/
theorem every_dsCalloc (q : Placement) (s : DynostaticBuffer) (pDsBuffer : BufferArg)
    (pMemory : Option Nat) (len sizeOfElem : Nat)
    (aligned : ∀ size ≤ q.maxAllocationSize, P (.alignUp size)) :
    Every P (dsCalloc q s pDsBuffer pMemory len sizeOfElem) := by
  cases pMemory with
  | none => exact every_pure P _
  | some memory =>
    simp only [dsCalloc, dsZero, every_bind, every_ite, every_pure, every_dsMemset plain,
      every_dsMalloc plain _ _ _ _ (aligned _), implies_true, and_true, true_and]
    intro _ _ _ ok
    exact every_dsAlignUp plain _ (aligned _ (le_of_dsMalloc_ok (not_not.mp ok)))

/-! ### Copies -/

section Resize

variable {q : Placement} {s : DynostaticBuffer} {size : Nat}

omit plain in
/-- A move that finds room succeeds, and hands out the new block. -/
theorem value_moveBlock (memory alignedSize capacity : Nat)
    (ok : (dsMalloc q s .self (some 0) size).value.code = .ok) :
    (moveBlock q s memory size alignedSize capacity).value.code = .ok ∧
      (moveBlock q s memory size alignedSize capacity).value.cell =
        some ((dsMalloc q s .self (some 0) size).value.cell.getD 0) := by
  simp only [moveBlock, value_bind, value_pure, ok, ne_eq, not_true_eq_false, if_false,
    and_self]

/-- A move copies from the old block to the new one, if it finds room. -/
theorem every_moveBlock {memory capacity : Nat} (alignedSize : Nat)
    (aligned : size ≤ q.maxAllocationSize → P (.alignUp size))
    (copied : (dsMalloc q s .self (some 0) size).value.code = .ok →
      P (.copy ((dsMalloc q s .self (some 0) size).value.cell.getD 0) memory capacity)) :
    Every P (moveBlock q s memory size alignedSize capacity) := by
  simp only [moveBlock, every_bind, every_ite, every_pure, every_emit, every_dsFree plain,
    every_dsMalloc plain _ _ _ _ aligned, implies_true, and_true, true_and]
  intro ok
  exact ⟨every_dsMemcpy plain _ _ _ _ (copied (not_not.mp ok)), plain (.assertion _) trivial⟩

/-- The copy of a resize is the copy of a move that the resize ends with. -/
theorem every_resizeRecord {memory allocIdx : Nat} (aligned : P (.alignUp size))
    (copied : (dsMalloc q s .self (some 0) size).value.code = .ok →
      (resizeRecord q s memory size allocIdx).value.code = .ok →
      (resizeRecord q s memory size allocIdx).value.cell =
        some ((dsMalloc q s .self (some 0) size).value.cell.getD 0) →
      P (.copy ((dsMalloc q s .self (some 0) size).value.cell.getD 0) memory
        (s.allocators allocIdx).size)) :
    Every P (resizeRecord q s memory size allocIdx) := by
  simp only [resizeRecord, every_bind, every_ite, every_pure, every_readAllocator plain,
    every_writeAllocator plain, every_dsAlignUp plain _ aligned, every_sizeAdd plain,
    every_sizeSub plain, implies_true, and_true, true_and]
  intro more
  refine ⟨fun top crowded => ?_, fun below => ?_⟩
  · refine every_moveBlock plain _ (fun _ => aligned) fun ok => ?_
    simp only [resizeRecord, value_bind, if_neg more, if_pos top, if_neg crowded] at copied
    exact copied ok (value_moveBlock _ _ _ ok).1 (value_moveBlock _ _ _ ok).2
  · refine every_moveBlock plain _ (fun _ => aligned) fun ok => ?_
    simp only [resizeRecord, value_bind, if_neg more, if_neg below] at copied
    exact copied ok (value_moveBlock _ _ _ ok).1 (value_moveBlock _ _ _ ok).2

/-- A `ds_realloc` copies from a live block to a new one, and only if it succeeds. -/
theorem every_dsRealloc {pDsBuffer : BufferArg} {memory : Nat}
    (aligned : size ≤ q.maxAllocationSize → P (.alignUp size))
    (copied : size ≠ 0 → (dsFindAllocatorForMemory q s memory 0).value.code = .ok →
      (dsMalloc q s .self (some 0) size).value.code = .ok →
      (dsRealloc q s pDsBuffer (some memory) size).value.code = .ok →
      (dsRealloc q s pDsBuffer (some memory) size).value.cell =
        some ((dsMalloc q s .self (some 0) size).value.cell.getD 0) →
      P (.copy ((dsMalloc q s .self (some 0) size).value.cell.getD 0) memory
        (s.allocators (dsFindAllocatorForMemory q s memory 0).value.allocIdx).size)) :
    Every P (dsRealloc q s pDsBuffer (some memory) size) := by
  simp only [dsRealloc, every_bind, every_ite, every_pure, every_dsFree plain,
    every_dsMalloc plain _ _ _ _ aligned, every_forMemory plain, implies_true, true_and]
  intro nonNull initialized positive block small live
  refine every_resizeRecord plain (aligned (Nat.le_of_not_lt small)) fun room ok handed => ?_
  simp only [dsRealloc, value_bind, if_neg nonNull, if_neg initialized, if_neg positive,
    if_neg block, if_neg small, if_neg live] at copied
  exact copied positive (not_not.mp live) room ok handed

end Resize

section SafeCopy

variable {q : Placement} {s : DynostaticBuffer} {pAllocHolder : BufferArg} {outside : Nat → UInt8}
  {dst src count : Nat}

/-- `ds_safe_memory_copy` copies only if it succeeds. -/
theorem every_dsSafeMemoryCopy
    (copied : (dsSafeMemoryCopy q s pAllocHolder outside dst src count).value.code = .ok →
      P (.copy dst src count)) :
    Every P (dsSafeMemoryCopy q s pAllocHolder outside dst src count) := by
  simp only [dsSafeMemoryCopy, every_bind, every_ite, every_pure, every_containing plain,
    every_readAllocator plain, every_sizeSub plain, implies_true, and_true, true_and]
  intro proper initialized live fits ends
  refine every_dsMemcpy plain _ _ _ _ (copied ?_)
  simp only [dsSafeMemoryCopy, value_bind, if_neg proper, if_neg initialized, if_neg live,
    if_neg fits, if_neg ends, value_pure]

omit plain in
/-- And it does copy if it succeeds. -/
theorem copy_mem_dsSafeMemoryCopy
    (ok : (dsSafeMemoryCopy q s pAllocHolder outside dst src count).value.code = .ok) :
    .copy dst src count ∈ (dsSafeMemoryCopy q s pAllocHolder outside dst src count).events := by
  revert ok
  unfold dsSafeMemoryCopy
  split
  · exact nofun
  split
  · exact nofun
  rw [value_bind, events_bind, List.mem_append]
  split
  · exact fun ok => absurd ok ‹_›
  rw [value_bind, events_bind, List.mem_append]
  split
  · exact nofun
  rw [value_bind, events_bind, List.mem_append]
  split
  · exact nofun
  intro _
  simp [dsMemcpy]

end SafeCopy

end Plain

end Dynostatic
