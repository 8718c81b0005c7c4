/-
**The public functions.**

The eleven functions of `dynostatic-buffer.h`, statement by statement, in the order of
`dynostatic-buffer.c`. `s` is the instance before the call. `p_ds_buffer` is `NULL` or the address
of that instance. A pointer to a caller's variable (`void **p_memory`, a getter's out-parameter) is
`none` for `NULL`, and otherwise the content of the variable; the `Reply` hands the variable back.

The variable a caller passes is an object of the caller, so no byte the library writes on the way is
a byte of it: the caller's variable is read on entry and written at the end. `Handles` has the
functions on variables that lie in the arena.
-/

import Dynostatic.Internal

namespace Dynostatic

open Tracing Tracing.Traced

/-- The argument `p_ds_buffer`: `NULL`, or the address of the instance. -/
inductive BufferArg where
  | null
  | self
  deriving DecidableEq, Repr

/-- What a public function leaves: its code, the instance, and the caller's variable. -/
structure Reply where
  code : DsErrCode
  buffer : DynostaticBuffer
  cell : Option Nat

section Lifecycle

variable (q : Placement) (s : DynostaticBuffer)

/-- `ds_initialize_allocation`. -/
def dsInitializeAllocation (pDsBuffer : BufferArg) : Traced Event Reply :=
  if pDsBuffer = .null then
    pure ⟨.invalidArg, s, none⟩
  else if s.initMagic = dsMagicNumber then
    pure ⟨.alreadyInit, s, none⟩
  else do
    let armed := { s with initMagic := dsMagicNumber, dataHead := 0, usedAllocators := 0 }
    let zeroed ← dsZero q armed q.base q.bufferMemorySize q.bufferMemorySize
    let cleared ← dsZeroAllocators q zeroed
    pure ⟨.ok, cleared, none⟩

/-- `ds_deinit_allocation`. -/
def dsDeinitAllocation (pDsBuffer : BufferArg) : Traced Event Reply :=
  if pDsBuffer = .null then
    pure ⟨.invalidArg, s, none⟩
  else if s.initMagic ≠ dsMagicNumber then
    pure ⟨.noInit, s, none⟩
  else do
    let disarmed := { s with initMagic := 0 }
    let zeroed ← dsZero q disarmed q.base q.bufferMemorySize q.bufferMemorySize
    let cleared ← dsZeroAllocators q zeroed
    pure ⟨.ok, { cleared with dataHead := 0, usedAllocators := 0 }, none⟩

end Lifecycle

section Blocks

variable (q : Placement) (s : DynostaticBuffer) (pDsBuffer : BufferArg)

/-- `ds_malloc`. -/
def dsMalloc (pMemory : Option Nat) (size : Nat) : Traced Event Reply :=
  match pMemory with
  | none => pure ⟨.invalidArg, s, none⟩
  | some memory =>
    if pDsBuffer = .null ∨ size = 0 then
      pure ⟨.invalidArg, s, some memory⟩
    else if s.initMagic ≠ dsMagicNumber then
      pure ⟨.noInit, s, some memory⟩
    else if q.maxAllocationSize < size then
      pure ⟨.tooBigChunk, s, some memory⟩
    else do
      let found ← dsFindAllocatorForMemory q s memory 0
      if found.code = .ok then
        pure ⟨.ptrAllocYet, s, some memory⟩
      else
        let ret ← dsGetNewAllocator q.toConfig s size found.allocIdx
        if ret.code ≠ .ok then
          pure ⟨ret.code, ret.buffer, some memory⟩
        else
          let record ← readAllocator ret.buffer ret.allocIdx
          pure ⟨.ok, ret.buffer, some (q.base + record.head)⟩

/-- The `#if DS_ZERO_ON_FREE == 1u` block of `ds_free`. -/
def scrubRecord (record : DsAllocator) : Traced Event DynostaticBuffer :=
  if q.zeroOnFree then do
    let room ← sizeSub q.toConfig q.bufferMemorySize record.head
    dsZero q s (q.base + record.head) room record.size
  else
    pure s

/-- The part of `ds_free` after its lookup. -/
def freeRecord (allocIdx : Nat) : Traced Event DynostaticBuffer := do
  let record ← readAllocator s allocIdx
  let scrubbed ← scrubRecord q s record
  let stop ← sizeAdd q.toConfig record.head record.size
  let released ← if stop = scrubbed.dataHead then dsReclaimTrailing scrubbed allocIdx
    else writeAllocator scrubbed allocIdx { record with allocationStatus := .free }
  let used ← sizeSub q.toConfig released.usedAllocators 1
  pure { released with usedAllocators := used }

/-- `ds_free`. -/
def dsFree (pMemory : Option Nat) : Traced Event Reply :=
  match pMemory with
  | none => pure ⟨.invalidArg, s, none⟩
  | some memory =>
    if pDsBuffer = .null ∨ memory = 0 then
      pure ⟨.invalidArg, s, some memory⟩
    else if s.initMagic ≠ dsMagicNumber then
      pure ⟨.noInit, s, some memory⟩
    else do
      let found ← dsFindAllocatorForMemory q s memory 0
      if found.code ≠ .ok then
        pure ⟨found.code, s, some memory⟩
      else
        let freed ← freeRecord q s found.allocIdx
        pure ⟨.ok, freed, some 0⟩

/-- `ds_calloc`. -/
def dsCalloc (pMemory : Option Nat) (len sizeOfElem : Nat) : Traced Event Reply :=
  match pMemory with
  | none => pure ⟨.invalidArg, s, none⟩
  | some memory =>
    if pDsBuffer = .null ∨ len = 0 ∨ sizeOfElem = 0 then
      pure ⟨.invalidArg, s, some memory⟩
    else if s.initMagic ≠ dsMagicNumber then
      pure ⟨.noInit, s, some memory⟩
    else if sizeMul q.toConfig len sizeOfElem / len ≠ sizeOfElem then
      -- the product overflowed
      pure ⟨.invalidArg, s, some memory⟩
    else do
      let totalSize := sizeMul q.toConfig len sizeOfElem
      let ret ← dsMalloc q s pDsBuffer (some memory) totalSize
      if ret.code ≠ .ok then
        pure ret
      else
        let alignedSize ← dsAlignUp q.toConfig totalSize
        let zeroed ← dsZero q ret.buffer (ret.cell.getD 0) alignedSize totalSize
        pure ⟨.ok, zeroed, ret.cell⟩

/-- The move path of `ds_realloc`: allocate first, copy the old capacity, free the old block. The
old block lies in the arena, so `ds_memcpy` reads no byte outside it. -/
def moveBlock (memory size alignedSize capacity : Nat) : Traced Event Reply := do
  let ret ← dsMalloc q s .self (some 0) size
  if ret.code ≠ .ok then
    pure ⟨ret.code, ret.buffer, some memory⟩
  else
    let new := ret.cell.getD 0
    let copied ← dsMemcpy q ret.buffer (fun _ => 0) new alignedSize memory capacity
    let freed ← dsFree q copied .self (some memory)
    emit (.assertion (freed.code = .ok))
    pure ⟨.ok, freed.buffer, some new⟩

/-- The part of `ds_realloc` after its lookup. -/
def resizeRecord (memory size allocIdx : Nat) : Traced Event Reply := do
  let record ← readAllocator s allocIdx
  let alignedSize ← dsAlignUp q.toConfig size
  if alignedSize ≤ record.size then
    -- shrink or fit: in place, the capacity is retained
    pure ⟨.ok, s, some memory⟩
  else
    let stop ← sizeAdd q.toConfig record.head record.size
    if stop = s.dataHead then
      let room ← sizeSub q.toConfig q.bufferMemorySize record.head
      if alignedSize ≤ room then
        -- the trailing block grows in place
        let head ← sizeAdd q.toConfig record.head alignedSize
        let grown ← writeAllocator { s with dataHead := head } allocIdx
          { record with size := alignedSize }
        pure ⟨.ok, grown, some memory⟩
      else
        moveBlock q s memory size alignedSize record.size
    else
      moveBlock q s memory size alignedSize record.size

/-- `ds_realloc`. -/
def dsRealloc (pMemory : Option Nat) (size : Nat) : Traced Event Reply :=
  match pMemory with
  | none => pure ⟨.invalidArg, s, none⟩
  | some memory =>
    if pDsBuffer = .null then
      pure ⟨.invalidArg, s, some memory⟩
    else if s.initMagic ≠ dsMagicNumber then
      pure ⟨.noInit, s, some memory⟩
    else if size = 0 then
      dsFree q s pDsBuffer (some memory)
    else if memory = 0 then
      dsMalloc q s pDsBuffer (some memory) size
    else if q.maxAllocationSize < size then
      pure ⟨.tooBigChunk, s, some memory⟩
    else do
      let found ← dsFindAllocatorForMemory q s memory 0
      if found.code ≠ .ok then
        pure ⟨found.code, s, some memory⟩
      else
        resizeRecord q s memory size found.allocIdx

end Blocks

section Getters

variable (q : Placement) (s : DynostaticBuffer) (pDsBuffer : BufferArg)

/-- The loop of `ds_get_memory_usage`. -/
def usageLoop : (rest iter usage : Nat) → Traced Event Nat
  | 0, _, usage => pure usage
  | rest + 1, iter, usage => do
    let record ← readAllocator s iter
    if record.allocationStatus = .allocated then
      let sum ← sizeAdd q.toConfig usage record.size
      usageLoop rest (iter + 1) sum
    else
      usageLoop rest (iter + 1) usage

/-- `ds_get_memory_usage`. -/
def dsGetMemoryUsage (pMemoryUsage : Option Nat) : Traced Event Reply :=
  if pDsBuffer = .null ∨ pMemoryUsage = none then
    pure ⟨.invalidArg, s, pMemoryUsage⟩
  else if s.initMagic ≠ dsMagicNumber then
    pure ⟨.noInit, s, pMemoryUsage⟩
  else do
    let usage ← usageLoop q s q.maxAllocationCount 0 0
    if q.bufferMemorySize < usage then
      pure ⟨.criticalErr, s, some 0⟩
    else
      -- the product is a `size_t`, the quotient is cast to `uint8_t`
      pure ⟨.ok, s, some (sizeMul q.toConfig 100 usage / q.bufferMemorySize % 2 ^ 8)⟩

/-- The loop of `ds_get_max_new_allocation_size`: the largest parked capacity it meets, and whether
it met an unused record. -/
def maxSizeLoop : (rest iter maxSize : Nat) → Traced Event (Nat × Bool)
  | 0, _, maxSize => pure (maxSize, false)
  | rest + 1, iter, maxSize => do
    let record ← readAllocator s iter
    if record.allocationStatus = .notUsed then
      pure (maxSize, true)
    else if record.allocationStatus = .free ∧ maxSize < record.size then
      maxSizeLoop rest (iter + 1) record.size
    else
      maxSizeLoop rest (iter + 1) maxSize

/-- The bump candidate of `ds_get_max_new_allocation_size`. -/
def bumpMax : Traced Event Nat := do
  let remaining ← sizeSub q.toConfig q.bufferMemorySize s.dataHead
  let bump ← sizeSub q.toConfig remaining (remaining % q.alignment)
  if q.maxAllocationSize < bump then
    pure q.maxAllocationSize
  else
    pure bump

/-- `ds_get_max_new_allocation_size`. -/
def dsGetMaxNewAllocationSize (pMaxNewAllocation : Option Nat) : Traced Event Reply :=
  if pDsBuffer = .null ∨ pMaxNewAllocation = none then
    pure ⟨.invalidArg, s, pMaxNewAllocation⟩
  else if s.initMagic ≠ dsMagicNumber then
    pure ⟨.noInit, s, pMaxNewAllocation⟩
  else if s.usedAllocators < q.maxAllocationCount then do
    let scanned ← maxSizeLoop s q.maxAllocationCount 0 0
    if scanned.2 then
      let bump ← bumpMax q s
      pure ⟨.ok, s, some (if scanned.1 < bump then bump else scanned.1)⟩
    else
      pure ⟨.ok, s, some scanned.1⟩
  else
    pure ⟨.ok, s, some 0⟩

/-- `ds_get_free_allocator_cnt`. -/
def dsGetFreeAllocatorCnt (pFreeAllocators : Option Nat) : Traced Event Reply :=
  if pDsBuffer = .null ∨ pFreeAllocators = none then
    pure ⟨.invalidArg, s, pFreeAllocators⟩
  else if s.initMagic ≠ dsMagicNumber then
    pure ⟨.noInit, s, pFreeAllocators⟩
  else do
    let count ← sizeSub q.toConfig q.maxAllocationCount s.usedAllocators
    pure ⟨.ok, s, some count⟩

end Getters

section SafeWrites

variable (q : Placement) (s : DynostaticBuffer) (pAllocHolder : BufferArg)

/-- `ds_safe_memory_copy`. `outside` is the memory outside the arena. -/
def dsSafeMemoryCopy (outside : Nat → UInt8) (dstMemory srcMemory srcSize : Nat) :
    Traced Event Reply :=
  if pAllocHolder = .null ∨ dstMemory = 0 ∨ srcMemory = 0 ∨ srcSize = 0 then
    pure ⟨.invalidArg, s, none⟩
  else if s.initMagic ≠ dsMagicNumber then
    pure ⟨.noInit, s, none⟩
  else do
    let found ← dsFindAllocatorContaining q s dstMemory 0 0
    if found.code ≠ .ok then
      pure ⟨found.code, s, none⟩
    else
      let record ← readAllocator s found.allocIdx
      if record.size < srcSize then
        pure ⟨.noMemory, s, none⟩
      else
        let last ← sizeSub q.toConfig record.size srcSize
        if last < found.offsetInBlock then
          pure ⟨.noMemory, s, none⟩
        else
          let room ← sizeSub q.toConfig record.size found.offsetInBlock
          let copied ← dsMemcpy q s outside dstMemory room srcMemory srcSize
          pure ⟨.ok, copied, none⟩

/-- `ds_safe_memory_set`. `valueToSet` is a `char` of either sign, converted to `uint8_t`. -/
def dsSafeMemorySet (dstMemory : Nat) (valueToSet : Int) (cntToSet : Nat) : Traced Event Reply :=
  if pAllocHolder = .null ∨ dstMemory = 0 ∨ cntToSet = 0 then
    pure ⟨.invalidArg, s, none⟩
  else if s.initMagic ≠ dsMagicNumber then
    pure ⟨.noInit, s, none⟩
  else do
    let found ← dsFindAllocatorContaining q s dstMemory 0 0
    if found.code ≠ .ok then
      pure ⟨found.code, s, none⟩
    else
      let record ← readAllocator s found.allocIdx
      if record.size < cntToSet then
        pure ⟨.noMemory, s, none⟩
      else
        let last ← sizeSub q.toConfig record.size cntToSet
        if last < found.offsetInBlock then
          pure ⟨.noMemory, s, none⟩
        else
          let room ← sizeSub q.toConfig record.size found.offsetInBlock
          let set ← dsMemset q s dstMemory room (UInt8.ofInt valueToSet) cntToSet
          pure ⟨.ok, set, none⟩

end SafeWrites

end Dynostatic
