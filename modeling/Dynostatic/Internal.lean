/-
**The static functions.**

The record table's scans, the assignment of a new record, the address lookups and the rollback of
the trailing block, statement by statement. A `for` loop over the records is a recursion on the
number of records left (`rest`), with the loop's `iter` as an argument; the `while` loop of
`ds_reclaim_trailing` goes down by one index each time, so it is a recursion on the index.

An out-parameter is an argument with the cell's old content and a field with its new content. The
locals that the source leaves uninitialized before they are passed as out-parameters start at `0`.
-/

import Dynostatic.State

namespace Dynostatic

open Tracing Tracing.Traced

/-! ### Looking up an address -/

/-- What a lookup leaves: its code and the two out-parameters. -/
structure Lookup where
  code : DsErrCode
  allocIdx : Nat
  offsetInBlock : Nat
  deriving DecidableEq, Repr

section Lookup

variable (q : Placement) (s : DynostaticBuffer)

/-- The loop of `ds_find_allocator_containing`. -/
def findLoop (offset allocIdx offsetInBlock : Nat) : (rest iter : Nat) → Traced Event Lookup
  | 0, _ => pure ⟨.allocatorNotFound, allocIdx, offsetInBlock⟩
  | rest + 1, iter => do
    let record ← readAllocator s iter
    if record.allocationStatus = .notUsed then
      pure ⟨.allocatorNotFound, allocIdx, offsetInBlock⟩
    else
      let inBlock ← sizeSub q.toConfig offset record.head
      if inBlock < record.size then
        if record.allocationStatus ≠ .allocated then
          -- inside a parked block
          pure ⟨.allocatorNotFound, allocIdx, offsetInBlock⟩
        else
          pure ⟨.ok, iter, inBlock⟩
      else
        findLoop offset allocIdx offsetInBlock rest (iter + 1)

/-- `ds_find_allocator_containing`. -/
def dsFindAllocatorContaining (memory allocIdx offsetInBlock : Nat) : Traced Event Lookup := do
  if memory < q.base then
    pure ⟨.memoryOutOfDs, allocIdx, offsetInBlock⟩
  else
    emit (.sub memory q.base)
    if q.bufferMemorySize % 2 ^ q.ptrBits ≤ memory - q.base then
      pure ⟨.memoryOutOfDs, allocIdx, offsetInBlock⟩
    else
      findLoop q s ((memory - q.base) % 2 ^ q.sizeBits) allocIdx offsetInBlock
        q.maxAllocationCount 0

/-- `ds_find_allocator_for_memory`. The out-parameter is passed on, so it holds what
`ds_find_allocator_containing` wrote there. -/
def dsFindAllocatorForMemory (memory allocIdx : Nat) : Traced Event Lookup := do
  let found ← dsFindAllocatorContaining q s memory allocIdx 0
  if found.code = .ok ∧ found.offsetInBlock ≠ 0 then
    -- interior pointer: not a block start
    pure { found with code := .allocatorNotFound }
  else
    pure found

end Lookup

/-! ### Assigning a record -/

/-- How the scan for a reusable record ends: at a record that fits, or where the loop stopped. -/
inductive ScanExit where
  | reuse (iter : Nat)
  | stop (iter : Nat)
  deriving DecidableEq, Repr

/-- The loop of `ds_get_new_allocator`. -/
def scanForReuse (s : DynostaticBuffer) (alignedSize : Nat) :
    (rest iter : Nat) → Traced Event ScanExit
  | 0, iter => pure (.stop iter)
  | rest + 1, iter => do
    let record ← readAllocator s iter
    if record.allocationStatus = .free then
      if alignedSize ≤ record.size then
        pure (.reuse iter)
      else
        scanForReuse s alignedSize rest (iter + 1)
    else if record.allocationStatus = .notUsed then
      pure (.stop iter)
    else
      scanForReuse s alignedSize rest (iter + 1)

/-- What an assignment leaves: its code, the instance and the out-parameter. -/
structure Assigned where
  code : DsErrCode
  buffer : DynostaticBuffer
  allocIdx : Nat

section Assign

variable (c : Config) (s : DynostaticBuffer)

/-- The success branch of the loop of `ds_get_new_allocator`. -/
def reuseRecord (iter : Nat) : Traced Event Assigned := do
  let record ← readAllocator s iter
  let marked ← writeAllocator s iter { record with allocationStatus := .allocated }
  let used ← sizeAdd c s.usedAllocators 1
  pure ⟨.ok, { marked with usedAllocators := used }, iter⟩

/-- The part of `ds_get_new_allocator` after its loop. -/
def bumpRecord (alignedSize iter allocIdx : Nat) : Traced Event Assigned :=
  if iter = c.maxAllocationCount then
    pure ⟨.noAllocators, s, allocIdx⟩
  else do
    let room ← sizeSub c c.bufferMemorySize s.dataHead
    if room < alignedSize then
      pure ⟨.noMemory, s, allocIdx⟩
    else
      let written ← writeAllocator s iter ⟨s.dataHead, alignedSize, .allocated⟩
      let head ← sizeAdd c s.dataHead alignedSize
      let used ← sizeAdd c s.usedAllocators 1
      pure ⟨.ok, { written with dataHead := head, usedAllocators := used }, iter⟩

/-- `ds_get_new_allocator`. -/
def dsGetNewAllocator (size allocIdx : Nat) : Traced Event Assigned :=
  if c.maxAllocationCount ≤ s.usedAllocators then
    pure ⟨.noAllocators, s, allocIdx⟩
  else do
    let alignedSize ← dsAlignUp c size
    let exit ← scanForReuse s alignedSize c.maxAllocationCount 0
    match exit with
    | .reuse iter => reuseRecord c s iter
    | .stop iter => bumpRecord c s alignedSize iter allocIdx

end Assign

/-! ### Rolling the bump head back -/

/-- The body of the loop of `ds_reclaim_trailing` before its test. -/
def reclaimRecord (s : DynostaticBuffer) (index : Nat) : Traced Event DynostaticBuffer := do
  let record ← readAllocator s index
  writeAllocator { s with dataHead := record.head } index DsAllocator.zero

/-- `ds_reclaim_trailing`. -/
def dsReclaimTrailing (s : DynostaticBuffer) : (index : Nat) → Traced Event DynostaticBuffer
  | 0 => reclaimRecord s 0
  | index + 1 => do
    let rolled ← reclaimRecord s (index + 1)
    emit (.sub (index + 1) 1)
    let below ← readAllocator rolled index
    if below.allocationStatus ≠ .free then
      pure rolled
    else
      dsReclaimTrailing rolled index

end Dynostatic
