/-
**The bookkeeping does not read the arena.**

`books` forgets the bytes of the arena, and `setZeroOnFree` chooses how a build scrubs. No function
of the library reads a byte of the arena but to copy it, and none tests `DS_ZERO_ON_FREE` but to
scrub, so what a call answers and what it leaves of the bookkeeping follow from the bookkeeping:
`reply_books` is the statement for every public function, the other lemmas are its parts, one for
each function of the source.
-/

import Dynostatic.System

namespace Dynostatic

open Tracing Tracing.Traced

/-- The same build with another setting of `DS_ZERO_ON_FREE`. -/
def Config.setZeroOnFree (c : Config) (zero : Bool) : Config := { c with zeroOnFree := zero }

def Placement.setZeroOnFree (q : Placement) (zero : Bool) : Placement :=
  { q with zeroOnFree := zero }

/-- The instance without its arena. -/
def DynostaticBuffer.books (s : DynostaticBuffer) : DynostaticBuffer :=
  { s with memory := fun _ => 0 }

def Assigned.books (a : Assigned) : Assigned := { a with buffer := a.buffer.books }

def Reply.books (r : Reply) : Reply := { r with buffer := r.buffer.books }

variable {q : Placement} {s : DynostaticBuffer} (zero : Bool)

section Static

theorem value_readAllocator (s : DynostaticBuffer) (index : Nat) :
    (readAllocator s index).value = s.allocators index :=
  rfl

theorem findLoop_books (offset allocIdx offsetInBlock rest iter : Nat) :
    findLoop (q.setZeroOnFree zero) s.books offset allocIdx offsetInBlock rest iter =
      findLoop q s offset allocIdx offsetInBlock rest iter := by
  induction rest generalizing iter with
  | zero => rfl
  | succ rest ih =>
    simp only [findLoop, ih]
    rfl

theorem containing_books (memory allocIdx offsetInBlock : Nat) :
    dsFindAllocatorContaining (q.setZeroOnFree zero) s.books memory allocIdx offsetInBlock =
      dsFindAllocatorContaining q s memory allocIdx offsetInBlock := by
  simp only [dsFindAllocatorContaining, findLoop_books]
  rfl

theorem forMemory_books (memory allocIdx : Nat) :
    dsFindAllocatorForMemory (q.setZeroOnFree zero) s.books memory allocIdx =
      dsFindAllocatorForMemory q s memory allocIdx := by
  simp only [dsFindAllocatorForMemory, containing_books]

theorem scanForReuse_books (alignedSize rest iter : Nat) :
    scanForReuse s.books alignedSize rest iter = scanForReuse s alignedSize rest iter := by
  induction rest generalizing iter with
  | zero => rfl
  | succ rest ih =>
    simp only [scanForReuse, ih]
    rfl

theorem reuseRecord_books (c : Config) (iter : Nat) :
    (reuseRecord (c.setZeroOnFree zero) s.books iter).value = (reuseRecord c s iter).value.books :=
  rfl

theorem bumpRecord_books (c : Config) (alignedSize iter allocIdx : Nat) :
    (bumpRecord (c.setZeroOnFree zero) s.books alignedSize iter allocIdx).value =
      (bumpRecord c s alignedSize iter allocIdx).value.books := by
  unfold bumpRecord
  rw [value_ite, value_ite, apply_ite Assigned.books]
  refine if_congr Iff.rfl rfl ?_
  rw [value_bind, value_bind, value_ite, value_ite, apply_ite Assigned.books]
  rfl

theorem getNewAllocator_books (c : Config) (size allocIdx : Nat) :
    (dsGetNewAllocator (c.setZeroOnFree zero) s.books size allocIdx).value =
      (dsGetNewAllocator c s size allocIdx).value.books := by
  unfold dsGetNewAllocator
  rw [value_ite, value_ite, apply_ite Assigned.books]
  refine if_congr Iff.rfl rfl ?_
  -- neither the rounding nor the number of records depends on the scrubbing
  have rounded : dsAlignUp (c.setZeroOnFree zero) size = dsAlignUp c size := rfl
  have records : (c.setZeroOnFree zero).maxAllocationCount = c.maxAllocationCount := rfl
  simp only [value_bind, rounded, records, scanForReuse_books]
  split
  · exact reuseRecord_books zero c _
  · exact bumpRecord_books zero c _ _ allocIdx

theorem reclaimTrailing_books (s : DynostaticBuffer) (index : Nat) :
    (dsReclaimTrailing s.books index).value = (dsReclaimTrailing s index).value.books := by
  induction index generalizing s with
  | zero => rfl
  | succ index ih =>
    unfold dsReclaimTrailing
    simp only [value_bind, value_ite, apply_ite DynostaticBuffer.books]
    exact if_congr Iff.rfl rfl (ih (reclaimRecord s (index + 1)).value)

end Static

/-! ### `ds_malloc` -/

/-- The rule for a test that both sides make. -/
theorem value_books_ite {condition : Prop} [Decidable condition]
    {program other program' other' : Traced Event Reply}
    (first : program.value = program'.value.books) (second : other.value = other'.value.books) :
    (if condition then program else other).value =
      (if condition then program' else other').value.books := by
  split
  · exact first
  · exact second

theorem dsMalloc_books (pDsBuffer : BufferArg) (pMemory : Option Nat) (size : Nat) :
    (dsMalloc (q.setZeroOnFree zero) s.books pDsBuffer pMemory size).value =
      (dsMalloc q s pDsBuffer pMemory size).value.books := by
  cases pMemory with
  | none => rfl
  | some memory =>
    unfold dsMalloc
    refine value_books_ite rfl (value_books_ite rfl (value_books_ite rfl ?_))
    rw [value_bind, value_bind, forMemory_books]
    refine value_books_ite rfl ?_
    have assigned := getNewAllocator_books (s := s) zero q.toConfig size
      (dsFindAllocatorForMemory q s memory 0).value.allocIdx
    rw [value_bind, value_bind]
    change (dsGetNewAllocator (q.setZeroOnFree zero).toConfig _ _ _).value = _ at assigned
    rw [assigned]
    exact value_books_ite rfl rfl

/-! ### Calls that leave the same bookkeeping -/

/-- The two programs answer the same, and leave the same bookkeeping. -/
def SameBooks (program program' : Traced Event Reply) : Prop :=
  program.value.books = program'.value.books

theorem SameBooks.ite {condition : Prop} [Decidable condition]
    {program other program' other' : Traced Event Reply} (first : SameBooks program program')
    (second : SameBooks other other') :
    SameBooks (if condition then program else other)
      (if condition then program' else other') := by
  split
  · exact first
  · exact second

/-- The rule for a part that yields the same on both sides. -/
theorem SameBooks.bind {α : Type} {program program' : Traced Event α}
    {rest rest' : α → Traced Event Reply} (same : program.value = program'.value)
    (second : SameBooks (rest program'.value) (rest' program'.value)) :
    SameBooks (program >>= rest) (program' >>= rest') := by
  show (rest program.value).value.books = _
  rw [same]
  exact second

theorem dsMalloc_sameBooks (pDsBuffer : BufferArg) (pMemory : Option Nat) (size : Nat) :
    SameBooks (dsMalloc (q.setZeroOnFree zero) s.books pDsBuffer pMemory size)
      (dsMalloc q s pDsBuffer pMemory size) := by
  unfold SameBooks
  rw [dsMalloc_books]
  rfl

/-! ### `ds_free` -/

theorem scrubRecord_books (q : Placement) (s : DynostaticBuffer) (record : DsAllocator) :
    (scrubRecord q s record).value.books = s.books := by
  unfold scrubRecord
  split <;> rfl

/-- What `ds_free` does to the bookkeeping, after the scrubbing. -/
def releaseBooks (c : Config) (s : DynostaticBuffer) (record : DsAllocator) (allocIdx : Nat) :
    DynostaticBuffer :=
  let released := if (sizeAdd c record.head record.size).value = s.dataHead then
      (dsReclaimTrailing s allocIdx).value
    else (writeAllocator s allocIdx { record with allocationStatus := .free }).value
  { released with usedAllocators := (sizeSub c released.usedAllocators 1).value }

theorem value_freeRecord (q : Placement) (s : DynostaticBuffer) (allocIdx : Nat) :
    (freeRecord q s allocIdx).value =
      releaseBooks q.toConfig (scrubRecord q s (s.allocators allocIdx)).value
        (s.allocators allocIdx) allocIdx := by
  simp only [freeRecord, releaseBooks, value_bind, value_readAllocator, value_ite]
  split <;> rfl

theorem releaseBooks_books (c : Config) (s : DynostaticBuffer) (record : DsAllocator)
    (allocIdx : Nat) :
    releaseBooks c s.books record allocIdx = (releaseBooks c s record allocIdx).books := by
  unfold releaseBooks
  by_cases top : (sizeAdd c record.head record.size).value = s.dataHead
  · have top' : (sizeAdd c record.head record.size).value = s.books.dataHead := top
    simp only [if_pos top, if_pos top', reclaimTrailing_books]
    rfl
  · have top' : ¬ (sizeAdd c record.head record.size).value = s.books.dataHead := top
    simp only [if_neg top, if_neg top']
    rfl

theorem freeRecord_books (allocIdx : Nat) :
    (freeRecord (q.setZeroOnFree zero) s.books allocIdx).value.books =
      (freeRecord q s allocIdx).value.books := by
  rw [value_freeRecord, value_freeRecord, ← releaseBooks_books, ← releaseBooks_books,
    scrubRecord_books, scrubRecord_books]
  rfl

theorem dsFree_books (pDsBuffer : BufferArg) (pMemory : Option Nat) :
    SameBooks (dsFree (q.setZeroOnFree zero) s.books pDsBuffer pMemory)
      (dsFree q s pDsBuffer pMemory) := by
  cases pMemory with
  | none => rfl
  | some memory =>
    unfold dsFree
    have looked := congrArg value (forMemory_books (q := q) (s := s) zero memory 0)
    refine .ite rfl (.ite rfl (.bind looked (.ite rfl ?_)))
    have freed := freeRecord_books (q := q) (s := s) zero
      (dsFindAllocatorForMemory q s memory 0).value.allocIdx
    exact congrArg (fun buffer => (⟨.ok, buffer, some 0⟩ : Reply)) freed

/-- The same from two instances that differ in their arenas. -/
theorem dsFree_congr {t : DynostaticBuffer} (same : t.books = s.books) (pDsBuffer : BufferArg)
    (pMemory : Option Nat) :
    SameBooks (dsFree (q.setZeroOnFree zero) t pDsBuffer pMemory)
      (dsFree q s pDsBuffer pMemory) := by
  have forget : SameBooks (dsFree (q.setZeroOnFree zero) t.books pDsBuffer pMemory)
      (dsFree (q.setZeroOnFree zero) t pDsBuffer pMemory) :=
    dsFree_books (q := q.setZeroOnFree zero) zero pDsBuffer pMemory
  rw [same] at forget
  exact forget.symm.trans (dsFree_books zero pDsBuffer pMemory)

/-! ### `ds_calloc` and `ds_realloc` -/

theorem dsCalloc_books (pDsBuffer : BufferArg) (pMemory : Option Nat) (len sizeOfElem : Nat) :
    SameBooks (dsCalloc (q.setZeroOnFree zero) s.books pDsBuffer pMemory len sizeOfElem)
      (dsCalloc q s pDsBuffer pMemory len sizeOfElem) := by
  cases pMemory with
  | none => rfl
  | some memory =>
    unfold dsCalloc
    refine .ite rfl (.ite rfl (.ite rfl ?_))
    unfold SameBooks
    rw [value_bind, value_bind, dsMalloc_books]
    exact SameBooks.ite rfl rfl

theorem moveBlock_books (memory size alignedSize capacity : Nat) :
    SameBooks (moveBlock (q.setZeroOnFree zero) s.books memory size alignedSize capacity)
      (moveBlock q s memory size alignedSize capacity) := by
  unfold moveBlock SameBooks
  rw [value_bind, value_bind, dsMalloc_books]
  refine SameBooks.ite rfl ?_
  -- the two copies differ in the arena only
  have freed := fun new => dsFree_congr (q := q) zero
    (t := (dsMemcpy (q.setZeroOnFree zero) (dsMalloc q s .self (some 0) size).value.books.buffer
      (fun _ => 0) new alignedSize memory capacity).value)
    (s := (dsMemcpy q (dsMalloc q s .self (some 0) size).value.buffer (fun _ => 0) new alignedSize
      memory capacity).value) rfl .self (some memory)
  exact congrArg (fun freed : Reply => (⟨.ok, freed.buffer,
    some ((dsMalloc q s .self (some 0) size).value.cell.getD 0)⟩ : Reply)) (freed _)

theorem resizeRecord_books (memory size allocIdx : Nat) :
    SameBooks (resizeRecord (q.setZeroOnFree zero) s.books memory size allocIdx)
      (resizeRecord q s memory size allocIdx) := by
  unfold resizeRecord
  refine .bind rfl (.bind rfl (.ite rfl (.bind rfl (.ite (.bind rfl (.ite rfl ?_)) ?_))))
  · exact moveBlock_books zero _ _ _ _
  · exact moveBlock_books zero _ _ _ _

theorem dsRealloc_books (pDsBuffer : BufferArg) (pMemory : Option Nat) (size : Nat) :
    SameBooks (dsRealloc (q.setZeroOnFree zero) s.books pDsBuffer pMemory size)
      (dsRealloc q s pDsBuffer pMemory size) := by
  cases pMemory with
  | none => rfl
  | some memory =>
    unfold dsRealloc
    refine .ite rfl (.ite rfl (.ite (dsFree_books zero _ _) (.ite ?_ (.ite rfl ?_))))
    · exact dsMalloc_sameBooks zero _ (some memory) size
    · refine .bind (congrArg value (forMemory_books zero memory 0)) (.ite rfl ?_)
      exact resizeRecord_books zero memory size _

/-! ### The other calls -/

theorem usageLoop_books (rest iter usage : Nat) :
    usageLoop (q.setZeroOnFree zero) s.books rest iter usage = usageLoop q s rest iter usage := by
  induction rest generalizing iter usage with
  | zero => rfl
  | succ rest ih =>
    simp only [usageLoop, ih]
    rfl

theorem maxSizeLoop_books (rest iter maxSize : Nat) :
    maxSizeLoop s.books rest iter maxSize = maxSizeLoop s rest iter maxSize := by
  induction rest generalizing iter maxSize with
  | zero => rfl
  | succ rest ih =>
    simp only [maxSizeLoop, ih]
    rfl

theorem getters_books (pDsBuffer : BufferArg) (out : Option Nat) :
    SameBooks (dsGetMemoryUsage (q.setZeroOnFree zero) s.books pDsBuffer out)
        (dsGetMemoryUsage q s pDsBuffer out) ∧
      SameBooks (dsGetMaxNewAllocationSize (q.setZeroOnFree zero) s.books pDsBuffer out)
        (dsGetMaxNewAllocationSize q s pDsBuffer out) ∧
      SameBooks (dsGetFreeAllocatorCnt (q.setZeroOnFree zero) s.books pDsBuffer out)
        (dsGetFreeAllocatorCnt q s pDsBuffer out) := by
  refine ⟨.ite rfl (.ite rfl (.bind ?_ (.ite rfl rfl))), .ite rfl (.ite rfl (.ite ?_ rfl)),
    .ite rfl (.ite rfl rfl)⟩
  · exact congrArg value (usageLoop_books zero _ 0 0)
  · refine .bind (congrArg value (maxSizeLoop_books _ 0 0)) (.ite (.bind ?_ rfl) rfl)
    rfl

theorem lifecycle_books (pDsBuffer : BufferArg) :
    SameBooks (dsInitializeAllocation (q.setZeroOnFree zero) s.books pDsBuffer)
        (dsInitializeAllocation q s pDsBuffer) ∧
      SameBooks (dsDeinitAllocation (q.setZeroOnFree zero) s.books pDsBuffer)
        (dsDeinitAllocation q s pDsBuffer) :=
  ⟨.ite rfl (.ite rfl rfl), .ite rfl (.ite rfl rfl)⟩

theorem dsSafeMemoryCopy_books (pAllocHolder : BufferArg) (outside : Nat → UInt8)
    (dst src count : Nat) :
    SameBooks (dsSafeMemoryCopy (q.setZeroOnFree zero) s.books pAllocHolder outside dst src count)
      (dsSafeMemoryCopy q s pAllocHolder outside dst src count) := by
  have looked := congrArg value (containing_books (q := q) (s := s) zero dst 0 0)
  refine .ite rfl (.ite rfl (.bind looked (.ite rfl (.bind rfl (.ite rfl ?_)))))
  exact .bind rfl (.ite rfl rfl)

theorem dsSafeMemorySet_books (pAllocHolder : BufferArg) (dst : Nat) (byte : Int) (count : Nat) :
    SameBooks (dsSafeMemorySet (q.setZeroOnFree zero) s.books pAllocHolder dst byte count)
      (dsSafeMemorySet q s pAllocHolder dst byte count) := by
  have looked := congrArg value (containing_books (q := q) (s := s) zero dst 0 0)
  refine .ite rfl (.ite rfl (.bind looked (.ite rfl (.bind rfl (.ite rfl ?_)))))
  exact .bind rfl (.ite rfl rfl)

/-- **The answer and the bookkeeping after a call follow from the bookkeeping before it.** -/
theorem reply_books (op : Op) :
    (reply (q.setZeroOnFree zero) s.books op).books = (reply q s op).books := by
  cases op with
  | initializeAllocation p => exact (lifecycle_books zero p).1
  | malloc p pMemory size => exact dsMalloc_sameBooks zero p pMemory size
  | free p pMemory => exact dsFree_books zero p pMemory
  | calloc p pMemory len sizeOfElem => exact dsCalloc_books zero p pMemory len sizeOfElem
  | realloc p pMemory size => exact dsRealloc_books zero p pMemory size
  | getMemoryUsage p out => exact (getters_books zero p out).1
  | getMaxNewAllocationSize p out => exact (getters_books zero p out).2.1
  | getFreeAllocatorCnt p out => exact (getters_books zero p out).2.2
  | deinitAllocation p => exact (lifecycle_books zero p).2
  | safeMemoryCopy p outside dst src count =>
    exact dsSafeMemoryCopy_books zero p outside dst src count
  | safeMemorySet p dst value count => exact dsSafeMemorySet_books zero p dst value count

end Dynostatic
