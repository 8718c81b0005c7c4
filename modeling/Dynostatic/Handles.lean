/-
**Pointers kept in the arena.**

A client of the library keeps lists and trees in its blocks, so the variable whose address it passes
to `ds_malloc`, `ds_free`, `ds_calloc` or `ds_realloc` is often itself a part of the arena. The
functions then read and write their own arena through `*p_memory`. Here they are embedded a second
time with `p_memory` the address of `memory[slot]`: every `*p_memory` of the source is a load or a
store of the bytes there, where it stands in the source.

* `handles_settle` — in every run, passing the address of a pointer inside a live block is the same
  as copying the pointer out, making the call on the copy, and copying it back: the same codes, the
  same events, the same states. So what is proved of the calls on separate variables holds.
* `handles_move` — what a `ds_realloc` that moves does to the pointers in the arena.
-/

import Dynostatic.Clients
import Dynostatic.Completeness
import Dynostatic.Lib.Coupled
import Dynostatic.Lib.Words
import Dynostatic.Resize
import Dynostatic.Writes

namespace Dynostatic

open Tracing Tracing.Traced Tiling Rounding Bytes Runs

/-- How the target keeps a `void *`: as some bytes, in one way for each address. -/
abbrev PointerFormat (q : Placement) : Type := Words.Format UInt8 (2 ^ q.ptrBits)

section Access

variable {q : Placement} (format : PointerFormat q) (s : DynostaticBuffer)

/-- `*p_memory`, where `p_memory` is the address of `memory[slot]`. -/
def pointerAt (slot : Nat) : Nat := format.load s.memory slot

/-- `*p_memory = address`, where `p_memory` is the address of `memory[slot]`. -/
def setPointer (slot address : Nat) : DynostaticBuffer :=
  { s with memory := format.store s.memory slot address }

end Access

/-! ### The functions -/

/-- What a function leaves whose `p_memory` points into the arena: the variable is a part of the
instance. -/
structure Settled where
  code : DsErrCode
  buffer : DynostaticBuffer

section Functions

variable {q : Placement} (format : PointerFormat q) (s : DynostaticBuffer) (pDsBuffer : BufferArg)

/-- `ds_malloc`. -/
def dsMallocAt (slot size : Nat) : Traced Event Settled :=
  if pDsBuffer = .null ∨ size = 0 then
    pure ⟨.invalidArg, s⟩
  else if s.initMagic ≠ dsMagicNumber then
    pure ⟨.noInit, s⟩
  else if q.maxAllocationSize < size then
    pure ⟨.tooBigChunk, s⟩
  else do
    let found ← dsFindAllocatorForMemory q s (pointerAt format s slot) 0
    if found.code = .ok then
      pure ⟨.ptrAllocYet, s⟩
    else
      let ret ← dsGetNewAllocator q.toConfig s size found.allocIdx
      if ret.code ≠ .ok then
        pure ⟨ret.code, ret.buffer⟩
      else
        let record ← readAllocator ret.buffer ret.allocIdx
        pure ⟨.ok, setPointer format ret.buffer slot (q.base + record.head)⟩

/-- `ds_free`. The pointer is cleared when the block has been zeroed and released. -/
def dsFreeAt (slot : Nat) : Traced Event Settled :=
  if pDsBuffer = .null ∨ pointerAt format s slot = 0 then
    pure ⟨.invalidArg, s⟩
  else if s.initMagic ≠ dsMagicNumber then
    pure ⟨.noInit, s⟩
  else do
    let found ← dsFindAllocatorForMemory q s (pointerAt format s slot) 0
    if found.code ≠ .ok then
      pure ⟨found.code, s⟩
    else
      let freed ← freeRecord q s found.allocIdx
      pure ⟨.ok, setPointer format freed slot 0⟩

/-- `ds_calloc`. The block to zero is read back through `p_memory`. -/
def dsCallocAt (slot len sizeOfElem : Nat) : Traced Event Settled :=
  if pDsBuffer = .null ∨ len = 0 ∨ sizeOfElem = 0 then
    pure ⟨.invalidArg, s⟩
  else if s.initMagic ≠ dsMagicNumber then
    pure ⟨.noInit, s⟩
  else if sizeMul q.toConfig len sizeOfElem / len ≠ sizeOfElem then
    pure ⟨.invalidArg, s⟩
  else do
    let totalSize := sizeMul q.toConfig len sizeOfElem
    let ret ← dsMallocAt format s pDsBuffer slot totalSize
    if ret.code ≠ .ok then
      pure ret
    else
      let alignedSize ← dsAlignUp q.toConfig totalSize
      let zeroed ← dsZero q ret.buffer (pointerAt format ret.buffer slot) alignedSize totalSize
      pure ⟨.ok, zeroed⟩

/-- The move path of `ds_realloc`. `p_new` is a variable of the function; `*p_memory` is read for
the copy, and again by `ds_free`, which clears it before it is set to `p_new`. -/
def moveBlockAt (slot size alignedSize capacity : Nat) : Traced Event Settled := do
  let ret ← dsMalloc q s .self (some 0) size
  if ret.code ≠ .ok then
    pure ⟨ret.code, ret.buffer⟩
  else
    let new := ret.cell.getD 0
    let copied ← dsMemcpy q ret.buffer (fun _ => 0) new alignedSize
      (pointerAt format ret.buffer slot) capacity
    let freed ← dsFreeAt format copied .self slot
    emit (.assertion (freed.code = .ok))
    pure ⟨.ok, setPointer format freed.buffer slot new⟩

/-- The part of `ds_realloc` after its lookup. -/
def resizeRecordAt (slot size allocIdx : Nat) : Traced Event Settled := do
  let record ← readAllocator s allocIdx
  let alignedSize ← dsAlignUp q.toConfig size
  if alignedSize ≤ record.size then
    pure ⟨.ok, s⟩
  else
    let stop ← sizeAdd q.toConfig record.head record.size
    if stop = s.dataHead then
      let room ← sizeSub q.toConfig q.bufferMemorySize record.head
      if alignedSize ≤ room then
        let head ← sizeAdd q.toConfig record.head alignedSize
        let grown ← writeAllocator { s with dataHead := head } allocIdx
          { record with size := alignedSize }
        pure ⟨.ok, grown⟩
      else
        moveBlockAt format s slot size alignedSize record.size
    else
      moveBlockAt format s slot size alignedSize record.size

/-- `ds_realloc`. -/
def dsReallocAt (slot size : Nat) : Traced Event Settled :=
  if pDsBuffer = .null then
    pure ⟨.invalidArg, s⟩
  else if s.initMagic ≠ dsMagicNumber then
    pure ⟨.noInit, s⟩
  else if size = 0 then
    dsFreeAt format s pDsBuffer slot
  else if pointerAt format s slot = 0 then
    dsMallocAt format s pDsBuffer slot size
  else if q.maxAllocationSize < size then
    pure ⟨.tooBigChunk, s⟩
  else do
    let found ← dsFindAllocatorForMemory q s (pointerAt format s slot) 0
    if found.code ≠ .ok then
      pure ⟨found.code, s⟩
    else
      resizeRecordAt format s slot size found.allocIdx

/-- A call through the pointer at an offset of the arena. -/
def callAt : ClientCall Nat → Traced Event Settled
  | .malloc slot size => dsMallocAt format s .self slot size
  | .calloc slot len sizeOfElem => dsCallocAt format s .self slot len sizeOfElem
  | .realloc slot size => dsReallocAt format s .self slot size
  | .free slot => dsFreeAt format s .self slot

end Functions

/-! ### Copying the pointer out and back -/

section Settle

variable {q : Placement} (format : PointerFormat q)

/-- The variable a call left is copied to the arena. -/
def Reply.settle (slot : Nat) (r : Reply) : Settled :=
  ⟨r.code, setPointer format r.buffer slot (r.cell.getD 0)⟩

/-- A function on a pointer in the arena leaves what the function on a copy leaves, settled. -/
def Settles (slot : Nat) (settled : Settled) (r : Reply) : Prop := settled = r.settle format slot

variable {format} {s s' : DynostaticBuffer} {slot : Nat}

/-- The pointer was not written. -/
theorem settles_untouched (code : DsErrCode) (same : s'.memory = s.memory) :
    Settles format slot ⟨code, s'⟩ ⟨code, s', some (pointerAt format s slot)⟩ := by
  have kept : format.store s'.memory slot (format.load s.memory slot) = s'.memory := by
    rw [same, Words.Format.store_load]
  show Settled.mk code s' = Settled.mk code { s' with memory := _ }
  rw [Option.getD_some, pointerAt, kept]

theorem settles_set (s : DynostaticBuffer) (address : Nat) :
    Settles format slot ⟨.ok, setPointer format s slot address⟩ ⟨.ok, s, some address⟩ :=
  rfl

end Settle

/-! ### Functions that write no byte of the arena -/

section Memory

variable {q : Placement} {s : DynostaticBuffer}

theorem dsGetNewAllocator_memory (c : Config) (s : DynostaticBuffer) (size allocIdx : Nat) :
    (dsGetNewAllocator c s size allocIdx).value.buffer.memory = s.memory := by
  unfold dsGetNewAllocator
  split
  · rfl
  · rw [value_bind, value_bind]
    split
    · rfl
    · unfold bumpRecord
      split
      · rfl
      · rw [value_bind, value_ite]
        split <;> rfl

/-- `ds_malloc` leaves the arena to its client. -/
theorem dsMalloc_memory (pDsBuffer : BufferArg) (pMemory : Option Nat) (size : Nat) :
    (dsMalloc q s pDsBuffer pMemory size).value.buffer.memory = s.memory := by
  cases pMemory with
  | none => rfl
  | some memory =>
    unfold dsMalloc
    simp only [value_ite, value_bind]
    split_ifs <;> first | rfl | exact dsGetNewAllocator_memory _ _ _ _

end Memory

/-! ### The functions settle -/

section Coupled

variable {q : Placement} {format : PointerFormat q} {s : DynostaticBuffer} {slot : Nat}

theorem coupled_dsMallocAt (pDsBuffer : BufferArg) (size : Nat) :
    Coupled (Settles format slot) (dsMallocAt format s pDsBuffer slot size)
      (dsMalloc q s pDsBuffer (some (pointerAt format s slot)) size) := by
  refine .ite (fun _ => coupled_pure (settles_untouched _ rfl)) fun _ => ?_
  refine .ite (fun _ => coupled_pure (settles_untouched _ rfl)) fun _ => ?_
  refine .ite (fun _ => coupled_pure (settles_untouched _ rfl)) fun _ => ?_
  refine coupled_bind_same ?_
  refine .ite (fun _ => coupled_pure (settles_untouched _ rfl)) fun _ => ?_
  refine coupled_bind_same ?_
  refine .ite (fun _ => ?_) fun _ => ?_
  · exact coupled_pure (settles_untouched _ (dsGetNewAllocator_memory _ _ _ _))
  · exact coupled_bind_same (coupled_pure (settles_set _ _))

theorem coupled_dsFreeAt (pDsBuffer : BufferArg) :
    Coupled (Settles format slot) (dsFreeAt format s pDsBuffer slot)
      (dsFree q s pDsBuffer (some (pointerAt format s slot))) := by
  refine .ite (fun _ => coupled_pure (settles_untouched _ rfl)) fun _ => ?_
  refine .ite (fun _ => coupled_pure (settles_untouched _ rfl)) fun _ => ?_
  refine coupled_bind_same ?_
  refine .ite (fun _ => coupled_pure (settles_untouched _ rfl)) fun _ => ?_
  exact coupled_bind_same (coupled_pure (settles_set _ _))

end Coupled

section Encoded

variable {q : Placement} {format : PointerFormat q} {layout after : Layout q.toConfig}
  {memory : Nat → UInt8} {slot size target : Nat}

/-- **A pointer inside a live block is apart from a block that is taken.** -/
theorem slot_apart (inside : InsideBlock q (layout.encode memory) (q.base + slot) format.width)
    (placed : Placed layout.blocks size after.blocks target) :
    slot + format.width ≤ start after.blocks target ∨
      start after.blocks target + size ≤ slot := by
  obtain ⟨index, capacity, distance, found, fits, same⟩ := insideBlock_encode_iff.mp inside
  obtain ⟨capacity', large, taken⟩ := placed.getElem?_eq
  have apart := placed.apart taken found
  omega

/-- **What a `ds_malloc` that succeeds leaves.** -/
theorem malloc_placed {p : Nat}
    (ok : (dsMalloc q (layout.encode memory) .self (some p) size).value.code = .ok) :
    ∃ (after : Layout q.toConfig) (target : Nat),
      Placed layout.blocks (roundUp q.alignment size) after.blocks target ∧
      (dsMalloc q (layout.encode memory) .self (some p) size).value =
        ⟨.ok, after.encode memory, some (q.base + start after.blocks target)⟩ := by
  obtain ⟨-, -, -, after, target, placed, answer⟩ :=
    (reply_outcome layout memory (.malloc .self (some p) size)).of_requests (.malloc p size) ok
  rw [fill_empty] at answer
  exact ⟨after, target, placed, answer⟩

/-- The address of a block is a pointer. -/
theorem address_lt (after : Layout q.toConfig) {capacity : Nat}
    (found : after.blocks[target]? = some ⟨capacity, true⟩) :
    q.base + start after.blocks target < 2 ^ q.ptrBits := by
  have positive : 0 < capacity := (after.capacity_of_getElem? found).positive
  have bound : start after.blocks target + capacity ≤ q.bufferMemorySize := after.end_le found
  have fits := q.base_fits
  omega

/-- A pointer that is set can be read back. -/
theorem pointerAt_setPointer {s : DynostaticBuffer} {address : Nat}
    (small : address < 2 ^ q.ptrBits) :
    pointerAt format (setPointer format s slot address) slot = address :=
  format.load_store small

theorem setPointer_setPointer (s : DynostaticBuffer) (address address' : Nat) :
    setPointer format (setPointer format s slot address) slot address' =
      setPointer format s slot address' :=
  congrArg (fun bytes => { s with memory := bytes }) format.store_store

/-- A copy to bytes apart from the pointer does not change it. -/
theorem pointerAt_dsMemcpy {s : DynostaticBuffer} {outside : Nat → UInt8}
    {low room src count : Nat} (apart : slot + format.width ≤ low ∨ low + count ≤ slot) :
    pointerAt format (dsMemcpy q s outside (q.base + low) room src count).value slot =
      pointerAt format s slot := by
  show pointerAt format (storeBytes q s (q.base + low) count fun i =>
    byteAt q s outside (src + i)) slot = _
  rw [storeBytes_base]
  show format.load (blit s.memory low count fun i => byteAt q s outside (src + i)) slot = _
  rw [format.load_blit apart]
  rfl

/-- The write can be made before the pointer is set. -/
theorem storeBytes_setPointer {s : DynostaticBuffer} {low count address : Nat}
    {source : Nat → UInt8} (apart : slot + format.width ≤ low ∨ low + count ≤ slot) :
    storeBytes q (setPointer format s slot address) (q.base + low) count source =
      setPointer format (storeBytes q s (q.base + low) count source) slot address := by
  rw [storeBytes_base, storeBytes_base]
  exact congrArg (fun bytes => { s with memory := bytes }) (format.store_blit apart).symm

/-- The end of `ds_calloc`: the block read back is the one that was handed out. -/
theorem coupled_zeroed {s : DynostaticBuffer} {low room count : Nat}
    (small : q.base + low < 2 ^ q.ptrBits)
    (apart : slot + format.width ≤ low ∨ low + count ≤ slot) :
    Coupled (Settles format slot)
      (dsZero q (setPointer format s slot (q.base + low))
          (pointerAt format (setPointer format s slot (q.base + low)) slot) room count >>=
        fun zeroed => pure ⟨.ok, zeroed⟩)
      (dsZero q s (q.base + low) room count >>=
        fun zeroed => pure ⟨.ok, zeroed, some (q.base + low)⟩) := by
  rw [pointerAt_setPointer small]
  exact ⟨rfl, congrArg (Settled.mk .ok) (storeBytes_setPointer apart)⟩

theorem coupled_dsCallocAt (len sizeOfElem : Nat)
    (inside : InsideBlock q (layout.encode memory) (q.base + slot) format.width) :
    Coupled (Settles format slot)
      (dsCallocAt format (layout.encode memory) .self slot len sizeOfElem)
      (dsCalloc q (layout.encode memory) .self
        (some (pointerAt format (layout.encode memory) slot)) len sizeOfElem) := by
  refine .ite (fun _ => coupled_pure (settles_untouched _ rfl)) fun _ => ?_
  refine .ite (fun _ => coupled_pure (settles_untouched _ rfl)) fun _ => ?_
  refine .ite (fun _ => coupled_pure (settles_untouched _ rfl)) fun _ => ?_
  refine (coupled_dsMallocAt .self _).bind fun settled => ?_
  rw [settled]
  refine .ite (fun _ => coupled_pure rfl) fun notFailed => ?_
  obtain ⟨after, target, placed, answer⟩ := malloc_placed (not_not.mp notFailed)
  obtain ⟨capacity, -, taken⟩ := placed.getElem?_eq
  have apart := slot_apart inside placed
  have rounded := le_roundUp q.alignment_pos (sizeMul q.toConfig len sizeOfElem)
  rw [answer]
  exact coupled_bind_same (coupled_zeroed (address_lt after taken) (by omega))

/-- The end of a move: `ds_free` reads the pointer that was copied from. -/
theorem coupled_moved {s copied : DynostaticBuffer} {new : Nat}
    (kept : pointerAt format copied slot = pointerAt format s slot) :
    Coupled (Settles format slot)
      (do
        let freed ← dsFreeAt format copied .self slot
        emit (.assertion (freed.code = .ok))
        pure ⟨.ok, setPointer format freed.buffer slot new⟩)
      (do
        let freed ← dsFree q copied .self (some (pointerAt format s slot))
        emit (.assertion (freed.code = .ok))
        pure ⟨.ok, freed.buffer, some new⟩) := by
  rw [← kept]
  refine (coupled_dsFreeAt .self).bind fun settled => ?_
  rw [settled]
  refine coupled_bind_same (coupled_pure ?_)
  exact congrArg (Settled.mk .ok) (setPointer_setPointer _ _ _)

/-- **The pointer survives the copy to the new block**, so `ds_free` finds the old one. -/
theorem coupled_moveBlockAt {alignedSize capacity : Nat}
    (inside : InsideBlock q (layout.encode memory) (q.base + slot) format.width)
    (more : capacity ≤ roundUp q.alignment size) :
    Coupled (Settles format slot)
      (moveBlockAt format (layout.encode memory) slot size alignedSize capacity)
      (moveBlock q (layout.encode memory) (pointerAt format (layout.encode memory) slot) size
        alignedSize capacity) := by
  refine coupled_bind_same (.ite (fun _ => ?_) fun notFailed => ?_)
  · exact coupled_pure (settles_untouched _ (dsMalloc_memory _ _ _))
  obtain ⟨after, target, placed, answer⟩ := malloc_placed (not_not.mp notFailed)
  have apart := slot_apart inside placed
  rw [answer]
  exact coupled_bind_same (coupled_moved (pointerAt_dsMemcpy (by omega)))

theorem coupled_resizeRecordAt {allocIdx : Nat} (small : size ≤ q.maxAllocationSize)
    (inside : InsideBlock q (layout.encode memory) (q.base + slot) format.width) :
    Coupled (Settles format slot)
      (resizeRecordAt format (layout.encode memory) slot size allocIdx)
      (resizeRecord q (layout.encode memory) (pointerAt format (layout.encode memory) slot) size
        allocIdx) := by
  refine coupled_bind_same (coupled_bind_same ?_)
  rw [(yields_dsAlignUp small).value]
  refine .ite (fun _ => coupled_pure (settles_untouched _ rfl)) fun more => ?_
  have larger := Nat.le_of_not_le more
  refine coupled_bind_same (.ite (fun _ => ?_) fun _ => coupled_moveBlockAt inside larger)
  refine coupled_bind_same (.ite (fun _ => ?_) fun _ => coupled_moveBlockAt inside larger)
  exact coupled_bind_same (coupled_bind_same (coupled_pure (settles_untouched _ rfl)))

theorem coupled_dsReallocAt (size : Nat)
    (inside : InsideBlock q (layout.encode memory) (q.base + slot) format.width) :
    Coupled (Settles format slot)
      (dsReallocAt format (layout.encode memory) .self slot size)
      (dsRealloc q (layout.encode memory) .self
        (some (pointerAt format (layout.encode memory) slot)) size) := by
  refine .ite (fun _ => coupled_pure (settles_untouched _ rfl)) fun _ => ?_
  refine .ite (fun _ => coupled_pure (settles_untouched _ rfl)) fun _ => ?_
  refine .ite (fun _ => coupled_dsFreeAt .self) fun _ => ?_
  refine .ite (fun _ => coupled_dsMallocAt .self size) fun _ => ?_
  refine .ite (fun _ => coupled_pure (settles_untouched _ rfl)) fun fits => ?_
  refine coupled_bind_same ?_
  refine .ite (fun _ => coupled_pure (settles_untouched _ rfl)) fun _ => ?_
  exact coupled_resizeRecordAt (Nat.le_of_not_lt fits) inside

end Encoded

/-! ### Runs -/

section Calls

variable {q : Placement} (format : PointerFormat q)

/-- The pointer is copied out, the call is made on the copy, and the copy is put back. -/
def callCopied (s : DynostaticBuffer) (request : ClientCall Nat) : Traced Event Settled := do
  let r ← call q s (request.op (pointerAt format s request.target))
  pure (r.settle format request.target)

variable {format}

/-- **A call through a pointer inside a live block** is the call on a copy. -/
theorem callAt_eq_callCopied {s : DynostaticBuffer} (encoded : Encoded q s)
    {request : ClientCall Nat}
    (inside : InsideBlock q s (q.base + request.target) format.width) :
    callAt format s request = callCopied format s request := by
  obtain ⟨layout, memory, rfl⟩ := encoded
  apply Coupled.eq_bind_pure
  cases request with
  | malloc slot size => exact coupled_dsMallocAt .self size
  | calloc slot len sizeOfElem => exact coupled_dsCallocAt len sizeOfElem inside
  | realloc slot size => exact coupled_dsReallocAt size inside
  | free slot => exact coupled_dsFreeAt .self

end Calls

/-- What a client does that keeps pointers in its blocks: an action as before, or a call through a
pointer in the arena. -/
inductive Linked where
  | act (action : Action)
  | through (request : ClientCall Nat)

namespace Linked

variable (q : Placement) (serve : DynostaticBuffer → ClientCall Nat → Traced Event Settled)

/-- The instance afterwards, where `serve` makes the calls through pointers. -/
def next (s : DynostaticBuffer) : Linked → DynostaticBuffer
  | .act action => Dynostatic.next q s action
  | .through request => (serve s request).value.buffer

/-- What is seen: the code a call returns, and the events it goes through. -/
def shows (s : DynostaticBuffer) : Linked → Option DsErrCode × List Event
  | .act (.call op) => (some (reply q s op).code, (call q s op).events)
  | .act (.store _ _) => (none, [])
  | .through request => (some (serve s request).value.code, (serve s request).events)

variable {q} in
/-- The pointer passed lies inside a live block. -/
def Owns (format : PointerFormat q) (s : DynostaticBuffer) : Linked → Prop
  | .act _ => True
  | .through request => InsideBlock q s (q.base + request.target) format.width

end Linked

section Runs

variable {q : Placement} {format : PointerFormat q} {s : DynostaticBuffer}

/-- A live block is a block of an initialized instance. -/
theorem Reachable.encoded_of_inside (reachable : Reachable q s) {dst count : Nat}
    (inside : InsideBlock q s dst count) : Encoded q s := by
  obtain ⟨p, capacity, live, -⟩ := inside
  exact reachable.of_initialized live.1

/-- A pointer in the arena can be set by stores of the client. -/
theorem Reachable.setPointer (reachable : Reachable q s) {slot : Nat}
    (bound : slot + format.width ≤ q.bufferMemorySize) (address : Nat) :
    Reachable q (setPointer format s slot address) :=
  reachable.store_bytes fun _ past => (format.store_outside (by omega)).symm

/-- A pointer inside a live block lies in the arena. -/
theorem slot_le {slot : Nat} (encoded : Encoded q s)
    (inside : InsideBlock q s (q.base + slot) format.width) :
    slot + format.width ≤ q.bufferMemorySize := by
  obtain ⟨layout, memory, rfl⟩ := encoded
  obtain ⟨index, size, distance, found, fits, same⟩ := insideBlock_encode_iff.mp inside
  have bound : start layout.blocks index + size ≤ q.bufferMemorySize := layout.end_le found
  omega

/-- One step. -/
theorem Reachable.linked (reachable : Reachable q s) {step : Linked}
    (owned : step.Owns format s) : Reachable q (step.next q (callCopied format) s) := by
  cases step with
  | act action => exact reachable.run [action]
  | through request =>
    have bound := slot_le (reachable.encoded_of_inside owned) owned
    exact Reachable.setPointer (reachable.run [.call _]) bound _

/-- One step is the same with the pointer copied. -/
theorem Linked.step_eq (reachable : Reachable q s) {step : Linked}
    (owned : step.Owns format s) :
    step.shows q (callAt format) s = step.shows q (callCopied format) s ∧
      step.next q (callAt format) s = step.next q (callCopied format) s := by
  cases step with
  | act action => exact ⟨by cases action <;> rfl, rfl⟩
  | through request =>
    have same := callAt_eq_callCopied (reachable.encoded_of_inside owned) owned
    simp only [Linked.shows, Linked.next, same, and_self]

end Runs

/-- **Pointers in the arena.** In every run of a client that passes addresses of pointers inside its
live blocks, each call returns the code and goes through the events of the call on a copy of the
pointer, and leaves the instance that call leaves with the copy put back. -/
theorem handles_settle {q : Placement} (format : PointerFormat q) {s : DynostaticBuffer}
    (reachable : Reachable q s) (steps : List Linked)
    (owned : Obeys (Linked.next q (callAt format)) (Linked.Owns format) s steps) :
    trace (Linked.next q (callAt format)) (Linked.shows q (callAt format)) s steps =
        trace (Linked.next q (callCopied format)) (Linked.shows q (callCopied format)) s steps ∧
      run (Linked.next q (callAt format)) s steps =
        run (Linked.next q (callCopied format)) s steps ∧
      Reachable q (run (Linked.next q (callAt format)) s steps) := by
  induction steps generalizing s with
  | nil => exact ⟨rfl, rfl, reachable⟩
  | cons step steps ih =>
    obtain ⟨now, later⟩ := owned
    obtain ⟨shown, left⟩ := Linked.step_eq reachable now
    have reached : Reachable q (step.next q (callAt format) s) := left ▸ reachable.linked now
    obtain ⟨trace_eq, run_eq, last⟩ := ih reached later
    refine ⟨?_, ?_, last⟩
    · rw [trace, trace, shown, trace_eq, left]
    · rw [run, run, run_eq, left]

/-- Pointers of eight bytes, low byte first. -/
def littleEndianPointers : PointerFormat defaultPlacement := Words.littleEndian 8

/-- Pointers at the start of each of two blocks: each takes a block, one of them moves, the other is
freed. -/
def twoHandles : List Linked :=
  [.through (.malloc 0 20), .through (.calloc 12 2 5), .through (.realloc 0 40),
    .through (.free 12)]

theorem handles_settle_twoHandles :
    pointerAt littleEndianPointers
      (run (Linked.next defaultPlacement (callAt littleEndianPointers)) twoLive twoHandles) 0 =
        4152 := by
  have inside : ∀ {s : DynostaticBuffer} (index head : Nat), index < 10 →
      s.initMagic = dsMagicNumber → s.allocators index = ⟨head, 12, .allocated⟩ →
      InsideBlock defaultPlacement s (4096 + head) 8 := by
    intro s index head small magic record
    have live : LiveBlock defaultPlacement s (4096 + head) 12 :=
      ⟨magic, index, small, by rw [record], by rw [record], by rw [record]; rfl⟩
    exact ⟨_, 12, live, by omega, by omega⟩
  have owned : Obeys (Linked.next defaultPlacement (callAt littleEndianPointers))
      (Linked.Owns littleEndianPointers) twoLive twoHandles :=
    ⟨inside 0 0 (by decide) rfl (by decide +kernel),
      inside 1 12 (by decide) rfl (by decide +kernel),
      inside 0 0 (by decide) rfl (by decide +kernel),
      inside 1 12 (by decide) rfl (by decide +kernel), trivial⟩
  rw [(handles_settle littleEndianPointers twoLive_reachable twoHandles owned).2.1]
  decide +kernel

/-! ### Moves -/

section Move

variable {q : Placement} {format : PointerFormat q} {layout after : Layout q.toConfig}
  {memory : Nat → UInt8} {slot size old index target : Nat}

theorem PointerFormat.width_pos (format : PointerFormat q) : 0 < format.width := by
  have based := q.base_pos
  have arena := q.maxSize_pos.trans_le q.maxSize_le
  have fits := q.base_fits
  exact Words.Format.width_pos format (by omega)

/-- The instance after a move through the pointer. -/
theorem setPointer_moved (memory : Nat → UInt8) (address : Nat) :
    setPointer format (layout.encode memory) slot address =
      layout.encode (format.store memory slot address) :=
  rfl

/-- A live block after a move was live when the new block was taken, and is not the old one. -/
theorem apart_of_released (found : layout.blocks[index]? = some ⟨old, true⟩) {p capacity : Nat}
    (live : LiveBlock q ((layout.release index).encode memory) p capacity) :
    p + capacity ≤ q.base + start layout.blocks index ∨
      q.base + start layout.blocks index + old ≤ p := by
  rw [liveBlock_encode_iff, blockAt_release found] at live
  by_cases here : p = q.base + start layout.blocks index
  · rw [here, Function.update_self] at live
    cases live
  · rw [Function.update_of_ne here] at live
    obtain ⟨other, found', rfl⟩ := exists_index_of_blockAt live
    have different : other ≠ index := by
      rintro rfl
      exact here rfl
    have apart : start layout.blocks other + capacity ≤ start layout.blocks index ∨
        start layout.blocks index + old ≤ start layout.blocks other :=
      apart_of_ne found' found different
    omega

/-- A live block stays live when another one moves. -/
theorem liveBlock_moved (memory' : Nat → UInt8)
    (found : layout.blocks[index]? = some ⟨old, true⟩)
    (placed : Placed layout.blocks (roundUp q.alignment size) after.blocks target)
    (positive : 0 < size) {p capacity : Nat} (live : LiveBlock q (layout.encode memory) p capacity)
    (different : p ≠ q.base + start layout.blocks index) :
    LiveBlock q ((after.release index).encode memory') p capacity := by
  obtain ⟨capacity', -, taken⟩ := placed.getElem?_eq
  rw [liveBlock_encode_iff] at live ⊢
  have new := blockAt_placed_none (q := q) placed (roundUp_pos positive)
  rw [blockAt_moved found placed positive taken, Function.update_of_ne different,
    Function.update_of_ne, live]
  rintro rfl
  rw [new] at live
  cases live

/-- **A pointer still lies inside a live block after a move** exactly when it was not inside the
block that moved. -/
theorem inside_moved_iff (memory' : Nat → UInt8)
    (inside : InsideBlock q (layout.encode memory) (q.base + slot) format.width)
    (found : layout.blocks[index]? = some ⟨old, true⟩)
    (placed : Placed layout.blocks (roundUp q.alignment size) after.blocks target)
    (positive : 0 < size) :
    InsideBlock q ((after.release index).encode memory') (q.base + slot) format.width ↔
      ¬ (start layout.blocks index ≤ slot ∧ slot < start layout.blocks index + old) := by
  have wide := format.width_pos
  obtain ⟨p, capacity, live, above, below⟩ := inside
  constructor
  · rintro ⟨p', capacity', live', above', below'⟩ ⟨from_old, to_old⟩
    have beside := apart_of_released (placed.getElem?_of_live found) live'
    rw [start_of_placed found placed] at beside
    omega
  · intro outside
    have different : p ≠ q.base + start layout.blocks index := by
      rintro rfl
      obtain rfl := live.unique (liveBlock_start found)
      omega
    exact ⟨p, capacity, liveBlock_moved memory' found placed positive live different, above, below⟩

/-- A pointer inside the bytes that are copied is copied. -/
theorem load_relocated {c : Config} {source goal count address i : Nat}
    (apart : goal + count ≤ source ∨ source + count ≤ goal)
    (beside : slot + format.width ≤ goal ∨ goal + count ≤ slot)
    (carried : i + format.width ≤ count) :
    format.load (format.store (relocate c memory source goal count) slot address) (goal + i) =
      format.load memory (source + i) := by
  refine format.load_shift fun j below => ?_
  rw [format.store_outside (by omega), Nat.add_assoc, relocate_target apart (by omega),
    Nat.add_assoc]

/-- **What a move leaves of the pointers in the arena**: the block at offset `h`, named by the
pointer at `slot`, has moved to offset `h'`. -/
structure MovedPointers (format : PointerFormat q) (s s' : DynostaticBuffer)
    (slot size h old h' capacity : Nat) : Prop where
  /-- The pointer names the new block. -/
  names : pointerAt format s' slot = q.base + h'
  live : LiveBlock q s' (q.base + h') capacity
  large : size ≤ capacity
  /-- The old block is no longer live, so other pointers to it are stale. -/
  gone : ∀ capacity, ¬ LiveBlock q s' (q.base + h) capacity
  /-- The pointers inside the old block are carried to the new one. -/
  carried : ∀ i, i + format.width ≤ old →
    pointerAt format s' (h' + i) = pointerAt format s (h + i)
  /-- The pointers inside the other live blocks are left as they were. -/
  others : ∀ p capacity other, LiveBlock q s p capacity → p ≠ q.base + h →
    p ≤ q.base + other → q.base + other + format.width ≤ p + capacity →
    other + format.width ≤ slot ∨ slot + format.width ≤ other →
    LiveBlock q s' p capacity ∧ pointerAt format s' other = pointerAt format s other
  /-- The pointer is still inside a live block if it was not kept in the block it named. -/
  kept_iff : InsideBlock q s' (q.base + slot) format.width ↔ ¬ (h ≤ slot ∧ slot < h + old)

variable (format) in
theorem movedPointers_of_placed (memory : Nat → UInt8)
    (inside : InsideBlock q (layout.encode memory) (q.base + slot) format.width)
    (found : layout.blocks[index]? = some ⟨old, true⟩) (positive : 0 < size)
    (more : old < roundUp q.alignment size)
    (placed : Placed layout.blocks (roundUp q.alignment size) after.blocks target) :
    ∃ capacity, MovedPointers format (layout.encode memory)
      (setPointer format ((after.release index).encode (relocate q.toConfig memory
        (start layout.blocks index) (start after.blocks target) old)) slot
          (q.base + start after.blocks target))
      slot size (start layout.blocks index) old (start after.blocks target) capacity := by
  obtain ⟨capacity, large, taken⟩ := placed.getElem?_eq
  have enough := (le_roundUp q.alignment_pos size).trans large
  have apart := placed.apart taken found
  have beside := slot_apart inside placed
  rw [setPointer_moved]
  refine ⟨capacity, ?_, ?_, enough, ?_, ?_, ?_, inside_moved_iff _ inside found placed positive⟩
  · exact pointerAt_setPointer (s := (after.release index).encode _) (address_lt after taken)
  · exact liveBlock_encode_iff.mpr (blockAt_moved_target found placed positive taken)
  · exact fun _ => not_liveBlock_encode_iff.mpr (blockAt_of_moved found placed) _
  · exact fun i carried => load_relocated (by omega) (by omega) carried
  · intro p capacity' other live different above below clear
    refine ⟨liveBlock_moved _ found placed positive live different, ?_⟩
    obtain ⟨owner, found', rfl⟩ := live.index
    have other_index : owner ≠ index := by
      rintro rfl
      exact different rfl
    refine format.load_congr fun k from_other to_other => ?_
    show format.store _ slot _ k = memory k
    rw [format.store_outside (by omega)]
    exact memory_of_moved found placed more found' other_index ⟨by omega, by omega⟩

end Move

/-- **A `ds_realloc` that moves, through a pointer in the arena.** Let the pointer at `slot` lie
inside a live block and name one, and let a `ds_realloc` through it succeed and change it. The
pointers inside the block go with it, those inside other blocks stay as they are, and the pointer
itself still lies inside a live block exactly when it was not kept in the block it named. If it was,
its copy in the new block holds the old address, where no live block is: the client has lost it. -/
theorem handles_move {q : Placement} (format : PointerFormat q) {s : DynostaticBuffer}
    (reachable : Reachable q s) {slot size old h : Nat}
    (inside : InsideBlock q s (q.base + slot) format.width)
    (named : pointerAt format s slot = q.base + h) (live : LiveBlock q s (q.base + h) old)
    (positive : 0 < size) {r : Settled}
    (answer : (dsReallocAt format s .self slot size).value = r) (ok : r.code = .ok)
    (moved : pointerAt format r.buffer slot ≠ q.base + h) :
    ∃ h' capacity, MovedPointers format s r.buffer slot size h old h' capacity := by
  have encoded := reachable.of_initialized live.1
  have settled : r = (reply q s (.realloc .self (some (q.base + h)) size)).settle format slot := by
    have copied : callAt format s (.realloc slot size) = callCopied format s (.realloc slot size) :=
      callAt_eq_callCopied encoded inside
    rw [← answer, ← named]
    exact congrArg Traced.value copied
  obtain ⟨layout, memory, rfl⟩ := encoded
  obtain ⟨index, found, same⟩ := live.index
  obtain rfl := Nat.add_left_cancel same
  subst settled
  have unmoved : ∀ {layout' : Layout q.toConfig},
      pointerAt format (setPointer format (layout'.encode memory) slot
        (q.base + start layout.blocks index)) slot = q.base + start layout.blocks index :=
    pointerAt_setPointer (address_lt layout found)
  rcases (reply_outcome layout memory _).of_resizes found positive ok with
    ⟨-, stays⟩ | ⟨_, _, -, -, -, -, grows⟩ | ⟨after, target, placed, more, moves⟩
  · rw [stays] at moved
    exact absurd unmoved moved
  · rw [grows] at moved
    exact absurd unmoved moved
  · obtain ⟨capacity, pointers⟩ :=
      movedPointers_of_placed format memory inside found positive more placed
    rw [moves]
    exact ⟨start after.blocks target, capacity, pointers⟩

/-- The lower of two blocks holds a pointer to itself. -/
def selfHandle : DynostaticBuffer := setPointer littleEndianPointers twoLive 0 4096

theorem handles_move_selfHandle : ∃ h' capacity,
    MovedPointers littleEndianPointers selfHandle
      (dsReallocAt littleEndianPointers selfHandle .self 0 40).value.buffer 0 40 0 12 h'
        capacity := by
  have live : LiveBlock defaultPlacement selfHandle (defaultPlacement.base + 0) 12 :=
    ⟨rfl, 0, by decide, rfl, rfl, rfl⟩
  exact handles_move littleEndianPointers (twoLive_reachable.setPointer (by decide) 4096)
    ⟨_, 12, live, by decide, by decide⟩ (by decide +kernel) live (by decide) rfl
    (by decide +kernel) (by decide +kernel)

end Dynostatic
