/-
**What the public functions do to a layout.**

One group of theorems for each public function, on the instance of a layout: the successful paths as
changes of the layout and the arena, and every other path as `Fails`. A function's caller inside the
library (`ds_calloc`, `ds_realloc`) is verified from its callee's theorems.

* `yields_dsMalloc_placed`, `yields_dsCalloc_placed` — a block is taken;
* `yields_dsFree_live`, `yields_dsFree_dead` — a block is released exactly at its start;
* `yields_dsRealloc_kept`, `_grown`, `_moved` — the three ways a block is resized;
* `yields_dsSafeMemoryCopy_inside`, `yields_dsSafeMemorySet_inside` — a write inside one block.
-/

import Dynostatic.Api
import Dynostatic.Statics

namespace Dynostatic

open Tracing Tracing.Traced Tiling Rounding Bytes

variable {q : Placement}

/-! ### Failing calls -/

/-- **A failing call**: an error code, and nothing is changed. -/
def Fails (q : Placement) (s : DynostaticBuffer) (cell : Option Nat)
    (program : Traced Event Reply) : Prop :=
  ∃ code, code ≠ .ok ∧ code ≠ .criticalErr ∧ Yields (Event.Safe q) program ⟨code, s, cell⟩

section Fails

variable {s : DynostaticBuffer} {cell : Option Nat}

theorem fails_pure {code : DsErrCode} (notOk : code ≠ .ok) (notCritical : code ≠ .criticalErr) :
    Fails q s cell (pure ⟨code, s, cell⟩) :=
  ⟨code, notOk, notCritical, yields_pure⟩

theorem Fails.code_ne_ok {program : Traced Event Reply} (fails : Fails q s cell program) :
    program.value.code ≠ .ok := by
  obtain ⟨code, notOk, -, yields⟩ := fails
  rwa [yields.value]

/-- A rejected argument. -/
theorem fails_invalidArg {program : Traced Event Reply}
    (rejected : program = pure ⟨.invalidArg, s, cell⟩) : Fails q s cell program :=
  rejected ▸ fails_pure nofun nofun

/-- A refused call fails. -/
theorem fails_of_refused {c : Config} {blocks : List Block} {program : Traced Event Reply}
    (yields : Yields (Event.Safe q) program ⟨refusal c blocks, s, cell⟩) : Fails q s cell program :=
  ⟨_, refusal_ne_ok c blocks, refusal_ne_criticalErr c blocks, yields⟩

theorem Fails.of_pos {condition : Prop} [Decidable condition] {program other : Traced Event Reply}
    (holds : condition) (fails : Fails q s cell program) :
    Fails q s cell (if condition then program else other) := by
  rwa [if_pos holds]

theorem Fails.of_neg {condition : Prop} [Decidable condition] {program other : Traced Event Reply}
    (absent : ¬ condition) (fails : Fails q s cell program) :
    Fails q s cell (if condition then other else program) := by
  rwa [if_neg absent]

theorem Fails.bind {α : Type} {program : Traced Event α} {a : α} {rest : α → Traced Event Reply}
    (first : Yields (Event.Safe q) program a) (second : Fails q s cell (rest a)) :
    Fails q s cell (program >>= rest) := by
  obtain ⟨code, notOk, notCritical, yields⟩ := second
  exact ⟨code, notOk, notCritical, first.bind yields⟩

end Fails

/-- The arena after a block is scrubbed, where the build scrubs. -/
def scrub (c : Config) (memory : Nat → UInt8) (low count : Nat) : Nat → UInt8 :=
  if c.zeroOnFree then fill memory low count 0 else memory

theorem scrub_outside {c : Config} {memory : Nat → UInt8} {low count k : Nat}
    (outside : k < low ∨ low + count ≤ k) : scrub c memory low count k = memory k := by
  unfold scrub
  split
  · exact fill_outside outside
  · rfl

/-- The arena after a block's bytes are copied to another place, and its own bytes scrubbed. -/
def relocate (c : Config) (memory : Nat → UInt8) (source target count : Nat) : Nat → UInt8 :=
  scrub c (blit memory target count fun i => memory (source + i)) source count

/-- The target holds the bytes of the source. -/
theorem relocate_target {c : Config} {memory : Nat → UInt8} {source target count i : Nat}
    (apart : target + count ≤ source ∨ source + count ≤ target) (inside : i < count) :
    relocate c memory source target count (target + i) = memory (source + i) := by
  unfold relocate
  rw [scrub_outside (by omega), blit_inside ⟨by omega, by omega⟩, Nat.add_sub_cancel_left]

/-- The rest of the arena is untouched. -/
theorem relocate_outside {c : Config} {memory : Nat → UInt8} {source target count k : Nat}
    (offSource : k < source ∨ source + count ≤ k) (offTarget : k < target ∨ target + count ≤ k) :
    relocate c memory source target count k = memory k := by
  unfold relocate
  rw [scrub_outside offSource, blit_outside offTarget]

section Calls

variable (layout : Layout q.toConfig) (memory : Nat → UInt8)

/-! ### `ds_malloc` -/

/-- The head of `ds_malloc`, for a pointer that names no block: the record assigned is handed out.
-/
theorem yields_dsMalloc_assigned {after : Layout q.toConfig} {p size index capacity : Nat}
    (fresh : blockAt q layout.blocks p = none) (positive : 0 < size)
    (small : size ≤ q.maxAllocationSize) (taken : after.blocks[index]? = some ⟨capacity, true⟩)
    (assigned : ∀ allocIdx, Yields (Event.Safe q)
      (dsGetNewAllocator q.toConfig (layout.encode memory) size allocIdx)
      ⟨.ok, after.encode memory, index⟩) :
    Yields (Event.Safe q) (dsMalloc q (layout.encode memory) .self (some p) size)
      ⟨.ok, after.encode memory, some (q.base + start after.blocks index)⟩ := by
  obtain ⟨found, code, looked⟩ := yields_forMemory_dead layout memory fresh 0
  refine Yields.of_neg (by simp [positive.ne']) ?_
  refine Yields.of_neg (layout.encode_initialized memory) ?_
  refine Yields.of_neg (Nat.not_lt_of_le small) ?_
  refine Yields.bind looked ?_
  refine Yields.of_neg (code ▸ deadCode_ne_ok p) ?_
  refine Yields.bind (assigned found.allocIdx) ?_
  refine Yields.of_neg (not_not.mpr rfl) ?_
  refine Yields.bind (yields_readAllocator _ (after.lt_maxCount taken)) ?_
  rw [after.encode_live memory taken]
  exact yields_pure

/-- Where no parked block fits, a block is added at the end. -/
theorem yields_dsMalloc_pushed {p size : Nat} (fresh : blockAt q layout.blocks p = none)
    (positive : 0 < size) (small : size ≤ q.maxAllocationSize)
    (none : firstFit layout.blocks (roundUp q.alignment size) = none)
    (slot : layout.blocks.length < q.maxAllocationCount)
    (room : extent layout.blocks + roundUp q.alignment size ≤ q.bufferMemorySize) :
    Yields (Event.Safe q) (dsMalloc q (layout.encode memory) .self (some p) size)
      ⟨.ok, (layout.push (isCapacity_roundUp positive small) slot room).encode memory,
        some (q.base + extent layout.blocks)⟩ := by
  have top : start (layout.push (isCapacity_roundUp positive small) slot room).blocks
      layout.blocks.length = extent layout.blocks :=
    (start_append_of_le le_rfl).trans (start_length _)
  rw [← top]
  exact yields_dsMalloc_assigned layout memory fresh positive small List.getElem?_concat_length
    (yields_getNewAllocator_pushed layout memory positive small none slot room)

/-- **A block is taken.** -/
theorem yields_dsMalloc_placed {p size : Nat} (fresh : blockAt q layout.blocks p = none)
    (positive : 0 < size) (small : size ≤ q.maxAllocationSize)
    (room : Room q.toConfig layout.blocks (roundUp q.alignment size)) :
    ∃ (after : Layout q.toConfig) (index : Nat),
      Placed layout.blocks (roundUp q.alignment size) after.blocks index ∧
      Yields (Event.Safe q) (dsMalloc q (layout.encode memory) .self (some p) size)
        ⟨.ok, after.encode memory, some (q.base + start after.blocks index)⟩ := by
  obtain ⟨after, index, placed, assigned⟩ :=
    yields_getNewAllocator_placed layout memory positive small room
  obtain ⟨capacity, -, taken⟩ := placed.getElem?_eq
  exact ⟨after, index, placed,
    yields_dsMalloc_assigned layout memory fresh positive small taken assigned⟩

theorem fails_dsMalloc_live {p index capacity : Nat}
    (found : layout.blocks[index]? = some ⟨capacity, true⟩)
    (same : p = q.base + start layout.blocks index)
    {size : Nat} (positive : 0 < size) (small : size ≤ q.maxAllocationSize) :
    Fails q (layout.encode memory) (some p)
      (dsMalloc q (layout.encode memory) .self (some p) size) := by
  subst same
  refine Fails.of_neg (by simp [positive.ne']) ?_
  refine Fails.of_neg (layout.encode_initialized memory) ?_
  refine Fails.of_neg (Nat.not_lt_of_le small) ?_
  refine Fails.bind (yields_forMemory_live layout memory found 0) ?_
  exact Fails.of_pos rfl (fails_pure nofun nofun)

/-- **Without room the call is refused.** -/
theorem yields_dsMalloc_full {p : Nat} (fresh : blockAt q layout.blocks p = none)
    {size : Nat} (positive : 0 < size) (small : size ≤ q.maxAllocationSize)
    (full : ¬ Room q.toConfig layout.blocks (roundUp q.alignment size)) :
    Yields (Event.Safe q) (dsMalloc q (layout.encode memory) .self (some p) size)
      ⟨refusal q.toConfig layout.blocks, layout.encode memory, some p⟩ := by
  obtain ⟨found, code, looked⟩ := yields_forMemory_dead layout memory fresh 0
  refine Yields.of_neg (by simp [positive.ne']) ?_
  refine Yields.of_neg (layout.encode_initialized memory) ?_
  refine Yields.of_neg (Nat.not_lt_of_le small) ?_
  refine Yields.bind looked ?_
  refine Yields.of_neg (code ▸ deadCode_ne_ok p) ?_
  refine Yields.bind (yields_getNewAllocator_refused layout memory small full found.allocIdx) ?_
  exact Yields.of_pos (refusal_ne_ok _ _) yields_pure

theorem fails_dsMalloc_size {p size : Nat} (bad : ¬ (0 < size ∧ size ≤ q.maxAllocationSize)) :
    Fails q (layout.encode memory) (some p)
      (dsMalloc q (layout.encode memory) .self (some p) size) := by
  rcases Nat.eq_zero_or_pos size with zero | positive
  · exact Fails.of_pos (Or.inr zero) (fails_pure nofun nofun)
  · refine Fails.of_neg (by simp [positive.ne']) ?_
    refine Fails.of_neg (layout.encode_initialized memory) ?_
    exact Fails.of_pos (by omega) (fails_pure nofun nofun)

/-- **`ds_malloc` takes a block or fails.** -/
theorem dsMalloc_cases (p size : Nat) :
    Fails q (layout.encode memory) (some p)
        (dsMalloc q (layout.encode memory) .self (some p) size) ∨
      (0 < size ∧ size ≤ q.maxAllocationSize ∧ blockAt q layout.blocks p = none ∧
        Room q.toConfig layout.blocks (roundUp q.alignment size)) := by
  by_cases good : 0 < size ∧ size ≤ q.maxAllocationSize
  · rcases fresh : blockAt q layout.blocks p with _ | capacity
    · by_cases room : Room q.toConfig layout.blocks (roundUp q.alignment size)
      · exact .inr ⟨good.1, good.2, rfl, room⟩
      · exact .inl (fails_of_refused
        (yields_dsMalloc_full layout memory fresh good.1 good.2 room))
    · obtain ⟨index, found, rfl⟩ := exists_index_of_blockAt fresh
      exact .inl (fails_dsMalloc_live layout memory found rfl good.1 good.2)
  · exact .inl (fails_dsMalloc_size layout memory good)

/-! ### `ds_free` -/

/-- The bytes of a live block are zeroed, where the build scrubs. -/
theorem yields_scrubRecord {index size : Nat}
    (found : layout.blocks[index]? = some ⟨size, true⟩) :
    Yields (Event.Safe q)
      (scrubRecord q (layout.encode memory) ⟨start layout.blocks index, size, .allocated⟩)
      (layout.encode (scrub q.toConfig memory (start layout.blocks index) size)) := by
  have bound : start layout.blocks index + size ≤ q.bufferMemorySize := layout.end_le found
  have small := q.memorySize_lt
  unfold scrubRecord
  rw [scrub]
  cases q.zeroOnFree
  · exact yields_pure
  · refine Yields.bind (yields_sizeSub (by show start layout.blocks index ≤ _; omega) small) ?_
    exact yields_dsZero _ (by show size ≤ _ - start layout.blocks index; omega) bound

/-- The part of `ds_free` after its lookup is a release. -/
theorem yields_freeRecord {index size : Nat} (found : layout.blocks[index]? = some ⟨size, true⟩) :
    Yields (Event.Safe q) (freeRecord q (layout.encode memory) index)
      ((layout.release index).encode
        (scrub q.toConfig memory (start layout.blocks index) size)) := by
  have slot := layout.lt_maxCount found
  have bound : start layout.blocks index + size ≤ q.bufferMemorySize := layout.end_le found
  have small := q.memorySize_lt
  have few := (liveCount_le_length layout.blocks).trans layout.length_le
  have fewer := q.maxCount_lt
  have counted : Yields (Event.Safe q) (sizeSub q.toConfig (liveCount layout.blocks) 1)
      (liveCount layout.blocks - 1) :=
    yields_sizeSub (liveCount_pos found rfl) (by omega)
  refine Yields.bind (yields_readAllocator _ slot) ?_
  rw [layout.encode_live memory found]
  refine Yields.bind (yields_scrubRecord layout memory found) ?_
  refine Yields.bind (yields_sizeAdd (by show start layout.blocks index + size < _; omega)) ?_
  by_cases top : start layout.blocks index + size = extent layout.blocks
  · -- the block ends at `data_head`: it is the last, and is rolled back
    obtain ⟨front, last, rfl⟩ := layout.exists_front found top
    have table : (layout.encode
        (scrub q.toConfig memory (start layout.blocks front.length) size)).allocators =
        records (front ++ [⟨size, true⟩]) := by
      rw [← last]
      rfl
    rw [layout.encode_release_last _ last]
    refine Yields.of_pos top ?_
    refine Yields.bind (yields_reclaimTrailing front table slot) ?_
    exact Yields.bind counted yields_pure
  · -- a block above it: it is parked
    rw [layout.encode_release_below _ found (succ_lt_length_of_end_ne found top)]
    refine Yields.of_neg top ?_
    refine Yields.bind (yields_writeAllocator _ slot _) ?_
    exact Yields.bind counted yields_pure

/-- **A live block is released.** -/
theorem yields_dsFree_live {index size : Nat}
    (found : layout.blocks[index]? = some ⟨size, true⟩) :
    Yields (Event.Safe q)
      (dsFree q (layout.encode memory) .self (some (q.base + start layout.blocks index)))
      ⟨.ok, (layout.release index).encode
        (scrub q.toConfig memory (start layout.blocks index) size), some 0⟩ := by
  have positive := q.base_pos
  refine Yields.of_neg (by simp only [reduceCtorEq, false_or]; omega) ?_
  refine Yields.of_neg (layout.encode_initialized memory) ?_
  refine Yields.bind (yields_forMemory_live layout memory found 0) ?_
  refine Yields.of_neg (not_not.mpr rfl) ?_
  exact Yields.bind (yields_freeRecord layout memory found) yields_pure

/-- **Any other address is rejected.** -/
theorem yields_dsFree_dead {p : Nat} (nonNull : p ≠ 0)
    (dead : blockAt q layout.blocks p = none) :
    Yields (Event.Safe q) (dsFree q (layout.encode memory) .self (some p))
      ⟨deadCode q p, layout.encode memory, some p⟩ := by
  obtain ⟨found, code, looked⟩ := yields_forMemory_dead layout memory dead 0
  refine Yields.of_neg (by simp [nonNull]) ?_
  refine Yields.of_neg (layout.encode_initialized memory) ?_
  refine Yields.bind looked ?_
  rw [code]
  exact Yields.of_pos (deadCode_ne_ok p) yields_pure

/-- **`ds_free` releases a live block or fails.** -/
theorem dsFree_cases (p : Nat) :
    Fails q (layout.encode memory) (some p) (dsFree q (layout.encode memory) .self (some p)) ∨
      ∃ index size, layout.blocks[index]? = some ⟨size, true⟩ ∧
        p = q.base + start layout.blocks index := by
  rcases dead : blockAt q layout.blocks p with _ | size
  · by_cases null : p = 0
    · exact .inl (Fails.of_pos (Or.inr null) (fails_pure nofun nofun))
    · exact .inl ⟨_, deadCode_ne_ok p, deadCode_ne_criticalErr p,
        yields_dsFree_dead layout memory null dead⟩
  · obtain ⟨index, found, rfl⟩ := exists_index_of_blockAt dead
    exact .inr ⟨index, size, found, rfl⟩

/-! ### `ds_calloc` -/

/-- The division after the product detects the overflow exactly. -/
theorem sizeMul_div_iff {c : Config} {len sizeOfElem : Nat} (positive : 0 < len) :
    sizeMul c len sizeOfElem / len = sizeOfElem ↔ len * sizeOfElem < 2 ^ c.sizeBits := by
  constructor
  · intro exact
    have wrapped : sizeMul c len sizeOfElem < 2 ^ c.sizeBits := Nat.mod_lt _ (Nat.two_pow_pos _)
    have product := Nat.div_mul_le_self (sizeMul c len sizeOfElem) len
    rw [exact, Nat.mul_comm] at product
    omega
  · intro small
    unfold sizeMul
    rw [Nat.mod_eq_of_lt small, Nat.mul_div_cancel_left _ positive]

/-- **A block is taken and its first bytes are zeroed.** -/
theorem yields_dsCalloc_placed {p len sizeOfElem : Nat}
    (fresh : blockAt q layout.blocks p = none) (positive : 0 < len * sizeOfElem)
    (small : len * sizeOfElem ≤ q.maxAllocationSize)
    (room : Room q.toConfig layout.blocks (roundUp q.alignment (len * sizeOfElem))) :
    ∃ (after : Layout q.toConfig) (index : Nat),
      Placed layout.blocks (roundUp q.alignment (len * sizeOfElem)) after.blocks index ∧
      Yields (Event.Safe q) (dsCalloc q (layout.encode memory) .self (some p) len sizeOfElem)
        ⟨.ok, after.encode (fill memory (start after.blocks index) (len * sizeOfElem) 0),
          some (q.base + start after.blocks index)⟩ := by
  obtain ⟨after, index, placed, taken⟩ :=
    yields_dsMalloc_placed layout memory fresh positive small room
  obtain ⟨capacity, large, found⟩ := placed.getElem?_eq
  have exact : len * sizeOfElem < 2 ^ q.sizeBits :=
    small.trans_lt (q.maxSize_le.trans_lt q.memorySize_lt)
  have product : sizeMul q.toConfig len sizeOfElem = len * sizeOfElem := Nat.mod_eq_of_lt exact
  have rounded := le_roundUp q.alignment_pos (len * sizeOfElem)
  have bound : start after.blocks index + capacity ≤ q.bufferMemorySize := after.end_le found
  have left := Nat.pos_of_mul_pos_right positive
  have right := Nat.pos_of_mul_pos_left positive
  refine ⟨after, index, placed, ?_⟩
  refine Yields.of_neg (by simp [left.ne', right.ne']) ?_
  refine Yields.of_neg (layout.encode_initialized memory) ?_
  refine Yields.of_neg (not_not.mpr ((sizeMul_div_iff left).mpr exact)) ?_
  rw [product]
  refine Yields.bind taken ?_
  refine Yields.of_neg (not_not.mpr rfl) ?_
  refine Yields.bind (yields_dsAlignUp small) ?_
  refine Yields.bind (yields_dsZero _ rounded (by omega)) ?_
  exact yields_pure

/-- **`ds_calloc` takes a block or fails.** -/
theorem dsCalloc_cases (p len sizeOfElem : Nat) :
    Fails q (layout.encode memory) (some p)
        (dsCalloc q (layout.encode memory) .self (some p) len sizeOfElem) ∨
      (0 < len * sizeOfElem ∧ len * sizeOfElem ≤ q.maxAllocationSize ∧
        blockAt q layout.blocks p = none ∧
        Room q.toConfig layout.blocks (roundUp q.alignment (len * sizeOfElem))) := by
  by_cases zero : len = 0 ∨ sizeOfElem = 0
  · exact .inl (Fails.of_pos (Or.inr zero) (fails_pure nofun nofun))
  · obtain ⟨left, right⟩ := not_or.mp zero
    by_cases exact : len * sizeOfElem < 2 ^ q.sizeBits
    · have product : sizeMul q.toConfig len sizeOfElem = len * sizeOfElem := Nat.mod_eq_of_lt exact
      rcases dsMalloc_cases layout memory p (len * sizeOfElem) with failed | taken
      · obtain ⟨code, notOk, notCritical, yields⟩ := failed
        left
        refine Fails.of_neg (by simp [left, right]) ?_
        refine Fails.of_neg (layout.encode_initialized memory) ?_
        refine Fails.of_neg
          (not_not.mpr ((sizeMul_div_iff (Nat.pos_of_ne_zero left)).mpr exact)) ?_
        rw [product]
        refine Fails.bind yields ?_
        exact Fails.of_pos notOk (fails_pure notOk notCritical)
      · exact .inr taken
    · left
      refine Fails.of_neg (by simp [left, right]) ?_
      refine Fails.of_neg (layout.encode_initialized memory) ?_
      refine Fails.of_pos ?_ (fails_pure nofun nofun)
      exact fun same => exact ((sizeMul_div_iff (Nat.pos_of_ne_zero left)).mp same)

/-! ### `ds_realloc` -/

/-- The head of `ds_realloc`, for the start of a live block. -/
theorem dsRealloc_live {index capacity size : Nat} {result : Reply}
    (found : layout.blocks[index]? = some ⟨capacity, true⟩) (positive : 0 < size)
    (small : size ≤ q.maxAllocationSize)
    (resized : Yields (Event.Safe q)
      (resizeRecord q (layout.encode memory) (q.base + start layout.blocks index) size index)
      result) :
    Yields (Event.Safe q)
      (dsRealloc q (layout.encode memory) .self (some (q.base + start layout.blocks index)) size)
      result := by
  have based := q.base_pos
  unfold dsRealloc
  refine Yields.of_neg nofun ?_
  refine Yields.of_neg (layout.encode_initialized memory) ?_
  refine Yields.of_neg positive.ne' ?_
  refine Yields.of_neg (by omega) ?_
  refine Yields.of_neg (Nat.not_lt_of_le small) ?_
  refine Yields.bind (yields_forMemory_live layout memory found 0) ?_
  exact Yields.of_neg (not_not.mpr rfl) resized

/-- **A size within the capacity keeps the block.** -/
theorem yields_dsRealloc_kept {index capacity size : Nat}
    (found : layout.blocks[index]? = some ⟨capacity, true⟩) (positive : 0 < size)
    (small : size ≤ q.maxAllocationSize) (fit : roundUp q.alignment size ≤ capacity) :
    Yields (Event.Safe q)
      (dsRealloc q (layout.encode memory) .self (some (q.base + start layout.blocks index)) size)
      ⟨.ok, layout.encode memory, some (q.base + start layout.blocks index)⟩ := by
  refine dsRealloc_live layout memory found positive small ?_
  refine Yields.bind (yields_readAllocator _ (layout.lt_maxCount found)) ?_
  rw [layout.encode_live memory found]
  refine Yields.bind (yields_dsAlignUp small) ?_
  exact Yields.of_pos fit yields_pure

/-- **The trailing block grows in place.** -/
theorem yields_dsRealloc_grown {front : List Block} {old size : Nat}
    (last : layout.blocks = front ++ [⟨old, true⟩]) (positive : 0 < size)
    (small : size ≤ q.maxAllocationSize) (more : old < roundUp q.alignment size)
    (room : extent front + roundUp q.alignment size ≤ q.bufferMemorySize) :
    Yields (Event.Safe q)
      (dsRealloc q (layout.encode memory) .self (some (q.base + extent front)) size)
      ⟨.ok, (layout.grow last (isCapacity_roundUp positive small) room).encode memory,
        some (q.base + extent front)⟩ := by
  have found := getElem?_of_last last
  have begins := start_of_last last
  have top : extent layout.blocks = extent front + old := extent_of_last last
  have fits := layout.extent_le
  have wide := q.memorySize_lt
  have slot := layout.lt_maxCount found
  rw [← begins]
  refine dsRealloc_live layout memory found positive small ?_
  rw [begins]
  refine Yields.bind (yields_readAllocator _ slot) ?_
  rw [show (layout.encode memory).allocators front.length = _ from records_live found, begins]
  refine Yields.bind (yields_dsAlignUp small) ?_
  refine Yields.of_neg (Nat.not_le_of_lt more) ?_
  refine Yields.bind (yields_sizeAdd (by show extent front + old < _; omega)) ?_
  refine Yields.of_pos top.symm ?_
  refine Yields.bind (yields_sizeSub (by show extent front ≤ _; omega) wide) ?_
  refine Yields.of_pos (by show _ ≤ q.bufferMemorySize - extent front; omega) ?_
  refine Yields.bind
    (yields_sizeAdd (by show extent front + roundUp q.alignment size < _; omega)) ?_
  refine Yields.bind (yields_writeAllocator _ slot _) ?_
  rw [layout.encode_grow]
  exact yields_pure

/-- Where a block can neither stay nor grow in place, it moves. -/
theorem resizeRecord_moves {index capacity size : Nat} {result : Reply}
    (found : layout.blocks[index]? = some ⟨capacity, true⟩) (small : size ≤ q.maxAllocationSize)
    (more : capacity < roundUp q.alignment size)
    (stuck : start layout.blocks index + capacity = extent layout.blocks →
      q.bufferMemorySize < start layout.blocks index + roundUp q.alignment size)
    (moved : Yields (Event.Safe q)
      (moveBlock q (layout.encode memory) (q.base + start layout.blocks index) size
        (roundUp q.alignment size) capacity) result) :
    Yields (Event.Safe q)
      (resizeRecord q (layout.encode memory) (q.base + start layout.blocks index) size index)
      result := by
  have bound : start layout.blocks index + capacity ≤ q.bufferMemorySize := layout.end_le found
  have wide := q.memorySize_lt
  refine Yields.bind (yields_readAllocator _ (layout.lt_maxCount found)) ?_
  rw [layout.encode_live memory found]
  refine Yields.bind (yields_dsAlignUp small) ?_
  refine Yields.of_neg (Nat.not_le_of_lt more) ?_
  refine Yields.bind (yields_sizeAdd (by show start layout.blocks index + capacity < _; omega)) ?_
  by_cases top : start layout.blocks index + capacity = extent layout.blocks
  · have short := stuck top
    refine Yields.of_pos top ?_
    refine Yields.bind (yields_sizeSub (by show start layout.blocks index ≤ _; omega) wide) ?_
    refine Yields.of_neg ?_ moved
    show ¬ _ ≤ q.bufferMemorySize - start layout.blocks index
    omega
  · exact Yields.of_neg top moved

section Move

variable {layout memory} {after : Layout q.toConfig} {index capacity target size : Nat}

/-- The old block stays where it was when the new one is taken. -/
theorem start_of_placed (found : layout.blocks[index]? = some ⟨capacity, true⟩)
    (placed : Placed layout.blocks (roundUp q.alignment size) after.blocks target) :
    start after.blocks index = start layout.blocks index :=
  placed.start_of_le (lt_length_of_getElem? found).le

/-- **What a move does to the live blocks**: the new one is added, the old one removed. -/
theorem blockAt_moved {capacity' : Nat} (found : layout.blocks[index]? = some ⟨capacity, true⟩)
    (placed : Placed layout.blocks (roundUp q.alignment size) after.blocks target)
    (positive : 0 < size) (taken : after.blocks[target]? = some ⟨capacity', true⟩) :
    blockAt q (after.release index).blocks =
      Function.update (Function.update (blockAt q layout.blocks)
        (q.base + start after.blocks target) (some capacity'))
        (q.base + start layout.blocks index) none := by
  rw [blockAt_release (placed.getElem?_of_live found), start_of_placed found placed,
    blockAt_placed placed (roundUp_pos positive) taken]

/-- The new block starts elsewhere. -/
theorem start_ne_of_placed (found : layout.blocks[index]? = some ⟨capacity, true⟩)
    (placed : Placed layout.blocks (roundUp q.alignment size) after.blocks target)
    (positive : 0 < size) : start after.blocks target ≠ start layout.blocks index := by
  intro same
  have none := blockAt_placed_none (q := q) placed (roundUp_pos positive)
  rw [same, blockAt_start found] at none
  cases none

/-- The new block is live at its address. -/
theorem blockAt_moved_target {capacity' : Nat}
    (found : layout.blocks[index]? = some ⟨capacity, true⟩)
    (placed : Placed layout.blocks (roundUp q.alignment size) after.blocks target)
    (positive : 0 < size) (taken : after.blocks[target]? = some ⟨capacity', true⟩) :
    blockAt q (after.release index).blocks (q.base + start after.blocks target) =
      some capacity' := by
  have different := start_ne_of_placed found placed positive
  rw [blockAt_moved found placed positive taken, Function.update_of_ne (by omega),
    Function.update_self]

/-- The old capacity is copied into the new block. -/
theorem yields_moveCopy (found : layout.blocks[index]? = some ⟨capacity, true⟩)
    (placed : Placed layout.blocks (roundUp q.alignment size) after.blocks target)
    (more : capacity < roundUp q.alignment size) :
    Yields (Event.Safe q)
      (dsMemcpy q (after.encode memory) (fun _ => 0) (q.base + start after.blocks target)
        (roundUp q.alignment size) (q.base + start layout.blocks index) capacity)
      (after.encode (blit memory (start after.blocks target) capacity
        fun i => memory (start layout.blocks index + i))) := by
  obtain ⟨capacity', large, found'⟩ := placed.getElem?_eq
  have bound : start layout.blocks index + capacity ≤ q.bufferMemorySize := layout.end_le found
  have bound' : start after.blocks target + capacity' ≤ q.bufferMemorySize := after.end_le found'
  have based := q.base_pos
  have read : ∀ i < capacity, byteAt q (after.encode memory) (fun _ => 0)
      (q.base + start layout.blocks index + i) = memory (start layout.blocks index + i) := by
    intro i inside
    rw [Nat.add_assoc, byteAt_inside _ _ (by omega)]
    rfl
  rw [← blit_congr read]
  exact yields_dsMemcpy _ _ (by omega) more.le (by omega)

/-- **The old block is still found**, so its release cannot fail. -/
theorem yields_moveFree (found : layout.blocks[index]? = some ⟨capacity, true⟩)
    (placed : Placed layout.blocks (roundUp q.alignment size) after.blocks target)
    (copied : Nat → UInt8) :
    Yields (Event.Safe q)
      (dsFree q (after.encode copied) .self (some (q.base + start layout.blocks index)))
      ⟨.ok, (after.release index).encode
        (scrub q.toConfig copied (start layout.blocks index) capacity), some 0⟩ := by
  rw [← start_of_placed found placed]
  exact yields_dsFree_live after copied (placed.getElem?_of_live found)

end Move

/-- The move to a block that was taken: the old bytes are copied, the old block is released. -/
theorem yields_dsRealloc_taken {after : Layout q.toConfig} {index capacity size target : Nat}
    (found : layout.blocks[index]? = some ⟨capacity, true⟩) (positive : 0 < size)
    (small : size ≤ q.maxAllocationSize) (more : capacity < roundUp q.alignment size)
    (stuck : start layout.blocks index + capacity = extent layout.blocks →
      q.bufferMemorySize < start layout.blocks index + roundUp q.alignment size)
    (placed : Placed layout.blocks (roundUp q.alignment size) after.blocks target)
    (taken : Yields (Event.Safe q) (dsMalloc q (layout.encode memory) .self (some 0) size)
      ⟨.ok, after.encode memory, some (q.base + start after.blocks target)⟩) :
    Yields (Event.Safe q)
      (dsRealloc q (layout.encode memory) .self (some (q.base + start layout.blocks index)) size)
      ⟨.ok, (after.release index).encode
        (relocate q.toConfig memory (start layout.blocks index) (start after.blocks target)
          capacity),
        some (q.base + start after.blocks target)⟩ := by
  refine dsRealloc_live layout memory found positive small ?_
  refine resizeRecord_moves layout memory found small more stuck ?_
  refine Yields.bind taken ?_
  refine Yields.of_neg (not_not.mpr rfl) ?_
  refine Yields.bind (yields_moveCopy found placed more) ?_
  refine Yields.bind (yields_moveFree found placed _) ?_
  refine Yields.bind (yields_emit (decide_eq_true rfl)) ?_
  exact yields_pure

/-- **A block moves**: a new block is taken, the old bytes are copied, the old block is released. -/
theorem yields_dsRealloc_moved {index capacity size : Nat}
    (found : layout.blocks[index]? = some ⟨capacity, true⟩) (positive : 0 < size)
    (small : size ≤ q.maxAllocationSize) (more : capacity < roundUp q.alignment size)
    (stuck : start layout.blocks index + capacity = extent layout.blocks →
      q.bufferMemorySize < start layout.blocks index + roundUp q.alignment size)
    (room : Room q.toConfig layout.blocks (roundUp q.alignment size)) :
    ∃ (after : Layout q.toConfig) (target : Nat),
      Placed layout.blocks (roundUp q.alignment size) after.blocks target ∧
      Yields (Event.Safe q)
        (dsRealloc q (layout.encode memory) .self (some (q.base + start layout.blocks index)) size)
        ⟨.ok, (after.release index).encode
          (relocate q.toConfig memory (start layout.blocks index) (start after.blocks target)
            capacity),
          some (q.base + start after.blocks target)⟩ := by
  obtain ⟨after, target, placed, taken⟩ :=
    yields_dsMalloc_placed layout memory (blockAt_null _) positive small room
  exact ⟨after, target, placed,
    yields_dsRealloc_taken layout memory found positive small more stuck placed taken⟩

/-- **Without room it is refused** as a `ds_malloc` would be. -/
theorem yields_dsRealloc_full {index capacity size : Nat}
    (found : layout.blocks[index]? = some ⟨capacity, true⟩) (positive : 0 < size)
    (small : size ≤ q.maxAllocationSize) (more : capacity < roundUp q.alignment size)
    (stuck : start layout.blocks index + capacity = extent layout.blocks →
      q.bufferMemorySize < start layout.blocks index + roundUp q.alignment size)
    (full : ¬ Room q.toConfig layout.blocks (roundUp q.alignment size)) :
    Yields (Event.Safe q)
      (dsRealloc q (layout.encode memory) .self (some (q.base + start layout.blocks index)) size)
      ⟨refusal q.toConfig layout.blocks, layout.encode memory,
        some (q.base + start layout.blocks index)⟩ := by
  refine dsRealloc_live layout memory found positive small ?_
  refine resizeRecord_moves layout memory found small more stuck ?_
  refine Yields.bind
    (yields_dsMalloc_full layout memory (blockAt_null _) positive small full) ?_
  exact Yields.of_pos (refusal_ne_ok _ _) yields_pure

/-- **Any other address is rejected.** -/
theorem yields_dsRealloc_dead {p size : Nat} (nonNull : p ≠ 0) (positive : 0 < size)
    (small : size ≤ q.maxAllocationSize) (dead : blockAt q layout.blocks p = none) :
    Yields (Event.Safe q) (dsRealloc q (layout.encode memory) .self (some p) size)
      ⟨deadCode q p, layout.encode memory, some p⟩ := by
  obtain ⟨found, code, looked⟩ := yields_forMemory_dead layout memory dead 0
  unfold dsRealloc
  refine Yields.of_neg nofun ?_
  refine Yields.of_neg (layout.encode_initialized memory) ?_
  refine Yields.of_neg positive.ne' ?_
  refine Yields.of_neg nonNull ?_
  refine Yields.of_neg (Nat.not_lt_of_le small) ?_
  refine Yields.bind looked ?_
  rw [code]
  exact Yields.of_pos (deadCode_ne_ok p) yields_pure

/-- A size of zero is a `ds_free`. -/
theorem dsRealloc_zero (p : Nat) :
    dsRealloc q (layout.encode memory) .self (some p) 0 =
      dsFree q (layout.encode memory) .self (some p) := by
  rw [dsRealloc, if_neg nofun, if_neg (layout.encode_initialized memory), if_pos rfl]

/-- A `NULL` pointer is a `ds_malloc`. -/
theorem dsRealloc_null {size : Nat} (positive : 0 < size) :
    dsRealloc q (layout.encode memory) .self (some 0) size =
      dsMalloc q (layout.encode memory) .self (some 0) size := by
  rw [dsRealloc, if_neg nofun, if_neg (layout.encode_initialized memory), if_neg positive.ne',
    if_pos rfl]

/-- **`ds_realloc` of a pointer and a positive size resizes a live block or fails.** -/
theorem dsRealloc_cases {p size : Nat} (nonNull : p ≠ 0) (positive : 0 < size) :
    Fails q (layout.encode memory) (some p)
        (dsRealloc q (layout.encode memory) .self (some p) size) ∨
      (size ≤ q.maxAllocationSize ∧ ∃ index capacity,
        layout.blocks[index]? = some ⟨capacity, true⟩ ∧
          p = q.base + start layout.blocks index) := by
  by_cases small : size ≤ q.maxAllocationSize
  · rcases dead : blockAt q layout.blocks p with _ | capacity
    · exact .inl ⟨_, deadCode_ne_ok p, deadCode_ne_criticalErr p,
        yields_dsRealloc_dead layout memory nonNull positive small dead⟩
    · obtain ⟨index, found, rfl⟩ := exists_index_of_blockAt dead
      exact .inr ⟨small, index, capacity, found, rfl⟩
  · left
    unfold dsRealloc
    refine Fails.of_neg nofun ?_
    refine Fails.of_neg (layout.encode_initialized memory) ?_
    refine Fails.of_neg positive.ne' ?_
    refine Fails.of_neg nonNull ?_
    exact Fails.of_pos (Nat.lt_of_not_le small) (fails_pure nofun nofun)

/-! ### The safe writes -/

/-- The lookup and the bounds check both safe writes begin with, and the `write` they guard. -/
def checkedWrite (q : Placement) (s : DynostaticBuffer) (dst count : Nat)
    (write : Lookup → DsAllocator → Traced Event Reply) : Traced Event Reply := do
  let found ← dsFindAllocatorContaining q s dst 0 0
  if found.code ≠ .ok then
    pure ⟨found.code, s, none⟩
  else
    let record ← readAllocator s found.allocIdx
    if record.size < count then
      pure ⟨.noMemory, s, none⟩
    else
      let last ← sizeSub q.toConfig record.size count
      if last < found.offsetInBlock then
        pure ⟨.noMemory, s, none⟩
      else
        write found record

/-- Inside one block the write is done. -/
theorem yields_checkedWrite {index size inside count : Nat} {result : Reply}
    {write : Lookup → DsAllocator → Traced Event Reply}
    (found : layout.blocks[index]? = some ⟨size, true⟩) (positive : 0 < count)
    (fits : inside + count ≤ size)
    (written : Yields (Event.Safe q)
      (write ⟨.ok, index, inside⟩ ⟨start layout.blocks index, size, .allocated⟩) result) :
    Yields (Event.Safe q)
      (checkedWrite q (layout.encode memory) (q.base + (start layout.blocks index + inside)) count
        write) result := by
  have bound : start layout.blocks index + size ≤ q.bufferMemorySize := layout.end_le found
  have wide := q.memorySize_lt
  refine Yields.bind (yields_containing_live layout memory found (by omega) 0 0) ?_
  refine Yields.of_neg (not_not.mpr rfl) ?_
  refine Yields.bind (yields_readAllocator _ (layout.lt_maxCount found)) ?_
  rw [layout.encode_live memory found]
  refine Yields.of_neg (by show ¬ size < count; omega) ?_
  refine Yields.bind (yields_sizeSub (by show count ≤ size; omega) (by show size < _; omega)) ?_
  refine Yields.of_neg ?_ written
  show ¬ size - count < inside
  omega

/-- **In no live block** nothing is written. -/
theorem yields_checkedWrite_dead {dst : Nat}
    (dead : ∀ index size inside, layout.blocks[index]? = some ⟨size, true⟩ → inside < size →
      dst ≠ q.base + (start layout.blocks index + inside))
    (count : Nat) (write : Lookup → DsAllocator → Traced Event Reply) :
    Yields (Event.Safe q) (checkedWrite q (layout.encode memory) dst count write)
      ⟨deadCode q dst, layout.encode memory, none⟩ := by
  refine Yields.bind (yields_containing_dead layout memory dead 0 0) ?_
  exact Yields.of_pos (deadCode_ne_ok dst) yields_pure

/-- **In a live block that ends too early** nothing is written. -/
theorem yields_checkedWrite_short {index size inside count : Nat}
    (found : layout.blocks[index]? = some ⟨size, true⟩) (small : inside < size)
    (short : size < inside + count) (write : Lookup → DsAllocator → Traced Event Reply) :
    Yields (Event.Safe q)
      (checkedWrite q (layout.encode memory) (q.base + (start layout.blocks index + inside)) count
        write) ⟨.noMemory, layout.encode memory, none⟩ := by
  have bound : start layout.blocks index + size ≤ q.bufferMemorySize := layout.end_le found
  have wide := q.memorySize_lt
  refine Yields.bind (yields_containing_live layout memory found small 0 0) ?_
  refine Yields.of_neg (not_not.mpr rfl) ?_
  refine Yields.bind (yields_readAllocator _ (layout.lt_maxCount found)) ?_
  rw [layout.encode_live memory found]
  by_cases long : size < count
  · exact Yields.of_pos long yields_pure
  · refine Yields.of_neg long ?_
    refine Yields.bind
      (yields_sizeSub (by show count ≤ size; omega) (by show size < _; omega)) ?_
    refine Yields.of_pos ?_ yields_pure
    show size - count < inside
    omega

/-- **A write is done inside one block or fails.** -/
theorem checkedWrite_cases (dst count : Nat)
    (write : Lookup → DsAllocator → Traced Event Reply) :
    Fails q (layout.encode memory) none (checkedWrite q (layout.encode memory) dst count write) ∨
      ∃ index size inside, layout.blocks[index]? = some ⟨size, true⟩ ∧ inside + count ≤ size ∧
        dst = q.base + (start layout.blocks index + inside) := by
  by_cases live : ∃ index size inside, layout.blocks[index]? = some ⟨size, true⟩ ∧
      inside < size ∧ dst = q.base + (start layout.blocks index + inside)
  · obtain ⟨index, size, inside, found, small, rfl⟩ := live
    by_cases fits : inside + count ≤ size
    · exact .inr ⟨index, size, inside, found, fits, rfl⟩
    · exact .inl ⟨.noMemory, nofun, nofun,
        yields_checkedWrite_short layout memory found small (Nat.lt_of_not_le fits) write⟩
  · refine .inl ⟨_, deadCode_ne_ok dst, deadCode_ne_criticalErr dst,
      yields_checkedWrite_dead layout memory ?_ count write⟩
    exact fun index size inside found small same => live ⟨index, size, inside, found, small, same⟩

/-- **A copy inside one block.** -/
theorem yields_dsSafeMemoryCopy_inside {index size inside src count : Nat}
    (found : layout.blocks[index]? = some ⟨size, true⟩) (positive : 0 < count)
    (fits : inside + count ≤ size) (nonNull : src ≠ 0) (outside : Nat → UInt8) :
    Yields (Event.Safe q)
      (dsSafeMemoryCopy q (layout.encode memory) .self outside
        (q.base + (start layout.blocks index + inside)) src count)
      ⟨.ok, layout.encode (blit memory (start layout.blocks index + inside) count
        fun i => byteAt q (layout.encode memory) outside (src + i)), none⟩ := by
  have based := q.base_pos
  have bound : start layout.blocks index + size ≤ q.bufferMemorySize := layout.end_le found
  have wide := q.memorySize_lt
  refine Yields.of_neg (by simp only [reduceCtorEq, false_or]; omega) ?_
  refine Yields.of_neg (layout.encode_initialized memory) ?_
  refine yields_checkedWrite layout memory found positive fits ?_
  refine Yields.bind (yields_sizeSub (by show inside ≤ size; omega) (by show size < _; omega)) ?_
  refine Yields.bind
    (yields_dsMemcpy _ _ nonNull (by show count ≤ size - inside; omega) (by omega)) ?_
  exact yields_pure

/-- **A fill inside one block.** -/
theorem yields_dsSafeMemorySet_inside {index size inside count : Nat}
    (found : layout.blocks[index]? = some ⟨size, true⟩) (positive : 0 < count)
    (fits : inside + count ≤ size) (value : Int) :
    Yields (Event.Safe q)
      (dsSafeMemorySet q (layout.encode memory) .self
        (q.base + (start layout.blocks index + inside)) value count)
      ⟨.ok, layout.encode (fill memory (start layout.blocks index + inside) count
        (UInt8.ofInt value)), none⟩ := by
  have based := q.base_pos
  have bound : start layout.blocks index + size ≤ q.bufferMemorySize := layout.end_le found
  have wide := q.memorySize_lt
  refine Yields.of_neg (by simp only [reduceCtorEq, false_or]; omega) ?_
  refine Yields.of_neg (layout.encode_initialized memory) ?_
  refine yields_checkedWrite layout memory found positive fits ?_
  refine Yields.bind (yields_sizeSub (by show inside ≤ size; omega) (by show size < _; omega)) ?_
  refine Yields.bind (yields_dsMemset _ _ (by show count ≤ size - inside; omega) (by omega)) ?_
  exact yields_pure

/-- **`ds_safe_memory_copy` writes inside one block or fails.** -/
theorem dsSafeMemoryCopy_cases (outside : Nat → UInt8) (dst src count : Nat) :
    Fails q (layout.encode memory) none
        (dsSafeMemoryCopy q (layout.encode memory) .self outside dst src count) ∨
      (0 < count ∧ src ≠ 0 ∧ ∃ index size inside, layout.blocks[index]? = some ⟨size, true⟩ ∧
        inside + count ≤ size ∧ dst = q.base + (start layout.blocks index + inside)) := by
  by_cases bad : dst = 0 ∨ src = 0 ∨ count = 0
  · exact .inl (Fails.of_pos (Or.inr bad) (fails_pure nofun nofun))
  · have positive : 0 < count := by omega
    rcases checkedWrite_cases layout memory dst count _ with failed | live
    · left
      refine Fails.of_neg ?_ (Fails.of_neg (layout.encode_initialized memory) failed)
      simpa only [reduceCtorEq, false_or] using bad
    · exact .inr ⟨positive, by omega, live⟩

/-- **`ds_safe_memory_set` writes inside one block or fails.** -/
theorem dsSafeMemorySet_cases (dst : Nat) (value : Int) (count : Nat) :
    Fails q (layout.encode memory) none
        (dsSafeMemorySet q (layout.encode memory) .self dst value count) ∨
      (0 < count ∧ ∃ index size inside, layout.blocks[index]? = some ⟨size, true⟩ ∧
        inside + count ≤ size ∧ dst = q.base + (start layout.blocks index + inside)) := by
  by_cases bad : dst = 0 ∨ count = 0
  · exact .inl (Fails.of_pos (Or.inr bad) (fails_pure nofun nofun))
  · have positive : 0 < count := by omega
    rcases checkedWrite_cases layout memory dst count _ with failed | live
    · left
      refine Fails.of_neg ?_ (Fails.of_neg (layout.encode_initialized memory) failed)
      simpa only [reduceCtorEq, false_or] using bad
    · exact .inr ⟨positive, live⟩

end Calls

end Dynostatic
