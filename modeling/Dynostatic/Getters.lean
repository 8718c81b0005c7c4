/-
**What the getters report.**

The value each getter reports on the instance of a layout, in the terms of the tiling:

* `yields_dsGetMemoryUsage` — the percentage of the arena in live blocks;
* `yields_dsGetMaxNewAllocationSize` — `largest`, the size of the largest block that can be taken;
  `room_iff_le_largest` says that it is, for every size;
* `yields_dsGetFreeAllocatorCnt` — the number of records that hold no live block.
-/

import Dynostatic.Api
import Dynostatic.Statics

namespace Dynostatic

open Tracing Tracing.Traced Tiling Rounding

variable {q : Placement}

section Loops

variable (layout : Layout q.toConfig) (memory : Nat → UInt8)

/-! ### Memory usage -/

/-- The loop adds up the live blocks from its index on. -/
theorem yields_usageLoop (rest iter usage : Nat) (all : iter + rest = q.maxAllocationCount)
    (bounded : usage + liveExtent (layout.blocks.drop iter) ≤ q.bufferMemorySize) :
    Yields (Event.Safe q) (usageLoop q (layout.encode memory) rest iter usage)
      (usage + liveExtent (layout.blocks.drop iter)) := by
  induction rest generalizing iter usage with
  | zero =>
    rw [List.drop_of_length_le (by have := layout.length_le; omega)]
    exact yields_pure
  | succ rest ih =>
    have wide := q.memorySize_lt
    unfold usageLoop
    refine Yields.bind (yields_readAllocator _ (by omega)) ?_
    rcases found : layout.blocks[iter]? with _ | ⟨size, _ | _⟩
    · have past := List.getElem?_eq_none_iff.mp found
      rw [layout.encode_unused memory past]
      refine Yields.of_neg nofun ?_
      rw [List.drop_of_length_le past] at bounded ⊢
      have tail := ih (iter + 1) usage (by omega)
      rw [List.drop_of_length_le (by omega)] at tail
      exact tail bounded
    · rw [drop_of_getElem? found, liveExtent_cons, if_neg Bool.false_ne_true,
        Nat.zero_add] at bounded ⊢
      rw [layout.encode_parked memory found]
      exact Yields.of_neg nofun (ih (iter + 1) usage (by omega) bounded)
    · rw [drop_of_getElem? found, liveExtent_cons, if_pos rfl, ← Nat.add_assoc] at bounded ⊢
      rw [layout.encode_live memory found]
      refine Yields.of_pos rfl ?_
      refine Yields.bind (yields_sizeAdd (by show usage + size < _; simp only at bounded; omega)) ?_
      exact ih (iter + 1) (usage + size) (by omega) bounded

/-- **The usage is the share of the live blocks**, as the source computes it. -/
theorem yields_dsGetMemoryUsage (out : Nat) :
    Yields (Event.Safe q) (dsGetMemoryUsage q (layout.encode memory) .self (some out))
      ⟨.ok, layout.encode memory,
        some (sizeMul q.toConfig 100 (liveExtent layout.blocks) / q.bufferMemorySize % 2 ^ 8)⟩ := by
  have bounded := (liveExtent_le layout.blocks).trans layout.extent_le
  have looped := yields_usageLoop layout memory q.maxAllocationCount 0 0 (Nat.zero_add _)
    (by rwa [List.drop_zero, Nat.zero_add])
  simp only [List.drop_zero, Nat.zero_add] at looped
  unfold dsGetMemoryUsage
  refine Yields.of_neg (by simp only [reduceCtorEq, or_self, not_false_eq_true]) ?_
  refine Yields.of_neg (layout.encode_initialized memory) ?_
  refine Yields.bind looped ?_
  exact Yields.of_neg (Nat.not_lt_of_le bounded) yields_pure

/-! ### The largest allocation -/

/-- The loop takes the maximum of the parked blocks from its index on. -/
theorem yields_maxSizeLoop (rest iter maxSize : Nat) (all : iter + rest = q.maxAllocationCount)
    (reached : iter ≤ layout.blocks.length) :
    Yields (Event.Safe q) (maxSizeLoop (layout.encode memory) rest iter maxSize)
      (max maxSize (parkedMax (layout.blocks.drop iter)),
        decide (layout.blocks.length < q.maxAllocationCount)) := by
  have slots := layout.length_le
  induction rest generalizing iter maxSize with
  | zero =>
    rw [List.drop_of_length_le (by omega), parkedMax, Nat.max_zero, decide_eq_false (by omega)]
    exact yields_pure
  | succ rest ih =>
    unfold maxSizeLoop
    refine Yields.bind (yields_readAllocator _ (by omega)) ?_
    rcases found : layout.blocks[iter]? with _ | ⟨size, _ | _⟩
    · have past := List.getElem?_eq_none_iff.mp found
      rw [layout.encode_unused memory past,
        List.drop_of_length_le past, parkedMax, Nat.max_zero, decide_eq_true (by omega)]
      exact Yields.of_pos rfl yields_pure
    · have inside := lt_length_of_getElem? found
      rw [layout.encode_parked memory found,
        drop_of_getElem? found, parkedMax, if_neg Bool.false_ne_true, ← max_assoc]
      refine Yields.of_neg (by simp) ?_
      by_cases larger : maxSize < size
      · rw [max_eq_right larger.le]
        exact Yields.of_pos ⟨rfl, larger⟩ (ih (iter + 1) size (by omega) inside)
      · rw [max_eq_left (Nat.le_of_not_lt larger)]
        exact Yields.of_neg (fun both => larger both.2) (ih (iter + 1) maxSize (by omega) inside)
    · have inside := lt_length_of_getElem? found
      rw [layout.encode_live memory found,
        drop_of_getElem? found, parkedMax, if_pos rfl]
      refine Yields.of_neg (by simp) (Yields.of_neg (by simp) ?_)
      exact ih (iter + 1) maxSize (by omega) inside

/-- The largest block that can be added at the end. -/
def bumpRoom (c : Config) (blocks : List Block) : Nat :=
  min c.maxAllocationSize
    (c.bufferMemorySize - extent blocks - (c.bufferMemorySize - extent blocks) % c.alignment)

/-- **The largest block that can be taken.** -/
def largest (c : Config) (blocks : List Block) : Nat :=
  if blocks.length < c.maxAllocationCount then max (parkedMax blocks) (bumpRoom c blocks)
  else parkedMax blocks

theorem yields_bumpMax :
    Yields (Event.Safe q) (bumpMax q (layout.encode memory))
      (bumpRoom q.toConfig layout.blocks) := by
  have wide := q.memorySize_lt
  have fits := layout.extent_le
  refine Yields.bind (yields_sizeSub fits wide) ?_
  refine Yields.bind (yields_sizeSub (Nat.mod_le _ _)
    (by show q.bufferMemorySize - extent layout.blocks < _; omega)) ?_
  unfold bumpRoom
  by_cases above : q.maxAllocationSize < q.bufferMemorySize - extent layout.blocks -
      (q.bufferMemorySize - extent layout.blocks) % q.alignment
  · rw [min_eq_left above.le]
    exact Yields.of_pos above yields_pure
  · rw [min_eq_right (Nat.le_of_not_lt above)]
    exact Yields.of_neg above yields_pure

/-- With every record live, nothing can be taken. -/
theorem largest_of_full (full : q.maxAllocationCount ≤ liveCount layout.blocks) :
    largest q.toConfig layout.blocks = 0 := by
  have counted := liveCount_le_length layout.blocks
  have slots := layout.length_le
  have all := liveCount_eq_length_iff.mp (show liveCount layout.blocks = _ by omega)
  unfold largest
  rw [if_neg (by omega), parkedMax_of_all_live all]

/-- **The getter reports the largest block that can be taken.** -/
theorem yields_dsGetMaxNewAllocationSize (out : Nat) :
    Yields (Event.Safe q) (dsGetMaxNewAllocationSize q (layout.encode memory) .self (some out))
      ⟨.ok, layout.encode memory, some (largest q.toConfig layout.blocks)⟩ := by
  have looped := yields_maxSizeLoop layout memory q.maxAllocationCount 0 0 (Nat.zero_add _)
    (Nat.zero_le _)
  simp only [List.drop_zero, Nat.zero_max] at looped
  unfold dsGetMaxNewAllocationSize
  refine Yields.of_neg (by simp only [reduceCtorEq, or_self, not_false_eq_true]) ?_
  refine Yields.of_neg (layout.encode_initialized memory) ?_
  by_cases slot : liveCount layout.blocks < q.maxAllocationCount
  · refine Yields.of_pos slot (Yields.bind looped ?_)
    unfold largest
    by_cases last : layout.blocks.length < q.maxAllocationCount
    · rw [if_pos last]
      refine Yields.of_pos (decide_eq_true last) ?_
      refine Yields.bind (yields_bumpMax layout memory) ?_
      rw [max_def_lt]
      exact yields_pure
    · rw [if_neg last]
      exact Yields.of_neg (by simpa using last) yields_pure
  · rw [largest_of_full layout (Nat.le_of_not_lt slot)]
    exact Yields.of_neg slot yields_pure

/-- **The report is exact**: a size can be taken when it is at most `largest`. -/
theorem room_iff_le_largest {size : Nat} (positive : 0 < size) :
    size ≤ q.maxAllocationSize ∧ Room q.toConfig layout.blocks (roundUp q.alignment size) ↔
      size ≤ largest q.toConfig layout.blocks := by
  have unit := q.alignment_pos
  have fits := layout.extent_le
  -- a parked block fits the rounded size when it fits the size, and is never above the maximum
  have reuse : (∃ block ∈ layout.blocks, Tiling.fits (roundUp q.alignment size) block = true) ↔
      size ≤ parkedMax layout.blocks := by
    rw [le_parkedMax_iff positive]
    refine exists_congr fun block => and_congr_right fun member => ?_
    rw [fits_iff, roundUp_le_iff unit (layout.capacity block member).multiple]
  have small : size ≤ parkedMax layout.blocks → size ≤ q.maxAllocationSize := by
    intro parked
    obtain ⟨block, member, -, large⟩ := (le_parkedMax_iff positive).mp parked
    exact large.trans (layout.capacity block member).bounded
  -- the space at the end, cut down to a multiple of the alignment
  have bump : extent layout.blocks + roundUp q.alignment size ≤ q.bufferMemorySize ↔
      size ≤ q.bufferMemorySize - extent layout.blocks -
        (q.bufferMemorySize - extent layout.blocks) % q.alignment := by
    rw [← roundUp_le_iff unit (Nat.dvd_sub_mod _), le_sub_mod_iff unit (dvd_roundUp _ _)]
    omega
  unfold Room
  rw [reuse, bump, largest]
  split
  · rename_i slot
    rw [le_max_iff, bumpRoom, le_min_iff]
    constructor
    · rintro ⟨bounded, parked | ⟨-, room⟩⟩
      · exact .inl parked
      · exact .inr ⟨bounded, room⟩
    · rintro (parked | ⟨bounded, room⟩)
      · exact ⟨small parked, .inl parked⟩
      · exact ⟨bounded, .inr ⟨slot, room⟩⟩
  · rename_i full
    constructor
    · rintro ⟨-, parked | ⟨slot, -⟩⟩
      · exact parked
      · exact absurd slot full
    · exact fun parked => ⟨small parked, .inl parked⟩

/-! ### Free records -/

/-- **The count of the records without a live block.** -/
theorem yields_dsGetFreeAllocatorCnt (out : Nat) :
    Yields (Event.Safe q) (dsGetFreeAllocatorCnt q (layout.encode memory) .self (some out))
      ⟨.ok, layout.encode memory, some (q.maxAllocationCount - liveCount layout.blocks)⟩ := by
  have counted := (liveCount_le_length layout.blocks).trans layout.length_le
  unfold dsGetFreeAllocatorCnt
  refine Yields.of_neg (by simp only [reduceCtorEq, or_self, not_false_eq_true]) ?_
  refine Yields.of_neg (layout.encode_initialized memory) ?_
  exact Yields.bind (yields_sizeSub counted q.maxCount_lt) yields_pure

end Loops

end Dynostatic
