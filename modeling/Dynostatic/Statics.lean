/-
**What the static functions do to a layout.**

One theorem for each static function, on the instance of a layout: the value it returns, and that no
event on the way is an error. The functions above them are verified from these theorems alone.

* `yields_containing_live`, `yields_containing_dead` — the lookup finds the live block an address
  lies in, and otherwise fails with `deadCode` and leaves the out-parameters;
* `yields_forMemory_live`, `yields_forMemory_dead` — the same for addresses where a block starts;
* `yields_getNewAllocator_reused`, `yields_getNewAllocator_pushed` — the first parked block that
  fits is taken, and otherwise one is added at the end; either way a block is `Placed`
  (`yields_getNewAllocator_placed`);
* `yields_getNewAllocator_refused` — without `Room` the assignment fails with `refusal`;
* `yields_reclaimTrailing` — the cascade is `Tiling.strip`.
-/

import Dynostatic.Internal
import Dynostatic.Layout

namespace Dynostatic

open Tracing Tracing.Traced Tiling Rounding

variable {q : Placement}

/-! ### Addresses and live blocks -/

/-- The size of the live block that starts at an address. -/
def blockAt (q : Placement) (blocks : List Block) (address : Nat) : Option Nat :=
  if q.base ≤ address then liveAt blocks (address - q.base) else none

theorem blockAt_base (blocks : List Block) (offset : Nat) :
    blockAt q blocks (q.base + offset) = liveAt blocks offset := by
  unfold blockAt
  rw [if_pos (Nat.le_add_right _ _), Nat.add_sub_cancel_left]

theorem blockAt_eq_some_iff {blocks : List Block} {address size : Nat} :
    blockAt q blocks address = some size ↔
      ∃ offset, liveAt blocks offset = some size ∧ address = q.base + offset := by
  constructor
  · intro live
    unfold blockAt at live
    split at live
    · exact ⟨_, live, by omega⟩
    · cases live
  · rintro ⟨offset, live, rfl⟩
    rwa [blockAt_base]

theorem exists_index_of_blockAt {blocks : List Block} {address size : Nat}
    (starts : blockAt q blocks address = some size) :
    ∃ index, blocks[index]? = some ⟨size, true⟩ ∧ address = q.base + start blocks index := by
  obtain ⟨offset, live, rfl⟩ := blockAt_eq_some_iff.mp starts
  obtain ⟨index, found, -, rfl⟩ := liveAt_eq_some_iff.mp live
  exact ⟨index, found, rfl⟩

theorem blockAt_start {layout : Layout q.toConfig} {index size : Nat}
    (found : layout.blocks[index]? = some ⟨size, true⟩) :
    blockAt q layout.blocks (q.base + start layout.blocks index) = some size := by
  rw [blockAt_base]
  exact liveAt_of_getElem? found (layout.capacity_of_getElem? found).positive

theorem blockAt_null (blocks : List Block) : blockAt q blocks 0 = none :=
  if_neg (Nat.not_le_of_lt q.base_pos)

theorem blockAt_pos {blocks : List Block} {address size : Nat}
    (live : blockAt q blocks address = some size) : 0 < size := by
  obtain ⟨offset, live, -⟩ := blockAt_eq_some_iff.mp live
  exact liveAt_pos live

/-- A change at one offset is a change at one address. -/
theorem blockAt_update {before after : List Block} {offset : Nat} {value : Option Nat}
    (same : liveAt after = Function.update (liveAt before) offset value) :
    blockAt q after = Function.update (blockAt q before) (q.base + offset) value := by
  funext address
  rcases Nat.lt_or_ge address q.base with below | above
  · rw [Function.update_of_ne (by omega), blockAt, blockAt, if_neg (by omega), if_neg (by omega)]
  · obtain ⟨other, rfl⟩ := Nat.exists_eq_add_of_le above
    rw [blockAt_base, same]
    by_cases here : other = offset
    · rw [here, Function.update_self, Function.update_self]
    · rw [Function.update_of_ne here, Function.update_of_ne (by omega), blockAt_base]

/-- A taken block starts where none did. -/
theorem blockAt_placed_none {blocks after : List Block} {size index : Nat}
    (placed : Placed blocks size after index) (positive : 0 < size) :
    blockAt q blocks (q.base + start after index) = none := by
  rw [blockAt_base]
  exact placed.liveAt_none positive

theorem blockAt_placed {blocks after : List Block} {size index capacity : Nat}
    (placed : Placed blocks size after index) (positive : 0 < size)
    (found : after[index]? = some ⟨capacity, true⟩) :
    blockAt q after =
      Function.update (blockAt q blocks) (q.base + start after index) (some capacity) :=
  blockAt_update (placed.liveAt_eq positive found)

theorem blockAt_release {layout : Layout q.toConfig} {index size : Nat}
    (found : layout.blocks[index]? = some ⟨size, true⟩) :
    blockAt q (layout.release index).blocks =
      Function.update (blockAt q layout.blocks) (q.base + start layout.blocks index) none :=
  blockAt_update (liveAt_release found (layout.capacity_of_getElem? found).positive)

/-- Resizing the last block. -/
theorem blockAt_grow (front : List Block) {old size : Nat} (positive : 0 < old)
    (more : old < size) :
    blockAt q (front ++ [⟨size, true⟩]) =
      Function.update (blockAt q (front ++ [⟨old, true⟩])) (q.base + extent front)
        (some size) := by
  rw [blockAt_update (liveAt_push front positive),
    blockAt_update (liveAt_push front (positive.trans more)), Function.update_idem]

/-- A live block of an initialized instance: the address it starts at, and its capacity. -/
def LiveBlock (q : Placement) (s : DynostaticBuffer) (p capacity : Nat) : Prop :=
  s.initMagic = dsMagicNumber ∧ ∃ index < q.maxAllocationCount,
    (s.allocators index).allocationStatus = .allocated ∧
      (s.allocators index).size = capacity ∧ p = q.base + (s.allocators index).head

theorem liveBlock_encode_iff {layout : Layout q.toConfig} {memory : Nat → UInt8}
    {p capacity : Nat} :
    LiveBlock q (layout.encode memory) p capacity ↔ blockAt q layout.blocks p = some capacity := by
  constructor
  · rintro ⟨-, index, -, status, rfl, rfl⟩
    obtain ⟨size, found⟩ := records_allocated_iff.mp status
    rw [layout.encode_live memory found]
    exact blockAt_start found
  · intro live
    obtain ⟨index, found, rfl⟩ := exists_index_of_blockAt live
    refine ⟨rfl, index, layout.lt_maxCount found, ?_⟩
    rw [layout.encode_live memory found]
    exact ⟨rfl, rfl, rfl⟩

theorem LiveBlock.index {layout : Layout q.toConfig} {memory : Nat → UInt8} {p capacity : Nat}
    (live : LiveBlock q (layout.encode memory) p capacity) :
    ∃ index, layout.blocks[index]? = some ⟨capacity, true⟩ ∧
      p = q.base + start layout.blocks index :=
  exists_index_of_blockAt (liveBlock_encode_iff.mp live)

/-- The block at an index is live at its address. -/
theorem liveBlock_start {layout : Layout q.toConfig} {memory : Nat → UInt8} {index size : Nat}
    (found : layout.blocks[index]? = some ⟨size, true⟩) :
    LiveBlock q (layout.encode memory) (q.base + start layout.blocks index) size :=
  liveBlock_encode_iff.mpr (blockAt_start found)

/-- A live block of a layout has one capacity. -/
theorem LiveBlock.unique {layout : Layout q.toConfig} {memory : Nat → UInt8}
    {p capacity capacity' : Nat} (live : LiveBlock q (layout.encode memory) p capacity)
    (live' : LiveBlock q (layout.encode memory) p capacity') : capacity = capacity' := by
  rw [liveBlock_encode_iff] at live live'
  exact Option.some.inj (live.symm.trans live')

theorem not_liveBlock_encode_iff {layout : Layout q.toConfig} {memory : Nat → UInt8} {p : Nat} :
    (∀ capacity, ¬ LiveBlock q (layout.encode memory) p capacity) ↔
      blockAt q layout.blocks p = none := by
  rw [Option.eq_none_iff_forall_ne_some]
  exact forall_congr' fun capacity => not_congr liveBlock_encode_iff

/-- No live block starts at `NULL`. -/
theorem LiveBlock.pos {s : DynostaticBuffer} {p capacity : Nat} (live : LiveBlock q s p capacity) :
    0 < p := by
  obtain ⟨-, index, -, -, -, rfl⟩ := live
  exact q.base_pos.trans_le (Nat.le_add_right _ _)

/-- The byte of the arena at an offset belongs to a live block. -/
def Owned (q : Placement) (s : DynostaticBuffer) (offset : Nat) : Prop :=
  ∃ p capacity, LiveBlock q s p capacity ∧ p ≤ q.base + offset ∧ q.base + offset < p + capacity

theorem owned_encode_iff {layout : Layout q.toConfig} {memory : Nat → UInt8} {offset : Nat} :
    Owned q (layout.encode memory) offset ↔ Covered layout.blocks offset := by
  constructor
  · rintro ⟨p, capacity, live, above, below⟩
    obtain ⟨index, found, rfl⟩ := live.index
    exact covered_of_getElem? found ⟨by omega, by omega⟩
  · rintro ⟨first, size, live, above, below⟩
    rw [← blockAt_base (q := q)] at live
    exact ⟨q.base + first, size, liveBlock_encode_iff.mpr live, by omega, by omega⟩

/-- A block starts in the arena. -/
theorem blockAt_inside {layout : Layout q.toConfig} {address size : Nat}
    (found : blockAt q layout.blocks address = some size) :
    q.base ≤ address ∧ address + size ≤ q.base + q.bufferMemorySize := by
  obtain ⟨offset, live, rfl⟩ := blockAt_eq_some_iff.mp found
  have := (liveAt_end_le live).trans layout.extent_le
  omega

/-- The code of a lookup that fails. -/
def deadCode (q : Placement) (address : Nat) : DsErrCode :=
  if address < q.base ∨ q.base + q.bufferMemorySize ≤ address then .memoryOutOfDs
  else .allocatorNotFound

theorem deadCode_ne_ok (address : Nat) : deadCode q address ≠ .ok := by
  unfold deadCode
  split <;> nofun

theorem deadCode_ne_criticalErr (address : Nat) : deadCode q address ≠ .criticalErr := by
  unfold deadCode
  split <;> nofun

/-! ### The lookups -/

section Lookups

variable (layout : Layout q.toConfig) (memory : Nat → UInt8)

/-- The loop passes a block that ends at or below the offset. -/
theorem findLoop_passes {blocks : List Block} {memory : Nat → UInt8} {iter rest : Nat}
    {block : Block} {offset allocIdx offsetInBlock : Nat} {result : Lookup}
    (found : blocks[iter]? = some block) (slot : iter < q.maxAllocationCount)
    (passed : start blocks iter + block.size ≤ offset) (small : offset < 2 ^ q.sizeBits)
    (tail : Yields (Event.Safe q)
      (findLoop q (encode blocks memory) offset allocIdx offsetInBlock rest (iter + 1)) result) :
    Yields (Event.Safe q)
      (findLoop q (encode blocks memory) offset allocIdx offsetInBlock (rest + 1) iter) result := by
  have record : (encode blocks memory).allocators iter = recordOf (start blocks iter) block :=
    records_of_getElem? found
  unfold findLoop
  refine Yields.bind (yields_readAllocator _ slot) ?_
  rw [record]
  refine Yields.of_neg (recordOf_used _ _) ?_
  refine Yields.bind (yields_sizeSub (Nat.le_of_add_right_le passed) small) ?_
  exact Yields.of_neg (by show ¬ offset - start blocks iter < block.size; omega) tail

/-- The loop stops at the block the offset lies in. -/
theorem yields_findLoop_hit {index inside : Nat} {block : Block}
    (found : layout.blocks[index]? = some block) (small : inside < block.size)
    (allocIdx offsetInBlock : Nat) (rest iter : Nat) (reached : iter ≤ index)
    (all : iter + rest = q.maxAllocationCount) :
    Yields (Event.Safe q)
      (findLoop q (layout.encode memory) (start layout.blocks index + inside) allocIdx
        offsetInBlock rest iter)
      (if block.live then ⟨.ok, index, inside⟩
       else ⟨.allocatorNotFound, allocIdx, offsetInBlock⟩) := by
  have slot := layout.lt_maxCount found
  have bounded : start layout.blocks index + inside < 2 ^ q.sizeBits := by
    have := layout.end_le found
    have := q.memorySize_lt
    omega
  induction rest generalizing iter with
  | zero => omega
  | succ rest ih =>
    rcases Nat.lt_or_eq_of_le reached with below | rfl
    · -- an earlier block: it ends at or below this one
      obtain ⟨earlier, found'⟩ := exists_getElem? (below.trans (lt_length_of_getElem? found))
      have passed := end_le_start found' below
      exact findLoop_passes found' (by omega) (by omega) bounded (ih (iter + 1) below (by omega))
    · have record : (layout.encode memory).allocators iter =
          recordOf (start layout.blocks iter) block := records_of_getElem? found
      unfold findLoop
      refine Yields.bind (yields_readAllocator _ slot) ?_
      rw [record]
      refine Yields.of_neg (recordOf_used _ _) ?_
      refine Yields.bind (yields_sizeSub (Nat.le_add_right _ _) bounded) ?_
      rw [show start layout.blocks iter + inside -
        (recordOf (start layout.blocks iter) block).head = inside from
          Nat.add_sub_cancel_left _ _]
      refine Yields.of_pos small ?_
      cases live : block.live
      · refine Yields.of_pos ?_ yields_pure
        simp [recordOf, live]
      · refine Yields.of_neg (not_not.mpr ?_) yields_pure
        unfold recordOf
        rw [live]
        rfl

/-- Past the extent the loop finds nothing. -/
theorem yields_findLoop_miss {offset : Nat} (past : extent layout.blocks ≤ offset)
    (small : offset < 2 ^ q.sizeBits) (allocIdx offsetInBlock : Nat) (rest iter : Nat)
    (all : iter + rest = q.maxAllocationCount) :
    Yields (Event.Safe q)
      (findLoop q (layout.encode memory) offset allocIdx offsetInBlock rest iter)
      ⟨.allocatorNotFound, allocIdx, offsetInBlock⟩ := by
  induction rest generalizing iter with
  | zero => exact yields_pure
  | succ rest ih =>
    rcases found : layout.blocks[iter]? with _ | block
    · -- the first unused record
      unfold findLoop
      refine Yields.bind (yields_readAllocator _ (by omega)) ?_
      exact Yields.of_pos (records_notUsed_iff.mpr (List.getElem?_eq_none_iff.mp found)) yields_pure
    · exact findLoop_passes found (by omega) ((end_le_extent found).trans past) small
        (ih (iter + 1) (by omega))

/-- The head of `ds_find_allocator_containing`, for an address in the arena. -/
theorem containing_inside {offset allocIdx offsetInBlock : Nat} {result : Lookup}
    (inside : offset < q.bufferMemorySize)
    (loop : Yields (Event.Safe q)
      (findLoop q (layout.encode memory) offset allocIdx offsetInBlock q.maxAllocationCount 0)
      result) :
    Yields (Event.Safe q)
      (dsFindAllocatorContaining q (layout.encode memory) (q.base + offset) allocIdx offsetInBlock)
      result := by
  have positive := q.base_pos
  have fits := q.base_fits
  have small := q.memorySize_lt
  have address : q.bufferMemorySize % 2 ^ q.ptrBits = q.bufferMemorySize :=
    Nat.mod_eq_of_lt (by omega)
  refine Yields.of_neg (by omega) ?_
  refine Yields.bind (yields_emit (Nat.le_add_right _ _)) ?_
  refine Yields.of_neg (by omega) ?_
  rw [Nat.add_sub_cancel_left, Nat.mod_eq_of_lt (by omega)]
  exact loop

/-- **An address in a live block is found**, with its distance from the block's start. -/
theorem yields_containing_live {index size inside : Nat}
    (found : layout.blocks[index]? = some ⟨size, true⟩) (small : inside < size)
    (allocIdx offsetInBlock : Nat) :
    Yields (Event.Safe q)
      (dsFindAllocatorContaining q (layout.encode memory)
        (q.base + (start layout.blocks index + inside)) allocIdx offsetInBlock)
      ⟨.ok, index, inside⟩ := by
  have bound : start layout.blocks index + size ≤ q.bufferMemorySize := layout.end_le found
  refine containing_inside layout memory (by omega) ?_
  exact yields_findLoop_hit layout memory found small _ _ _ _ (Nat.zero_le _) (Nat.zero_add _)

/-- **An address in no live block is not found**, and the out-parameters keep their content. -/
theorem yields_containing_dead {address : Nat}
    (dead : ∀ index size inside, layout.blocks[index]? = some ⟨size, true⟩ → inside < size →
      address ≠ q.base + (start layout.blocks index + inside))
    (allocIdx offsetInBlock : Nat) :
    Yields (Event.Safe q)
      (dsFindAllocatorContaining q (layout.encode memory) address allocIdx offsetInBlock)
      ⟨deadCode q address, allocIdx, offsetInBlock⟩ := by
  have positive := q.base_pos
  have fits := q.base_fits
  rcases Nat.lt_or_ge address q.base with below | above
  · unfold deadCode
    rw [if_pos (.inl below)]
    exact Yields.of_pos below yields_pure
  · obtain ⟨offset, rfl⟩ := Nat.exists_eq_add_of_le above
    rcases Nat.lt_or_ge offset q.bufferMemorySize with inside | past
    · unfold deadCode
      rw [if_neg (by omega)]
      refine containing_inside layout memory inside ?_
      rcases Nat.lt_or_ge offset (extent layout.blocks) with covered | uncovered
      · obtain ⟨⟨index, distance⟩, located⟩ := locate_of_lt_extent covered
        obtain ⟨⟨size, live⟩, found, small, rfl⟩ := locate_eq_some_iff.mp located
        cases live
        · exact yields_findLoop_hit layout memory found small _ _ _ _ (Nat.zero_le _)
            (Nat.zero_add _)
        · exact absurd rfl (dead index size distance found small)
      · have small := q.memorySize_lt
        exact yields_findLoop_miss layout memory uncovered (by omega) _ _ _ _ (Nat.zero_add _)
    · have address : q.bufferMemorySize % 2 ^ q.ptrBits = q.bufferMemorySize :=
        Nat.mod_eq_of_lt (by omega)
      unfold deadCode
      rw [if_pos (.inr (by omega))]
      refine Yields.of_neg (by omega) ?_
      refine Yields.bind (yields_emit (Nat.le_add_right _ _)) ?_
      exact Yields.of_pos (by omega) yields_pure

/-- **The start of a live block is found.** -/
theorem yields_forMemory_live {index size : Nat}
    (found : layout.blocks[index]? = some ⟨size, true⟩) (allocIdx : Nat) :
    Yields (Event.Safe q)
      (dsFindAllocatorForMemory q (layout.encode memory) (q.base + start layout.blocks index)
        allocIdx)
      ⟨.ok, index, 0⟩ := by
  have positive := (layout.capacity_of_getElem? found).positive
  refine Yields.bind (yields_containing_live layout memory found positive allocIdx 0) ?_
  exact Yields.of_neg (fun interior => interior.2 rfl) yields_pure

/-- **Any other address is not found.** -/
theorem yields_forMemory_dead {address : Nat} (dead : blockAt q layout.blocks address = none)
    (allocIdx : Nat) :
    ∃ found : Lookup, found.code = deadCode q address ∧
      Yields (Event.Safe q) (dsFindAllocatorForMemory q (layout.encode memory) address allocIdx)
        found := by
  by_cases inside : ∃ index size inside, layout.blocks[index]? = some ⟨size, true⟩ ∧
      inside < size ∧ address = q.base + (start layout.blocks index + inside)
  · -- in a live block, away from its start
    obtain ⟨index, size, inside, found, small, rfl⟩ := inside
    have bound : start layout.blocks index + size ≤ q.bufferMemorySize := layout.end_le found
    have interior : inside ≠ 0 := by
      rintro rfl
      rw [Nat.add_zero, blockAt_base, liveAt_of_getElem? found small] at dead
      cases dead
    refine ⟨⟨.allocatorNotFound, index, inside⟩, ?_, ?_⟩
    · unfold deadCode
      rw [if_neg (by omega)]
    · refine Yields.bind (yields_containing_live layout memory found small allocIdx 0) ?_
      exact Yields.of_pos ⟨rfl, interior⟩ yields_pure
  · refine ⟨⟨deadCode q address, allocIdx, 0⟩, rfl, ?_⟩
    refine Yields.bind (yields_containing_dead layout memory ?_ allocIdx 0) ?_
    · exact fun index size distance found small same =>
        inside ⟨index, size, distance, found, small, same⟩
    · exact Yields.of_neg (fun wrong => deadCode_ne_ok address wrong.1) yields_pure

end Lookups

/-! ### Assigning a record -/

/-- There is a block to assign: a parked one that is large enough, or a slot and space at the end.
-/
def Room (c : Config) (blocks : List Block) (size : Nat) : Prop :=
  (∃ block ∈ blocks, fits size block = true) ∨
    (blocks.length < c.maxAllocationCount ∧ extent blocks + size ≤ c.bufferMemorySize)

/-- The code of an assignment that finds no room: records are left, or none is. -/
def refusal (c : Config) (blocks : List Block) : DsErrCode :=
  if blocks.length < c.maxAllocationCount then .noMemory else .noAllocators

theorem refusal_ne_ok (c : Config) (blocks : List Block) : refusal c blocks ≠ .ok := by
  unfold refusal
  split <;> nofun

theorem refusal_ne_criticalErr (c : Config) (blocks : List Block) :
    refusal c blocks ≠ .criticalErr := by
  unfold refusal
  split <;> nofun

section Assign

variable (layout : Layout q.toConfig) (memory : Nat → UInt8)

/-- The scan passes a block that does not fit. -/
theorem scanForReuse_passes {blocks : List Block} {memory : Nat → UInt8} {iter rest size : Nat}
    {block : Block} {exit : ScanExit} (found : blocks[iter]? = some block)
    (unfit : fits size block = false) (slot : iter < q.maxAllocationCount)
    (tail : Yields (Event.Safe q) (scanForReuse (encode blocks memory) size rest (iter + 1)) exit) :
    Yields (Event.Safe q) (scanForReuse (encode blocks memory) size (rest + 1) iter) exit := by
  obtain ⟨capacity, live⟩ := block
  unfold scanForReuse
  refine Yields.bind (yields_readAllocator _ slot) ?_
  cases live
  · rw [show (encode blocks memory).allocators iter = _ from records_parked found]
    refine Yields.of_pos rfl (Yields.of_neg (fun large => ?_) tail)
    rw [fits_iff.mpr ⟨rfl, large⟩] at unfit
    cases unfit
  · rw [show (encode blocks memory).allocators iter = _ from records_live found]
    exact Yields.of_neg (by simp) (Yields.of_neg (by simp) tail)

/-- The scan stops at the first block that fits. -/
theorem yields_scanForReuse_reuse {size index : Nat}
    (first : firstFit layout.blocks size = some index) (rest iter : Nat) (reached : iter ≤ index)
    (all : iter + rest = q.maxAllocationCount) :
    Yields (Event.Safe q) (scanForReuse (layout.encode memory) size rest iter) (.reuse index) := by
  obtain ⟨⟨capacity, found, large⟩, unfit⟩ := firstFit_eq_some first
  have slot := layout.lt_maxCount found
  induction rest generalizing iter with
  | zero => omega
  | succ rest ih =>
    rcases Nat.lt_or_eq_of_le reached with below | rfl
    · obtain ⟨block, found'⟩ := exists_getElem? (below.trans (lt_length_of_getElem? found))
      exact scanForReuse_passes found' (unfit iter block below found') (by omega)
        (ih (iter + 1) below (by omega))
    · unfold scanForReuse
      refine Yields.bind (yields_readAllocator _ slot) ?_
      rw [layout.encode_parked memory found]
      exact Yields.of_pos rfl (Yields.of_pos large yields_pure)

/-- Where no block fits, the scan stops past the last one. -/
theorem yields_scanForReuse_stop {size : Nat} (none : firstFit layout.blocks size = none)
    (rest iter : Nat) (reached : iter ≤ layout.blocks.length)
    (all : iter + rest = q.maxAllocationCount) :
    Yields (Event.Safe q) (scanForReuse (layout.encode memory) size rest iter)
      (.stop layout.blocks.length) := by
  have bounded := layout.length_le
  induction rest generalizing iter with
  | zero =>
    rw [show iter = layout.blocks.length by omega]
    exact yields_pure
  | succ rest ih =>
    rcases Nat.lt_or_eq_of_le reached with below | rfl
    · obtain ⟨block, found⟩ := exists_getElem? below
      have unfit : ¬ fits size block = true := fun fit =>
        firstFit_eq_none_iff.mp none ⟨block, List.mem_of_getElem? found, fit⟩
      exact scanForReuse_passes found (Bool.eq_false_iff.mpr unfit) (by omega)
        (ih (iter + 1) below (by omega))
    · unfold scanForReuse
      refine Yields.bind (yields_readAllocator _ (by omega)) ?_
      rw [show (layout.encode memory).allocators layout.blocks.length = _ from
        records_of_length_le le_rfl]
      exact Yields.of_neg (by simp [DsAllocator.zero]) (Yields.of_pos rfl yields_pure)

/-- The assignment of a parked record. -/
theorem yields_reuseRecord {index capacity : Nat}
    (found : layout.blocks[index]? = some ⟨capacity, false⟩) :
    Yields (Event.Safe q) (reuseRecord q.toConfig (layout.encode memory) index)
      ⟨.ok, (layout.revive index).encode memory, index⟩ := by
  have slot := layout.lt_maxCount found
  have counted : liveCount layout.blocks < layout.blocks.length := liveCount_lt_length found rfl
  have bounded := layout.length_le
  have small := q.maxCount_lt
  refine Yields.bind (yields_readAllocator _ slot) ?_
  rw [layout.encode_parked memory found]
  refine Yields.bind (yields_writeAllocator _ slot _) ?_
  refine Yields.bind (yields_sizeAdd (by show liveCount layout.blocks + 1 < _; omega)) ?_
  rw [layout.encode_revive memory found]
  exact yields_pure

/-- The assignment of an unused record. -/
theorem yields_bumpRecord {size : Nat} (capacity : IsCapacity q.toConfig size)
    (slot : layout.blocks.length < q.maxAllocationCount)
    (room : extent layout.blocks + size ≤ q.bufferMemorySize) (allocIdx : Nat) :
    Yields (Event.Safe q)
      (bumpRecord q.toConfig (layout.encode memory) size layout.blocks.length allocIdx)
      ⟨.ok, (layout.push capacity slot room).encode memory, layout.blocks.length⟩ := by
  have counted := liveCount_le_length layout.blocks
  have few := q.maxCount_lt
  have small := q.memorySize_lt
  refine Yields.of_neg slot.ne ?_
  refine Yields.bind (yields_sizeSub layout.extent_le small) ?_
  refine Yields.of_neg (by show ¬ q.bufferMemorySize - extent layout.blocks < size; omega) ?_
  refine Yields.bind (yields_writeAllocator _ slot _) ?_
  refine Yields.bind (yields_sizeAdd (by show extent layout.blocks + size < _; omega)) ?_
  refine Yields.bind (yields_sizeAdd (by show liveCount layout.blocks + 1 < _; omega)) ?_
  rw [layout.encode_push]
  exact yields_pure

/-- **A parked block that fits is reused**, the first of them. -/
theorem yields_getNewAllocator_reused {size index : Nat} (small : size ≤ q.maxAllocationSize)
    (first : firstFit layout.blocks (roundUp q.alignment size) = some index) (allocIdx : Nat) :
    Yields (Event.Safe q) (dsGetNewAllocator q.toConfig (layout.encode memory) size allocIdx)
      ⟨.ok, (layout.revive index).encode memory, index⟩ := by
  have bounded := layout.length_le
  obtain ⟨⟨capacity, found, -⟩, -⟩ := firstFit_eq_some first
  have counted : liveCount layout.blocks < layout.blocks.length := liveCount_lt_length found rfl
  refine Yields.of_neg (by show ¬ _ ≤ liveCount layout.blocks; omega) ?_
  refine Yields.bind (yields_dsAlignUp small) ?_
  refine Yields.bind (yields_scanForReuse_reuse layout memory first _ _ (Nat.zero_le _)
    (Nat.zero_add _)) ?_
  exact yields_reuseRecord layout memory found

/-- **Where none fits, a block is added at the end**, if a record and the space are left. -/
theorem yields_getNewAllocator_pushed {size : Nat} (positive : 0 < size)
    (small : size ≤ q.maxAllocationSize)
    (none : firstFit layout.blocks (roundUp q.alignment size) = none)
    (slot : layout.blocks.length < q.maxAllocationCount)
    (room : extent layout.blocks + roundUp q.alignment size ≤ q.bufferMemorySize)
    (allocIdx : Nat) :
    Yields (Event.Safe q) (dsGetNewAllocator q.toConfig (layout.encode memory) size allocIdx)
      ⟨.ok, (layout.push (isCapacity_roundUp positive small) slot room).encode memory,
        layout.blocks.length⟩ := by
  have counted := liveCount_le_length layout.blocks
  refine Yields.of_neg (by show ¬ _ ≤ liveCount layout.blocks; omega) ?_
  refine Yields.bind (yields_dsAlignUp small) ?_
  refine Yields.bind (yields_scanForReuse_stop layout memory none _ _ (Nat.zero_le _)
    (Nat.zero_add _)) ?_
  exact yields_bumpRecord layout memory _ slot room allocIdx

/-- **Where there is room, a block is taken.** -/
theorem yields_getNewAllocator_placed {size : Nat} (positive : 0 < size)
    (small : size ≤ q.maxAllocationSize)
    (room : Room q.toConfig layout.blocks (roundUp q.alignment size)) :
    ∃ (after : Layout q.toConfig) (index : Nat),
      Placed layout.blocks (roundUp q.alignment size) after.blocks index ∧ ∀ allocIdx,
      Yields (Event.Safe q) (dsGetNewAllocator q.toConfig (layout.encode memory) size allocIdx)
        ⟨.ok, after.encode memory, index⟩ := by
  rcases first : firstFit layout.blocks (roundUp q.alignment size) with _ | index
  · rcases room with reuse | ⟨slot, room⟩
    · exact absurd reuse (firstFit_eq_none_iff.mp first)
    · exact ⟨_, _, .pushed,
        yields_getNewAllocator_pushed layout memory positive small first slot room⟩
  · obtain ⟨⟨capacity, found, large⟩, -⟩ := firstFit_eq_some first
    exact ⟨_, _, .revived found large, yields_getNewAllocator_reused layout memory small first⟩

/-- **Where there is none, the assignment fails and changes nothing.** -/
theorem yields_getNewAllocator_refused {size : Nat} (small : size ≤ q.maxAllocationSize)
    (full : ¬ Room q.toConfig layout.blocks (roundUp q.alignment size)) (allocIdx : Nat) :
    Yields (Event.Safe q) (dsGetNewAllocator q.toConfig (layout.encode memory) size allocIdx)
      ⟨refusal q.toConfig layout.blocks, layout.encode memory, allocIdx⟩ := by
  have counted := liveCount_le_length layout.blocks
  have none : firstFit layout.blocks (roundUp q.alignment size) = none :=
    firstFit_eq_none_iff.mpr fun reuse => full (.inl reuse)
  have scanned := yields_scanForReuse_stop layout memory none _ _ (Nat.zero_le _) (Nat.zero_add _)
  unfold refusal
  by_cases slot : layout.blocks.length < q.maxAllocationCount
  · have short : ¬ extent layout.blocks + roundUp q.alignment size ≤ q.bufferMemorySize :=
      fun room => full (.inr ⟨slot, room⟩)
    have fits := layout.extent_le
    rw [if_pos slot]
    refine Yields.of_neg (by show ¬ _ ≤ liveCount layout.blocks; omega) ?_
    refine Yields.bind (yields_dsAlignUp small) ?_
    refine Yields.bind scanned ?_
    refine Yields.of_neg slot.ne ?_
    refine Yields.bind (yields_sizeSub fits q.memorySize_lt) ?_
    refine Yields.of_pos ?_ yields_pure
    show q.bufferMemorySize - extent layout.blocks < roundUp q.alignment size
    omega
  · have last := layout.length_le.antisymm (Nat.le_of_not_lt slot)
    rw [if_neg slot]
    by_cases every : q.maxAllocationCount ≤ liveCount layout.blocks
    · exact Yields.of_pos every yields_pure
    · refine Yields.of_neg every ?_
      refine Yields.bind (yields_dsAlignUp small) ?_
      refine Yields.bind scanned ?_
      exact Yields.of_pos last yields_pure

end Assign

/-! ### Rolling the bump head back -/

/-- Rolling back over the last record drops the last block. -/
theorem yields_reclaimRecord {s : DynostaticBuffer} {front : List Block} {last : Block}
    (table : s.allocators = records (front ++ [last]))
    (slot : front.length < q.maxAllocationCount) :
    Yields (Event.Safe q) (reclaimRecord s front.length)
      { s with dataHead := extent front, allocators := records front } := by
  have record : s.allocators front.length = recordOf (extent front) last := by
    rw [table, records_concat, Function.update_self]
  refine Yields.bind (yields_readAllocator s slot) ?_
  rw [record, ← update_records_concat front last, ← table]
  exact yields_writeAllocator { s with dataHead := extent front } slot DsAllocator.zero

/-- **The cascade drops the last block and every parked block that becomes the last.** -/
theorem yields_reclaimTrailing (front : List Block) :
    ∀ {s : DynostaticBuffer} {last : Block}, s.allocators = records (front ++ [last]) →
      front.length < q.maxAllocationCount →
      Yields (Event.Safe q) (dsReclaimTrailing s front.length)
        { s with dataHead := extent (strip front), allocators := records (strip front) } := by
  induction front using List.reverseRecOn with
  | nil => exact fun table slot => yields_reclaimRecord table slot
  | append_singleton front block ih =>
    intro s last table slot
    have rolled := yields_reclaimRecord table slot
    have below : records (front ++ [block]) front.length = recordOf (extent front) block := by
      rw [records_concat, Function.update_self]
    simp only [List.length_append, List.length_singleton] at slot rolled ⊢
    unfold dsReclaimTrailing
    refine Yields.bind rolled ?_
    refine Yields.bind (yields_emit (Nat.le_add_left _ _)) ?_
    refine Yields.bind (yields_readAllocator _ (by omega)) ?_
    rw [strip_concat]
    cases live : block.live
    · refine Yields.of_neg (not_not.mpr ?_) (ih rfl (by omega))
      exact records_free_iff.mpr ⟨block.size, by rw [List.getElem?_concat_length, ← live]⟩
    · refine Yields.of_pos ?_ yields_pure
      show (records (front ++ [block]) front.length).allocationStatus ≠ .free
      simp [below, recordOf, live]

end Dynostatic
