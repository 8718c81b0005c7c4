/-
**Layouts, and the instances they stand for.**

A `Layout` is what the record table is about: a tiling of `[0, data_head)` by live and parked blocks
whose sizes are capacities, at most one block a record, and no parked block at the end. An invalid
layout cannot be built, and the operations below return layouts.

`encode` writes a tiling down as an instance: the record at an index holds the block's offset, size
and status, the records past the last block are zero, `data_head` is the extent and
`used_allocators` the number of live blocks. The theorems on `records` say which write to the table
each change of the tiling is.
-/

import Mathlib.Algebra.BigOperators.Ring.List
import Mathlib.Algebra.Ring.Nat
import Dynostatic.Lib.Tiling
import Dynostatic.State

namespace Dynostatic

open Tiling Rounding

/-! ### Layouts -/

/-- A size a block can have. -/
structure IsCapacity (c : Config) (size : Nat) : Prop where
  positive : 0 < size
  multiple : c.alignment ∣ size
  bounded : size ≤ c.maxAllocationSize

theorem isCapacity_roundUp {c : Config} {size : Nat} (positive : 0 < size)
    (small : size ≤ c.maxAllocationSize) : IsCapacity c (roundUp c.alignment size) :=
  ⟨roundUp_pos positive, dvd_roundUp _ _, roundUp_le_maxSize small⟩

/-- **A tiling the record table can hold.** -/
@[ext] structure Layout (c : Config) where
  blocks : List Block
  /-- One record a block. -/
  length_le : blocks.length ≤ c.maxAllocationCount
  /-- The blocks lie in the arena. -/
  extent_le : extent blocks ≤ c.bufferMemorySize
  capacity : ∀ block ∈ blocks, IsCapacity c block.size
  /-- No parked block at the end. -/
  tight : Tight blocks

namespace Layout

variable {c : Config} (layout : Layout c)

theorem capacity_of_getElem? {index : Nat} {block : Block}
    (found : layout.blocks[index]? = some block) : IsCapacity c block.size :=
  layout.capacity block (List.mem_of_getElem? found)

theorem end_le {index : Nat} {block : Block} (found : layout.blocks[index]? = some block) :
    start layout.blocks index + block.size ≤ c.bufferMemorySize :=
  (end_le_extent found).trans layout.extent_le

/-- A block that ends where the tiling does is the last. -/
theorem exists_front {index : Nat} {block : Block} (found : layout.blocks[index]? = some block)
    (top : start layout.blocks index + block.size = extent layout.blocks) :
    ∃ front, layout.blocks = front ++ [block] ∧ index = front.length :=
  exists_front_of_end found top fun other member => (layout.capacity other member).positive

theorem lt_maxCount {index : Nat} {block : Block} (found : layout.blocks[index]? = some block) :
    index < c.maxAllocationCount :=
  (lt_length_of_getElem? found).trans_le layout.length_le

/-- The offsets of blocks are multiples of the alignment. -/
theorem dvd_start (index : Nat) : c.alignment ∣ start layout.blocks index := by
  refine List.dvd_sum fun size (member : size ∈ List.map Block.size _) => ?_
  obtain ⟨block, listed, rfl⟩ := List.mem_map.mp member
  exact (layout.capacity block (List.mem_of_mem_take listed)).multiple

theorem dvd_extent : c.alignment ∣ extent layout.blocks := by
  rw [← start_length]
  exact layout.dvd_start _

/-- Some capacity at every index of the same sizes. -/
theorem capacity_mark (index : Nat) (live : Bool) :
    ∀ block ∈ mark layout.blocks index live, IsCapacity c block.size := by
  intro block member
  have sizes : block.size ∈ layout.blocks.map Block.size := by
    rw [← map_size_mark layout.blocks index live]
    exact List.mem_map_of_mem member
  obtain ⟨old, listed, same⟩ := List.mem_map.mp sizes
  exact same ▸ layout.capacity old listed

/-- No block at all. -/
def empty (c : Config) : Layout c where
  blocks := []
  length_le := Nat.zero_le _
  extent_le := Nat.zero_le _
  capacity := fun _ member => absurd member List.not_mem_nil
  tight := tight_nil

/-- Make the block at an index live. -/
def revive (index : Nat) : Layout c where
  blocks := mark layout.blocks index true
  length_le := (length_mark _ _ _).trans_le layout.length_le
  extent_le := (extent_mark _ _ _).trans_le layout.extent_le
  capacity := layout.capacity_mark index true
  tight := tight_mark_live layout.tight index

/-- Add a live block at the end. -/
def push {size : Nat} (capacity : IsCapacity c size)
    (slot : layout.blocks.length < c.maxAllocationCount)
    (room : extent layout.blocks + size ≤ c.bufferMemorySize) : Layout c where
  blocks := layout.blocks ++ [⟨size, true⟩]
  length_le := by rwa [List.length_append, List.length_singleton]
  extent_le := by rwa [extent_append, extent_cons, extent_nil, Nat.add_zero]
  capacity := by
    intro block member
    rcases List.mem_append.mp member with old | new
    · exact layout.capacity block old
    · exact List.mem_singleton.mp new ▸ capacity
  tight := tight_concat_iff.mpr rfl

/-- Release the block at an index. -/
def release (index : Nat) : Layout c where
  blocks := Tiling.release layout.blocks index
  length_le := (length_release_le _ _).trans layout.length_le
  extent_le := (extent_release_le _ _).trans layout.extent_le
  capacity := fun block member =>
    layout.capacity_mark index false block ((prefix_strip _).subset member)
  tight := tight_release _ _

/-- Give the trailing block another size. -/
def grow {front : List Block} {old size : Nat} (last : layout.blocks = front ++ [⟨old, true⟩])
    (capacity : IsCapacity c size) (room : extent front + size ≤ c.bufferMemorySize) :
    Layout c where
  blocks := front ++ [⟨size, true⟩]
  length_le := by
    have bound := layout.length_le
    rw [last, List.length_append, List.length_singleton] at bound
    rwa [List.length_append, List.length_singleton]
  extent_le := by rwa [extent_append, extent_cons, extent_nil, Nat.add_zero]
  capacity := by
    intro block member
    rcases List.mem_append.mp member with old | new
    · exact layout.capacity block (last ▸ List.mem_append_left _ old)
    · exact List.mem_singleton.mp new ▸ capacity
  tight := tight_concat_iff.mpr rfl

end Layout

/-! ### The record table of a tiling -/

/-- The record of a block at an offset. -/
def recordOf (head : Nat) (block : Block) : DsAllocator :=
  ⟨head, block.size, if block.live then .allocated else .free⟩

/-- A block's record is in use. -/
theorem recordOf_used (head : Nat) (block : Block) :
    (recordOf head block).allocationStatus ≠ .notUsed := by
  unfold recordOf
  split <;> nofun

/-- The record table of a tiling. -/
def records (blocks : List Block) (index : Nat) : DsAllocator :=
  match blocks[index]? with
  | some block => recordOf (start blocks index) block
  | none => DsAllocator.zero

theorem records_of_getElem? {blocks : List Block} {index : Nat} {block : Block}
    (found : blocks[index]? = some block) :
    records blocks index = recordOf (start blocks index) block := by
  unfold records
  rw [found]

theorem records_of_length_le {blocks : List Block} {index : Nat} (past : blocks.length ≤ index) :
    records blocks index = DsAllocator.zero := by
  unfold records
  rw [List.getElem?_eq_none past]

theorem records_live {blocks : List Block} {index size : Nat}
    (found : blocks[index]? = some ⟨size, true⟩) :
    records blocks index = ⟨start blocks index, size, .allocated⟩ :=
  records_of_getElem? found

theorem records_parked {blocks : List Block} {index size : Nat}
    (found : blocks[index]? = some ⟨size, false⟩) :
    records blocks index = ⟨start blocks index, size, .free⟩ :=
  records_of_getElem? found

theorem records_allocated_iff {blocks : List Block} {index : Nat} :
    (records blocks index).allocationStatus = .allocated ↔
      ∃ size, blocks[index]? = some ⟨size, true⟩ := by
  rcases past : blocks[index]? with _ | ⟨size, _ | _⟩ <;>
    simp [records, past, recordOf, DsAllocator.zero]

/-- The record of a live block says where it is. -/
theorem getElem?_of_record {blocks : List Block} {index head size : Nat}
    (record : records blocks index = ⟨head, size, .allocated⟩) :
    blocks[index]? = some ⟨size, true⟩ ∧ head = start blocks index := by
  obtain ⟨size', found⟩ := records_allocated_iff.mp (congrArg DsAllocator.allocationStatus record)
  rw [records_live found] at record
  cases record
  exact ⟨found, rfl⟩

theorem records_free_iff {blocks : List Block} {index : Nat} :
    (records blocks index).allocationStatus = .free ↔
      ∃ size, blocks[index]? = some ⟨size, false⟩ := by
  rcases past : blocks[index]? with _ | ⟨size, _ | _⟩ <;>
    simp [records, past, recordOf, DsAllocator.zero]

theorem records_notUsed_iff {blocks : List Block} {index : Nat} :
    (records blocks index).allocationStatus = .notUsed ↔ blocks.length ≤ index := by
  rw [← List.getElem?_eq_none_iff]
  rcases past : blocks[index]? with _ | ⟨size, _ | _⟩ <;>
    simp [records, past, recordOf, DsAllocator.zero]

/-- A mark is one write of a status. -/
theorem records_mark {blocks : List Block} {index : Nat} {block : Block} (live : Bool)
    (found : blocks[index]? = some block) :
    records (mark blocks index live) =
      Function.update (records blocks) index
        (recordOf (start blocks index) { block with live }) := by
  funext other
  by_cases here : other = index
  · subst here
    rw [Function.update_self, records_of_getElem? (getElem?_mark_self found live), start_mark]
  · rw [Function.update_of_ne here, records, records, getElem?_mark_of_ne _ _ (Ne.symm here),
      start_mark]

/-- A block at the end is one write of a whole record. -/
theorem records_concat (blocks : List Block) (block : Block) :
    records (blocks ++ [block]) =
      Function.update (records blocks) blocks.length (recordOf (extent blocks) block) := by
  funext other
  rcases Nat.lt_trichotomy other blocks.length with inside | rfl | past
  · rw [Function.update_of_ne inside.ne, records, records, List.getElem?_append_left inside,
      start_append_of_le inside.le]
  · rw [Function.update_self, records_of_getElem? List.getElem?_concat_length,
      start_append_of_le le_rfl, start_length]
  · rw [Function.update_of_ne past.ne', records_of_length_le past.le, records_of_length_le]
    simp only [List.length_append, List.length_singleton]
    exact past

/-- Zeroing the last record drops the last block. -/
theorem update_records_concat (blocks : List Block) (block : Block) :
    Function.update (records (blocks ++ [block])) blocks.length DsAllocator.zero =
      records blocks := by
  rw [records_concat, Function.update_idem, Function.update_eq_self_iff,
    records_of_length_le le_rfl]

/-- Two last blocks differ in one record. -/
theorem update_records_last (blocks : List Block) (block other : Block) :
    Function.update (records (blocks ++ [block])) blocks.length (recordOf (extent blocks) other) =
      records (blocks ++ [other]) := by
  rw [records_concat, Function.update_idem, ← records_concat]

/-! ### Instances -/

/-- **The instance a tiling and an arena stand for.** -/
def encode (blocks : List Block) (memory : Nat → UInt8) : DynostaticBuffer where
  initMagic := dsMagicNumber
  dataHead := extent blocks
  usedAllocators := liveCount blocks
  memory := memory
  allocators := records blocks

/-- The instance of a layout and an arena. -/
def Layout.encode {c : Config} (layout : Layout c) (memory : Nat → UInt8) : DynostaticBuffer :=
  Dynostatic.encode layout.blocks memory

namespace Layout

variable {c : Config} (layout : Layout c) (memory : Nat → UInt8)

/-- The instance of a layout is initialized. -/
theorem encode_initialized : ¬ (layout.encode memory).initMagic ≠ dsMagicNumber :=
  not_not.mpr rfl

/-- The record of a live block. -/
theorem encode_live {index size : Nat} (found : layout.blocks[index]? = some ⟨size, true⟩) :
    (layout.encode memory).allocators index = ⟨start layout.blocks index, size, .allocated⟩ :=
  records_live found

/-- The record of a parked block. -/
theorem encode_parked {index size : Nat} (found : layout.blocks[index]? = some ⟨size, false⟩) :
    (layout.encode memory).allocators index = ⟨start layout.blocks index, size, .free⟩ :=
  records_parked found

/-- The records past the last block are zero. -/
theorem encode_unused {index : Nat} (past : layout.blocks.length ≤ index) :
    (layout.encode memory).allocators index = DsAllocator.zero :=
  records_of_length_le past

theorem encode_revive {index capacity : Nat}
    (found : layout.blocks[index]? = some ⟨capacity, false⟩) :
    (layout.revive index).encode memory =
      { layout.encode memory with
        usedAllocators := liveCount layout.blocks + 1
        allocators := Function.update (records layout.blocks) index
          ⟨start layout.blocks index, capacity, .allocated⟩ } := by
  have counted : liveCount (mark layout.blocks index true) = liveCount layout.blocks + 1 :=
    liveCount_mark true found
  show Dynostatic.encode (mark layout.blocks index true) memory = _
  rw [Dynostatic.encode, extent_mark, counted, records_mark true found]
  rfl

theorem encode_push {size : Nat} (capacity : IsCapacity c size)
    (slot : layout.blocks.length < c.maxAllocationCount)
    (room : extent layout.blocks + size ≤ c.bufferMemorySize) :
    (layout.push capacity slot room).encode memory =
      { layout.encode memory with
        dataHead := extent layout.blocks + size
        usedAllocators := liveCount layout.blocks + 1
        allocators := Function.update (records layout.blocks) layout.blocks.length
          ⟨extent layout.blocks, size, .allocated⟩ } := by
  show Dynostatic.encode (layout.blocks ++ [⟨size, true⟩]) memory = _
  rw [Dynostatic.encode, extent_append, liveCount_append, records_concat]
  rfl

/-- A block below the last is parked. -/
theorem encode_release_below {index size : Nat}
    (found : layout.blocks[index]? = some ⟨size, true⟩)
    (below : index + 1 < layout.blocks.length) :
    (layout.release index).encode memory =
      { layout.encode memory with
        usedAllocators := liveCount layout.blocks - 1
        allocators := Function.update (records layout.blocks) index
          ⟨start layout.blocks index, size, .free⟩ } := by
  have counted := liveCount_release found rfl
  show Dynostatic.encode (Tiling.release layout.blocks index) memory = _
  rw [← counted, release_of_below layout.tight below, Dynostatic.encode, extent_mark,
    records_mark false found]
  rfl

/-- The last block is rolled back, with the parked blocks below it. -/
theorem encode_release_last {front : List Block} {size : Nat}
    (last : layout.blocks = front ++ [⟨size, true⟩]) :
    (layout.release front.length).encode memory =
      { layout.encode memory with
        dataHead := extent (strip front)
        usedAllocators := liveCount layout.blocks - 1
        allocators := records (strip front) } := by
  show Dynostatic.encode (Tiling.release layout.blocks front.length) memory = _
  rw [last, release_last, Dynostatic.encode, liveCount_strip, liveCount_append]
  rfl

theorem encode_grow {front : List Block} {old size : Nat}
    (last : layout.blocks = front ++ [⟨old, true⟩]) (capacity : IsCapacity c size)
    (room : extent front + size ≤ c.bufferMemorySize) :
    (layout.grow last capacity room).encode memory =
      { layout.encode memory with
        dataHead := extent front + size
        allocators := Function.update (records layout.blocks) front.length
          ⟨extent front, size, .allocated⟩ } := by
  have counted : liveCount layout.blocks = liveCount (front ++ [⟨size, true⟩]) := by
    rw [last, liveCount_append, liveCount_append]
    rfl
  have table := update_records_last front ⟨old, true⟩ ⟨size, true⟩
  show Dynostatic.encode (front ++ [⟨size, true⟩]) memory = _
  rw [Dynostatic.encode, ← counted, ← table, extent_append, ← last]
  rfl

end Layout

end Dynostatic
