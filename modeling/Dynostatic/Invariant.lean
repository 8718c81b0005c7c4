/-
**The representation invariant.**

`RepInv` is what `dynostatic-buffer.h` says about the records of an initialized instance, clause by
clause, in the terms of the structure's fields: no layout is mentioned. `Layout.repInv` proves it of
every layout's instance; `representation_invariant` is the result about runs.
-/

import Dynostatic.Outcome

namespace Dynostatic

open Tracing Tracing.Traced Tiling Runs

/-- The record is not `DS_NOT_USED`. -/
def Touched (s : DynostaticBuffer) (index : Nat) : Prop :=
  (s.allocators index).allocationStatus ≠ .notUsed

/-- The record is the last one that is not `DS_NOT_USED`. -/
def LastTouched (c : Config) (s : DynostaticBuffer) (index : Nat) : Prop :=
  index < c.maxAllocationCount ∧ Touched s index ∧
    (index + 1 = c.maxAllocationCount ∨ ¬ Touched s (index + 1))

/-- **The representation invariant of an initialized instance.** -/
structure RepInv (c : Config) (s : DynostaticBuffer) : Prop where
  /-- From the first unused record on, every record is unused, with no head and no size. -/
  compact : ∀ first index, first ≤ index → index < c.maxAllocationCount → ¬ Touched s first →
    s.allocators index = ⟨0, 0, .notUsed⟩
  /-- The first block starts the arena. -/
  head_zero : Touched s 0 → (s.allocators 0).head = 0
  /-- Each block starts where the one below it ends. -/
  head_succ : ∀ index, index + 1 < c.maxAllocationCount → Touched s (index + 1) →
    (s.allocators (index + 1)).head = (s.allocators index).head + (s.allocators index).size
  /-- The last block ends at `data_head`. -/
  end_last : ∀ index, LastTouched c s index →
    (s.allocators index).head + (s.allocators index).size = s.dataHead
  /-- Without a block, `data_head` is `0`. -/
  dataHead_empty : ¬ Touched s 0 → s.dataHead = 0
  dataHead_le : s.dataHead ≤ c.bufferMemorySize
  /-- Sizes are positive multiples of the alignment, and no larger than a request may be. -/
  size : ∀ index, index < c.maxAllocationCount → Touched s index →
    0 < (s.allocators index).size ∧ c.alignment ∣ (s.allocators index).size ∧
      (s.allocators index).size ≤ c.maxAllocationSize
  /-- `used_allocators` counts the live records. -/
  used : s.usedAllocators = (List.range c.maxAllocationCount).countP
    fun index => (s.allocators index).allocationStatus = .allocated
  /-- No parked block at the end. -/
  last_allocated : ∀ index, LastTouched c s index →
    (s.allocators index).allocationStatus = .allocated

/-! ### The table of a layout -/

theorem touched_encode_iff {blocks : List Block} {memory : Nat → UInt8} {index : Nat} :
    Touched (encode blocks memory) index ↔ index < blocks.length := by
  unfold Touched
  rw [← not_le]
  exact not_congr records_notUsed_iff

/-- The live records among the first `count` are the live blocks among them. -/
theorem countP_records (blocks : List Block) (count : Nat) :
    ((List.range count).countP fun index =>
      decide ((records blocks index).allocationStatus = .allocated)) =
      liveCount (blocks.take count) := by
  induction count with
  | zero => rfl
  | succ count ih =>
    rw [List.range_succ, List.countP_append, ih, List.take_add_one, liveCount_append,
      List.countP_singleton]
    congr 1
    rcases found : blocks[count]? with _ | ⟨size, _ | _⟩
    · rw [records_of_length_le (List.getElem?_eq_none_iff.mp found)]
      rfl
    · rw [records_parked found]
      rfl
    · rw [records_live found]
      rfl

section Layout

variable {c : Config} (layout : Layout c) (memory : Nat → UInt8)

theorem Layout.lastTouched_iff {index : Nat} :
    LastTouched c (layout.encode memory) index ↔ index + 1 = layout.blocks.length := by
  have slots := layout.length_le
  unfold LastTouched
  rw [Layout.encode, touched_encode_iff, touched_encode_iff]
  omega

/-- **The instance of a layout meets the invariant.** -/
theorem Layout.repInv : RepInv c (layout.encode memory) where
  compact := by
    intro first index ordered _ unused
    unfold Layout.encode at unused
    rw [touched_encode_iff] at unused
    exact records_of_length_le (by omega)
  head_zero := by
    intro touched
    obtain ⟨block, found⟩ := exists_getElem? (touched_encode_iff.mp touched)
    exact congrArg DsAllocator.head (records_of_getElem? found)
  head_succ := by
    intro index _ touched
    have inside : index + 1 < layout.blocks.length := touched_encode_iff.mp touched
    obtain ⟨block, found⟩ := exists_getElem? (Nat.lt_of_succ_lt inside)
    obtain ⟨above, found'⟩ := exists_getElem? inside
    show (records _ (index + 1)).head = (records _ index).head + (records _ index).size
    rw [records_of_getElem? found, records_of_getElem? found']
    exact start_succ found
  end_last := by
    intro index last
    have top := (layout.lastTouched_iff memory).mp last
    obtain ⟨block, found⟩ := exists_getElem? (Nat.lt_of_succ_le top.le)
    have ends := start_succ found
    rw [top, start_length] at ends
    show (records _ index).head + (records _ index).size = extent layout.blocks
    rw [records_of_getElem? found]
    exact ends.symm
  dataHead_empty := by
    intro unused
    unfold Layout.encode at unused
    rw [touched_encode_iff, not_lt, Nat.le_zero, List.length_eq_zero_iff] at unused
    exact congrArg extent unused
  dataHead_le := layout.extent_le
  size := by
    intro index _ touched
    obtain ⟨block, found⟩ := exists_getElem? (touched_encode_iff.mp touched)
    have capacity := layout.capacity_of_getElem? found
    show 0 < (records _ index).size ∧ _ ∣ (records _ index).size ∧ (records _ index).size ≤ _
    rw [records_of_getElem? found]
    exact ⟨capacity.positive, capacity.multiple, capacity.bounded⟩
  used := by
    show liveCount layout.blocks = _
    rw [← List.take_of_length_le layout.length_le]
    exact (countP_records _ _).symm
  last_allocated := by
    intro index last
    have top := (layout.lastTouched_iff memory).mp last
    obtain ⟨block, found⟩ := exists_getElem? (Nat.lt_of_succ_le top.le)
    have live := tight_iff.mp layout.tight index _ found top
    show (records _ index).allocationStatus = .allocated
    rw [records_of_getElem? found, recordOf, if_pos live]

end Layout

/-! ### Runs -/

/-- **In every run, every initialized state meets the representation invariant.** -/
theorem representation_invariant (q : Placement) {first : DynostaticBuffer}
    (fresh : first.initMagic ≠ dsMagicNumber) (actions : List Action)
    (initialized : (run (next q) first actions).initMagic = dsMagicNumber) :
    RepInv q.toConfig (run (next q) first actions) := by
  have reachable : Reachable q (run (next q) first actions) := ⟨first, actions, fresh, rfl⟩
  obtain ⟨layout, memory, same⟩ := reachable.of_initialized initialized
  rw [same]
  exact layout.repInv memory

/-- Two allocations and a release of the first: the table holds a parked block below a live one. -/
theorem representation_invariant_parked :
    RepInv defaultPlacement.toConfig (run (next defaultPlacement) zeroBuffer
      [.call (.initializeAllocation .self), .call (.malloc .self (some 0) 10),
        .call (.malloc .self (some 0) 20), .call (.free .self (some 4096))]) :=
  representation_invariant defaultPlacement zeroBuffer_fresh _ (by decide)

end Dynostatic
