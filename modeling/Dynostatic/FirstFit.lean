/-
**Where a block is placed.**

`ds_malloc` counts, scans and tests an index. What that amounts to is a statement about sets:
`Fitting` is the set of parked records that can hold a size, in no order. The lowest of their blocks
is handed out; where there is none, the codes say which resource is missing, and otherwise the block
is taken at `data_head` (`malloc_placement`).
-/

import Dynostatic.Outcome

namespace Dynostatic

open Tracing Tracing.Traced Tiling Rounding Runs

/-- The parked records that can hold a size. -/
def Fitting (c : Config) (s : DynostaticBuffer) (size : Nat) : Set Nat :=
  {index | index < c.maxAllocationCount ∧ (s.allocators index).allocationStatus = .free ∧
    size ≤ (s.allocators index).size}

variable {q : Placement}

section Layout

variable {layout : Layout q.toConfig} {memory : Nat → UInt8} {size index : Nat}

theorem mem_fitting_encode_iff :
    index ∈ Fitting q.toConfig (layout.encode memory) size ↔
      ∃ capacity, layout.blocks[index]? = some ⟨capacity, false⟩ ∧ size ≤ capacity := by
  constructor
  · rintro ⟨-, parked, large⟩
    obtain ⟨capacity, found⟩ := records_free_iff.mp parked
    rw [layout.encode_parked memory found] at large
    exact ⟨capacity, found, large⟩
  · rintro ⟨capacity, found, large⟩
    refine ⟨layout.lt_maxCount found, ?_⟩
    rw [layout.encode_parked memory found]
    exact ⟨rfl, large⟩

variable (memory) in
/-- **The first block that fits is the lowest**: the order of the records is that of the addresses.
-/
theorem firstFit_lowest (first : firstFit layout.blocks size = some index) :
    index ∈ Fitting q.toConfig (layout.encode memory) size ∧
      ∀ other ∈ Fitting q.toConfig (layout.encode memory) size, other ≠ index →
        ((layout.encode memory).allocators index).head <
          ((layout.encode memory).allocators other).head := by
  obtain ⟨⟨capacity, found, large⟩, unfit⟩ := firstFit_eq_some first
  refine ⟨mem_fitting_encode_iff.mpr ⟨capacity, found, large⟩, fun other member different => ?_⟩
  obtain ⟨capacity', found', large'⟩ := mem_fitting_encode_iff.mp member
  have above : index < other := by
    rcases Nat.lt_or_gt_of_ne different with below | above
    · have missed := unfit other _ below found'
      rw [fits_iff.mpr ⟨rfl, large'⟩] at missed
      cases missed
    · exact above
  have positive : 0 < capacity := (layout.capacity_of_getElem? found).positive
  have ends : start layout.blocks index + capacity ≤ start layout.blocks other :=
    end_le_start found above
  show (records layout.blocks index).head < (records layout.blocks other).head
  rw [records_parked found, records_parked found']
  show start layout.blocks index < start layout.blocks other
  omega

/-- Where no record fits, the scan finds none. -/
theorem firstFit_of_fitting_empty
    (empty : Fitting q.toConfig (layout.encode memory) size = ∅) :
    firstFit layout.blocks size = none := by
  rw [Option.eq_none_iff_forall_ne_some]
  intro index first
  have member := (firstFit_lowest memory first).1
  rwa [empty] at member

/-- Where a record fits, the scan finds one. -/
theorem exists_firstFit
    (some : (Fitting q.toConfig (layout.encode memory) size).Nonempty) :
    ∃ index, firstFit layout.blocks size = .some index := by
  obtain ⟨index, member⟩ := some
  obtain ⟨capacity, found, large⟩ := mem_fitting_encode_iff.mp member
  rw [← Option.ne_none_iff_exists']
  intro none
  exact firstFit_eq_none_iff.mp none
    ⟨_, List.mem_of_getElem? found, fits_iff.mpr ⟨rfl, large⟩⟩

theorem exists_notUsed_iff :
    (∃ index < q.maxAllocationCount,
      ((layout.encode memory).allocators index).allocationStatus = .notUsed) ↔
      layout.blocks.length < q.maxAllocationCount := by
  constructor
  · rintro ⟨index, inside, unused⟩
    exact (records_notUsed_iff.mp unused).trans_lt inside
  · exact fun slot => ⟨_, slot, records_notUsed_iff.mpr le_rfl⟩

end Layout

/-! ### The four answers -/

section Answers

variable {layout : Layout q.toConfig} {memory : Nat → UInt8} {p n : Nat}

/-- A block that is parked is handed out as it is. -/
theorem malloc_reuses (fresh : blockAt q layout.blocks p = none) (positive : 0 < n)
    (small : n ≤ q.maxAllocationSize)
    (some : (Fitting q.toConfig (layout.encode memory) (roundUp q.alignment n)).Nonempty) :
    ∃ index ∈ Fitting q.toConfig (layout.encode memory) (roundUp q.alignment n),
      (∀ other ∈ Fitting q.toConfig (layout.encode memory) (roundUp q.alignment n),
        other ≠ index → ((layout.encode memory).allocators index).head <
          ((layout.encode memory).allocators other).head) ∧
      reply q (layout.encode memory) (.malloc .self (.some p) n) =
        ⟨.ok, { layout.encode memory with
            usedAllocators := (layout.encode memory).usedAllocators + 1
            allocators := Function.update (layout.encode memory).allocators index
              { (layout.encode memory).allocators index with allocationStatus := .allocated } },
          .some (q.base + ((layout.encode memory).allocators index).head)⟩ := by
  obtain ⟨index, first⟩ := exists_firstFit some
  obtain ⟨member, lowest⟩ := firstFit_lowest memory first
  obtain ⟨⟨capacity, found, -⟩, -⟩ := firstFit_eq_some first
  have record : (layout.encode memory).allocators index =
      ⟨start layout.blocks index, capacity, .free⟩ := records_parked found
  have taken := yields_dsMalloc_assigned layout memory fresh positive small
    (getElem?_mark_self found true) (yields_getNewAllocator_reused layout memory small first)
  refine ⟨index, member, lowest, taken.value.trans ?_⟩
  rw [layout.encode_revive memory found, record]
  exact congrArg (Reply.mk _ _) (congrArg (fun head => Option.some (q.base + head))
    (start_mark _ _ _ _))

/-- A block is added at the end. -/
theorem malloc_bumps (fresh : blockAt q layout.blocks p = none) (positive : 0 < n)
    (small : n ≤ q.maxAllocationSize)
    (none : Fitting q.toConfig (layout.encode memory) (roundUp q.alignment n) = ∅)
    (slot : layout.blocks.length < q.maxAllocationCount)
    (room : extent layout.blocks + roundUp q.alignment n ≤ q.bufferMemorySize) :
    reply q (layout.encode memory) (.malloc .self (some p) n) =
      ⟨.ok, { layout.encode memory with
          dataHead := extent layout.blocks + roundUp q.alignment n
          usedAllocators := (layout.encode memory).usedAllocators + 1
          allocators := Function.update (layout.encode memory).allocators layout.blocks.length
            ⟨extent layout.blocks, roundUp q.alignment n, .allocated⟩ },
        some (q.base + extent layout.blocks)⟩ := by
  have taken := yields_dsMalloc_pushed layout memory fresh positive small
    (firstFit_of_fitting_empty none) slot room
  refine taken.value.trans ?_
  rw [layout.encode_push]
  rfl

/-- Neither is possible. -/
theorem malloc_refuses (fresh : blockAt q layout.blocks p = none) (positive : 0 < n)
    (small : n ≤ q.maxAllocationSize)
    (none : Fitting q.toConfig (layout.encode memory) (roundUp q.alignment n) = ∅)
    (stuck : layout.blocks.length < q.maxAllocationCount →
      q.bufferMemorySize < extent layout.blocks + roundUp q.alignment n) :
    reply q (layout.encode memory) (.malloc .self (some p) n) =
      ⟨refusal q.toConfig layout.blocks, layout.encode memory, some p⟩ := by
  refine (yields_dsMalloc_full layout memory fresh positive small ?_).value
  rintro (reuse | ⟨slot, room⟩)
  · exact firstFit_eq_none_iff.mp (firstFit_of_fitting_empty none) reuse
  · have := stuck slot
    omega

end Answers

/-- **Placement and failure codes of `ds_malloc`.** In a reachable initialized instance, for a
pointer that names no live block and a size `n` whose least multiple of the alignment is `a`: among
the parked records that hold `a` the one with the lowest block is handed out as it is; without one,
a full table and a short arena are told apart by the code, and otherwise a block of size `a` starts
at `data_head`. -/
theorem malloc_placement {s : DynostaticBuffer} (reachable : Reachable q s)
    (initialized : s.initMagic = dsMagicNumber) {p n a : Nat}
    (fresh : ∀ capacity, ¬ LiveBlock q s p capacity) (positive : 0 < n)
    (small : n ≤ q.maxAllocationSize)
    (least : IsLeast {bound | q.alignment ∣ bound ∧ n ≤ bound} a) :
    ((Fitting q.toConfig s a).Nonempty →
      ∃ index ∈ Fitting q.toConfig s a,
        (∀ other ∈ Fitting q.toConfig s a, other ≠ index →
          (s.allocators index).head < (s.allocators other).head) ∧
        reply q s (.malloc .self (some p) n) =
          ⟨.ok, { s with
              usedAllocators := s.usedAllocators + 1
              allocators := Function.update s.allocators index
                { s.allocators index with allocationStatus := .allocated } },
            some (q.base + (s.allocators index).head)⟩) ∧
    (Fitting q.toConfig s a = ∅ →
      (∀ index < q.maxAllocationCount, (s.allocators index).allocationStatus ≠ .notUsed) →
      reply q s (.malloc .self (some p) n) = ⟨.noAllocators, s, some p⟩) ∧
    (Fitting q.toConfig s a = ∅ →
      (∃ index < q.maxAllocationCount, (s.allocators index).allocationStatus = .notUsed) →
      q.bufferMemorySize - s.dataHead < a →
      reply q s (.malloc .self (some p) n) = ⟨.noMemory, s, some p⟩) ∧
    (Fitting q.toConfig s a = ∅ →
      (∃ index < q.maxAllocationCount, (s.allocators index).allocationStatus = .notUsed) →
      a ≤ q.bufferMemorySize - s.dataHead →
      ∃ index < q.maxAllocationCount, (s.allocators index).allocationStatus = .notUsed ∧
        reply q s (.malloc .self (some p) n) =
          ⟨.ok, { s with
              dataHead := s.dataHead + a
              usedAllocators := s.usedAllocators + 1
              allocators := Function.update s.allocators index ⟨s.dataHead, a, .allocated⟩ },
            some (q.base + s.dataHead)⟩) := by
  obtain ⟨layout, memory, rfl⟩ := reachable.of_initialized initialized
  obtain rfl := eq_roundUp_of_isLeast q.alignment_pos least
  have dead := not_liveBlock_encode_iff.mp fresh
  have head : (layout.encode memory).dataHead = extent layout.blocks := rfl
  have bound := layout.extent_le
  refine ⟨malloc_reuses dead positive small, ?_, ?_, ?_⟩
  · intro none every
    have full : ¬ layout.blocks.length < q.maxAllocationCount := fun slot =>
      every _ slot (records_notUsed_iff.mpr le_rfl)
    rw [malloc_refuses dead positive small none fun slot => absurd slot full, refusal, if_neg full]
  · intro none unused short
    have slot := exists_notUsed_iff.mp unused
    rw [malloc_refuses dead positive small none fun _ => by omega, refusal, if_pos slot]
  · intro none unused room
    have slot := exists_notUsed_iff.mp unused
    exact ⟨_, slot, records_notUsed_iff.mpr le_rfl,
      malloc_bumps dead positive small none slot (by omega)⟩

/-- An instance with a parked block below a live one. -/
def parkedBelow : DynostaticBuffer :=
  run (next defaultPlacement) twoLive [.call (.free .self (some 4096))]

theorem parkedBelow_reachable : Reachable defaultPlacement parkedBelow :=
  twoLive_reachable.run _

/-- Its parked block is handed out again. -/
theorem malloc_placement_parked :
    ∃ index ∈ Fitting defaultPlacement.toConfig parkedBelow 8,
      (reply defaultPlacement parkedBelow (.malloc .self (some 0) 5)).cell =
        some (defaultPlacement.base + (parkedBelow.allocators index).head) := by
  have free : ∀ capacity, ¬ LiveBlock defaultPlacement parkedBelow 0 capacity :=
    fun _ live => absurd live.pos (Nat.lt_irrefl 0)
  obtain ⟨index, member, -, taken⟩ := (malloc_placement parkedBelow_reachable rfl free
    (by decide) (by decide) (roundUp_isLeast defaultPlacement.alignment_pos 5)).1
    ⟨0, by decide, by decide, by decide⟩
  exact ⟨index, member, congrArg Reply.cell taken⟩

end Dynostatic
