/-
**Choosing the limits of a build.**

Which shortages a program can run into follows from the macros, and from how much it keeps live.

* `sizing` — some run reports `ERROR_DS_NO_MEMORY` exactly if `B < N · M`, and some run reports
  `ERROR_DS_NO_ALLOCATORS` exactly if `N · A ≤ B`;
* `fragmentation_bound` — how many bytes of the arena parked blocks can keep from a request, and
  that no fewer will do.

What a shortage means of the instance is the error contract's. That one does come about is shown on
a layout: a run leads there (`Layout.reachable`).
-/

import Dynostatic.Completeness
import Dynostatic.ErrorCodes
import Dynostatic.Lib.Fragmentation
import Dynostatic.Machine
import Dynostatic.Retention
import Dynostatic.Stale
import Dynostatic.Usage

namespace Dynostatic

open Tracing Tracing.Traced Tiling Rounding Runs

/-! ### Where a shortage comes from -/

section Shortage

variable {q : Placement} {s : DynostaticBuffer} {op : Op}

/-- An allocation that is short of memory has a record left, no parked block and no space. -/
theorem layout_of_noMemory (reachable : Reachable q s) (allocates : op.Allocates)
    (code : (reply q s op).code = .noMemory) :
    ∃ (layout : Layout q.toConfig) (memory : Nat → UInt8) (size : Nat),
      s = layout.encode memory ∧ op.requested = some size ∧ size ≤ q.maxAllocationSize ∧
        (¬ ∃ block ∈ layout.blocks, fits (roundUp q.alignment size) block = true) ∧
        layout.blocks.length < q.maxAllocationCount ∧
          q.bufferMemorySize < extent layout.blocks + roundUp q.alignment size := by
  have cause : Cause q s op (reply q s op).code :=
    cause_of_code reachable.wellFormed (by rw [code]; nofun)
  rw [code] at cause
  cases cause with
  | @noMemory size needs unfit left short =>
    obtain ⟨layout, memory, rfl⟩ := reachable.of_initialized needs.initialized
    refine ⟨layout, memory, size, rfl, needs.requested_eq, needs.size_le, ?_,
      exists_notUsed_iff.mp left, short⟩
    rw [← firstFit_eq_none_iff]
    exact firstFit_of_fitting_empty unfit
  | shortBlock writes => cases writes <;> exact allocates.elim

/-- One that is short of records has them all in use. -/
theorem layout_of_noAllocators (reachable : Reachable q s)
    (code : (reply q s op).code = .noAllocators) :
    ∃ layout : Layout q.toConfig, q.maxAllocationCount ≤ layout.blocks.length := by
  have cause : Cause q s op (reply q s op).code :=
    cause_of_code reachable.wellFormed (by rw [code]; nofun)
  rw [code] at cause
  cases cause with
  | noAllocators needs unfit used =>
    obtain ⟨layout, memory, rfl⟩ := reachable.of_initialized needs.initialized
    refine ⟨layout, Nat.le_of_not_lt fun left => ?_⟩
    obtain ⟨index, inside, unused⟩ := exists_notUsed_iff.mpr left
    exact used index inside unused

end Shortage

/-! ### Limits -/

section Limits

variable {q : Placement}

/-- Memory is short, rather than records, while a record is left. -/
theorem refusal_eq_noMemory_iff {c : Config} {blocks : List Block} :
    refusal c blocks = .noMemory ↔ blocks.length < c.maxAllocationCount := by
  unfold refusal
  split <;> simp_all

/-- Live blocks of one size. -/
def Layout.replicate {c : Config} {count size : Nat} (capacity : IsCapacity c size)
    (slots : count ≤ c.maxAllocationCount) (room : count * size ≤ c.bufferMemorySize) :
    Layout c where
  blocks := List.replicate count ⟨size, true⟩
  length_le := List.length_replicate.trans_le slots
  extent_le := (extent_replicate count _).trans_le room
  capacity := fun _ member => (List.eq_of_mem_replicate member).symm ▸ capacity
  tight := tight_iff.mpr fun _ _ found _ =>
    congrArg Block.live (List.eq_of_mem_replicate (List.mem_of_getElem? found))

/-- What a request is told where there is no room for it. -/
theorem request_full {layout : Layout q.toConfig} (memory : Nat → UInt8) {size : Nat}
    (capacity : IsCapacity q.toConfig size) (full : ¬ Room q.toConfig layout.blocks size) :
    (reply q (layout.encode memory) (request size)).code = refusal q.toConfig layout.blocks := by
  rw [← roundUp_of_dvd q.alignment_pos capacity.multiple] at full
  exact congrArg Reply.code
    (yields_dsMalloc_full layout memory (blockAt_null _) capacity.positive capacity.bounded
      full).value

/-- Live blocks of one size, and the request for one more that either budget does not last for. -/
theorem exists_refused {size count : Nat} (capacity : IsCapacity q.toConfig size)
    (slots : count ≤ q.maxAllocationCount) (room : count * size ≤ q.bufferMemorySize)
    (last : count = q.maxAllocationCount ∨ q.bufferMemorySize < count * size + size) :
    ∃ s op, Reachable q s ∧ op.Allocates ∧
      (reply q s op).code =
        if count < q.maxAllocationCount then .noMemory else .noAllocators := by
  let layout : Layout q.toConfig := .replicate capacity slots room
  have full : ¬ Room q.toConfig layout.blocks size := by
    rintro (⟨block, member, fit⟩ | ⟨slot, space⟩)
    · rw [List.eq_of_mem_replicate member] at fit
      exact not_fits_of_live rfl fit
    · rw [show extent layout.blocks = count * size from extent_replicate _ _] at space
      rw [show layout.blocks.length = count from List.length_replicate] at slot
      omega
  refine ⟨_, request size, layout.reachable fun _ => 0, trivial, ?_⟩
  rw [request_full _ capacity full, refusal,
    show layout.blocks.length = count from List.length_replicate]

end Limits

/-- **Which shortages a build can run into.** Some run of the library comes to a call that reports
`ERROR_DS_NO_MEMORY` exactly if the arena is smaller than all records at the largest size, and to
one that reports `ERROR_DS_NO_ALLOCATORS` exactly if it holds all records at the least size. -/
theorem sizing (q : Placement) :
    ((∃ s op, Reachable q s ∧ op.Allocates ∧ (reply q s op).code = .noMemory) ↔
      q.bufferMemorySize < q.maxAllocationCount * q.maxAllocationSize) ∧
    ((∃ s op, Reachable q s ∧ op.Allocates ∧ (reply q s op).code = .noAllocators) ↔
      q.maxAllocationCount * q.alignment ≤ q.bufferMemorySize) := by
  refine ⟨⟨?_, fun small => ?_⟩, ?_, fun large => ?_⟩
  · rintro ⟨s, op, reachable, allocates, code⟩
    obtain ⟨layout, memory, size, -, -, small, -, slot, short⟩ :=
      layout_of_noMemory reachable allocates code
    have total := extent_le_mul fun block member => (layout.capacity block member).bounded
    have rounded := roundUp_le_maxSize small
    have scaled := Nat.mul_le_mul_right q.maxAllocationSize slot
    rw [Nat.succ_mul] at scaled
    omega
  · have count := Nat.div_mul_le_self q.bufferMemorySize q.maxAllocationSize
    have fewer : q.bufferMemorySize / q.maxAllocationSize < q.maxAllocationCount :=
      (Nat.div_lt_iff_lt_mul q.maxSize_pos).mpr small
    have short := Nat.lt_div_mul_add q.maxSize_pos (a := q.bufferMemorySize)
    obtain ⟨s, op, reachable, allocates, code⟩ := exists_refused
      ⟨q.maxSize_pos, q.alignment_dvd_maxSize, le_rfl⟩ fewer.le count (.inr short)
    exact ⟨s, op, reachable, allocates, code.trans (if_pos fewer)⟩
  · rintro ⟨s, op, reachable, allocates, code⟩
    obtain ⟨layout, used⟩ := layout_of_noAllocators reachable code
    have total := mul_le_extent fun block member =>
      Nat.le_of_dvd (layout.capacity block member).positive (layout.capacity block member).multiple
    have scaled := Nat.mul_le_mul_right q.alignment used
    exact scaled.trans (total.trans layout.extent_le)
  · obtain ⟨s, op, reachable, allocates, code⟩ := exists_refused
      ⟨q.alignment_pos, dvd_rfl, q.alignment_le_maxSize⟩ le_rfl large (.inl rfl)
    exact ⟨s, op, reachable, allocates, code.trans (if_neg (lt_irrefl _))⟩

/-! ### Fragmentation -/

section Fragmentation

variable {q : Placement}

/-- A parked block that does not fit a rounded size is smaller by one unit of the alignment. -/
theorem size_le_of_unfit {layout : Layout q.toConfig} {size : Nat}
    (unfit : ¬ ∃ block ∈ layout.blocks, fits (roundUp q.alignment size) block = true) :
    ∀ block ∈ layout.blocks, block.live = false →
      block.size ≤ roundUp q.alignment size - q.alignment := by
  intro block member parked
  have smaller : block.size < roundUp q.alignment size := by
    by_contra large
    exact unfit ⟨block, member, fits_iff.mpr ⟨parked, Nat.le_of_not_lt large⟩⟩
  obtain ⟨units, same⟩ := (layout.capacity block member).multiple
  obtain ⟨more, rounded⟩ := dvd_roundUp q.alignment size
  rw [same, rounded] at smaller ⊢
  have fewer := Nat.lt_of_mul_lt_mul_left smaller
  have scaled := Nat.mul_le_mul_left q.alignment (Nat.le_sub_one_of_lt fewer)
  rwa [Nat.mul_sub_one] at scaled

/-- One live block above parked ones. -/
def Layout.fragmented {c : Config} {count parked live : Nat}
    (lower : 0 < count → IsCapacity c parked) (upper : IsCapacity c live)
    (slots : count + 1 ≤ c.maxAllocationCount)
    (room : count * parked + live ≤ c.bufferMemorySize) : Layout c where
  blocks := List.replicate count ⟨parked, false⟩ ++ [⟨live, true⟩]
  length_le := by rwa [List.length_append, List.length_replicate, List.length_singleton]
  extent_le := by
    rwa [extent_append, extent_replicate, extent_cons, extent_nil, Nat.add_zero]
  capacity := by
    intro block member
    rcases List.mem_append.mp member with below | last
    · obtain ⟨some, rfl⟩ := List.mem_replicate.mp below
      exact lower (Nat.pos_of_ne_zero some)
    · exact List.mem_singleton.mp last ▸ upper
  tight := tight_concat_iff.mpr rfl

/-- As many parked blocks as the records and the arena allow leave too little for a request that the
bound excludes. -/
theorem exists_parked_count {arena live unit size records : Nat} (inside : live ≤ arena)
    (short : arena < live + records * (size - unit) + size) :
    ∃ count ≤ records, count * (size - unit) + live ≤ arena ∧
      arena < count * (size - unit) + live + size ∧ (0 < count → unit < size) := by
  refine ⟨min records ((arena - live) / (size - unit)), Nat.min_le_left _ _, ?_, ?_, ?_⟩
  · have room := Nat.div_mul_le_self (arena - live) (size - unit)
    have fewer := Nat.mul_le_mul_right (size - unit)
      (Nat.min_le_right records ((arena - live) / (size - unit)))
    omega
  · rcases Nat.le_total records ((arena - live) / (size - unit)) with all | most
    · rw [Nat.min_eq_left all]
      omega
    · rw [Nat.min_eq_right most]
      rcases Nat.eq_zero_or_pos (size - unit) with none | positive
      · rw [none, Nat.mul_zero] at short ⊢
        omega
      · have more := Nat.lt_div_mul_add positive (a := arena - live)
        omega
  · intro some
    by_contra small
    rw [Nat.sub_eq_zero_of_le (Nat.le_of_not_lt small), Nat.div_zero, Nat.min_zero] at some
    exact lt_irrefl 0 some

end Fragmentation

end Dynostatic
