/-
**The capacity of an instance without parked blocks.**

Where no block is parked, `ds_malloc` only adds blocks at the end. A list of requests then draws on
two budgets, the records and the aligned bytes of the arena, and goes on exactly while both last
(`run_pushes` for the requests that succeed, `request_pushed` and `request_refused` for the next
one). `bump_capacity` says which lists of requests succeed, where their blocks start, and otherwise
which request is the first to fail and with which code.
-/

import Dynostatic.Outcome

namespace Dynostatic

open Tracing Tracing.Traced Tiling Rounding Runs

variable {q : Placement}

/-! ### Lists of requests -/

/-- The request of a size through a variable that holds `NULL`. -/
def request (size : Nat) : Op := .malloc .self (some 0) size

/-- The reply to the request at an index of the list, after the requests before it. -/
def replyAt (q : Placement) (s : DynostaticBuffer) (sizes : List Nat) (index : Nat) : Reply :=
  reply q (run (next q) s ((sizes.take index).map fun size => .call (request size)))
    (request (sizes.getD index 0))

/-- The bytes of the arena that a list of requests takes. -/
def roundedSum (c : Config) (sizes : List Nat) : Nat := (sizes.map (roundUp c.alignment)).sum

/-- The records and the arena last for the first `count` requests of the list. -/
def Affords (c : Config) (s : DynostaticBuffer) (sizes : List Nat) (count : Nat) : Prop :=
  s.usedAllocators + count ≤ c.maxAllocationCount ∧
    s.dataHead + roundedSum c (sizes.take count) ≤ c.bufferMemorySize

theorem roundedSum_cons (c : Config) (size : Nat) (sizes : List Nat) :
    roundedSum c (size :: sizes) = roundUp c.alignment size + roundedSum c sizes := by
  unfold roundedSum
  rw [List.map_cons, List.sum_cons]

theorem roundedSum_take_succ (c : Config) {sizes : List Nat} {index : Nat}
    (inside : index < sizes.length) :
    roundedSum c (sizes.take (index + 1)) =
      roundedSum c (sizes.take index) + roundUp c.alignment (sizes.getD index 0) := by
  unfold roundedSum
  rw [List.take_add_one, List.getD_eq_getElem?_getD, List.getElem?_eq_getElem inside,
    Option.toList_some, List.map_append, List.sum_append, List.map_singleton, List.sum_singleton,
    Option.getD_some]

theorem Affords.of_succ {c : Config} {s : DynostaticBuffer} {sizes : List Nat} {count : Nat}
    (affords : Affords c s sizes (count + 1)) : Affords c s sizes count := by
  obtain ⟨slots, room⟩ := affords
  rcases Nat.lt_or_ge count sizes.length with inside | past
  · rw [roundedSum_take_succ c inside] at room
    exact ⟨by omega, by omega⟩
  · rw [List.take_of_length_le (by omega)] at room
    exact ⟨by omega, by rwa [List.take_of_length_le past]⟩

/-- One of the two is short where they do not last. -/
theorem not_affords_iff {c : Config} {s : DynostaticBuffer}
    (bound : s.dataHead ≤ c.bufferMemorySize) {sizes : List Nat} {count : Nat} :
    ¬ Affords c s sizes count ↔ c.maxAllocationCount < s.usedAllocators + count ∨
      c.bufferMemorySize - s.dataHead < roundedSum c (sizes.take count) := by
  unfold Affords
  omega

/-- Without a free record every block is live. -/
theorem all_live_of_no_free {layout : Layout q.toConfig} {memory : Nat → UInt8}
    (none : ∀ index < q.maxAllocationCount,
      ((layout.encode memory).allocators index).allocationStatus ≠ .free) :
    ∀ block ∈ layout.blocks, block.live = true := by
  rintro ⟨size, _ | _⟩ member
  · obtain ⟨index, found⟩ := List.mem_iff_getElem?.mp member
    exact absurd (records_free_iff.mpr ⟨size, found⟩) (none index (layout.lt_maxCount found))
  · rfl

/-! ### One request -/

section Request

variable {layout : Layout q.toConfig} (memory : Nat → UInt8) {size : Nat}
  (all : ∀ block ∈ layout.blocks, block.live = true) (positive : 0 < size)
  (small : size ≤ q.maxAllocationSize)

include all positive small

/-- **While both budgets last** a block is added at the end. -/
theorem request_pushed (slot : layout.blocks.length < q.maxAllocationCount)
    (room : extent layout.blocks + roundUp q.alignment size ≤ q.bufferMemorySize) :
    reply q (layout.encode memory) (request size) =
      ⟨.ok, (layout.push (isCapacity_roundUp positive small) slot room).encode memory,
        some (q.base + extent layout.blocks)⟩ :=
  (yields_dsMalloc_pushed layout memory (blockAt_null _) positive small
    (firstFit_of_all_live all _) slot room).value

/-- **Where one is used up** the request is refused. -/
theorem request_refused
    (stuck : ¬ (layout.blocks.length < q.maxAllocationCount ∧
      extent layout.blocks + roundUp q.alignment size ≤ q.bufferMemorySize)) :
    reply q (layout.encode memory) (request size) =
      ⟨refusal q.toConfig layout.blocks, layout.encode memory, some 0⟩ := by
  have full : ¬ Room q.toConfig layout.blocks (roundUp q.alignment size) := by
    rintro (⟨block, member, fit⟩ | room)
    · exact not_fits_of_live (all block member) fit
    · exact stuck room
  exact (yields_dsMalloc_full layout memory (blockAt_null _) positive small full).value

end Request

/-! ### Runs of requests -/

section Requests

variable (layout : Layout q.toConfig) (memory : Nat → UInt8) {sizes : List Nat}

/-- **Requests that both budgets last for** add their blocks one after the other. -/
theorem run_pushes (all : ∀ block ∈ layout.blocks, block.live = true)
    (good : ∀ size ∈ sizes, 0 < size ∧ size ≤ q.maxAllocationSize)
    (slots : layout.blocks.length + sizes.length ≤ q.maxAllocationCount)
    (room : extent layout.blocks + roundedSum q.toConfig sizes ≤ q.bufferMemorySize) :
    ∃ after : Layout q.toConfig,
      run (next q) (layout.encode memory) (sizes.map fun size => .call (request size)) =
        after.encode memory ∧
      (∀ block ∈ after.blocks, block.live = true) ∧
      after.blocks.length = layout.blocks.length + sizes.length ∧
      extent after.blocks = extent layout.blocks + roundedSum q.toConfig sizes := by
  induction sizes generalizing layout with
  | nil => exact ⟨layout, rfl, all, rfl, rfl⟩
  | cons size sizes ih =>
    obtain ⟨positive, small⟩ := good size List.mem_cons_self
    rw [List.length_cons] at slots
    rw [roundedSum_cons] at room
    have slot : layout.blocks.length < q.maxAllocationCount := by omega
    have fits : extent layout.blocks + roundUp q.alignment size ≤ q.bufferMemorySize := by omega
    have pushed := request_pushed memory all positive small slot fits
    let first := layout.push (isCapacity_roundUp positive small) slot fits
    have longer : first.blocks.length = layout.blocks.length + 1 := List.length_append
    have higher : extent first.blocks = extent layout.blocks + roundUp q.alignment size :=
      extent_append _ _
    have live : ∀ block ∈ first.blocks, block.live = true := by
      intro block member
      rcases List.mem_append.mp member with old | new
      · exact all block old
      · rw [List.mem_singleton.mp new]
    obtain ⟨after, reached, every, length, total⟩ := ih first live
      (fun size' member => good size' (List.mem_cons_of_mem _ member)) (by omega) (by omega)
    refine ⟨after, ?_, every, ?_, ?_⟩
    · show run (next q) (reply q (layout.encode memory) (request size)).buffer _ = _
      rw [pushed]
      exact reached
    · rw [length, longer, List.length_cons]
      omega
    · rw [total, higher, roundedSum_cons]
      omega

/-- **The reply to the first request that may fail.** -/
theorem replyAt_of_affords (all : ∀ block ∈ layout.blocks, block.live = true)
    (good : ∀ size ∈ sizes, 0 < size ∧ size ≤ q.maxAllocationSize) {index : Nat}
    (inside : index < sizes.length)
    (affords : Affords q.toConfig (layout.encode memory) sizes index) :
    (Affords q.toConfig (layout.encode memory) sizes (index + 1) →
      (replyAt q (layout.encode memory) sizes index).code = .ok ∧
      (replyAt q (layout.encode memory) sizes index).cell =
        some (q.base + (extent layout.blocks + roundedSum q.toConfig (sizes.take index)))) ∧
    (¬ Affords q.toConfig (layout.encode memory) sizes (index + 1) →
      (replyAt q (layout.encode memory) sizes index).code =
        if q.maxAllocationCount < layout.blocks.length + (index + 1) then .noAllocators
        else .noMemory) := by
  have counted : liveCount layout.blocks = layout.blocks.length := liveCount_eq_length_iff.mpr all
  have taken : (sizes.take index).length = index := List.length_take_of_le inside.le
  have member : sizes.getD index 0 ∈ sizes := by
    rw [List.getD_eq_getElem?_getD, List.getElem?_eq_getElem inside, Option.getD_some]
    exact List.getElem_mem inside
  obtain ⟨positive, small⟩ := good _ member
  obtain ⟨slots, room⟩ := affords
  have slots' : liveCount layout.blocks + index ≤ q.maxAllocationCount := slots
  obtain ⟨after, reached, every, length, total⟩ := run_pushes layout memory all
    (fun size listed => good size (List.mem_of_mem_take listed)) (by omega) room
  have more : Affords q.toConfig (layout.encode memory) sizes (index + 1) ↔
      after.blocks.length < q.maxAllocationCount ∧
        extent after.blocks + roundUp q.alignment (sizes.getD index 0) ≤ q.bufferMemorySize := by
    show liveCount layout.blocks + (index + 1) ≤ _ ∧ extent layout.blocks + _ ≤ _ ↔ _
    rw [roundedSum_take_succ q.toConfig inside, length, total, taken, counted]
    omega
  unfold replyAt
  rw [reached, more]
  refine ⟨fun both => ?_, fun stuck => ?_⟩
  · rw [request_pushed memory every positive small both.1 both.2]
    exact ⟨rfl, congrArg (fun offset => some (q.base + offset)) total⟩
  · rw [request_refused memory every positive small stuck]
    -- a full table is told before a short arena
    show (if after.blocks.length < q.maxAllocationCount then _ else _) = _
    rw [length, taken]
    exact (ite_not _ _ _).symm.trans (if_congr (by omega) rfl rfl)

/-- A request succeeds exactly if both budgets last for one more. -/
theorem replyAt_ok_iff (all : ∀ block ∈ layout.blocks, block.live = true)
    (good : ∀ size ∈ sizes, 0 < size ∧ size ≤ q.maxAllocationSize) {index : Nat}
    (inside : index < sizes.length)
    (affords : Affords q.toConfig (layout.encode memory) sizes index) :
    (replyAt q (layout.encode memory) sizes index).code = .ok ↔
      Affords q.toConfig (layout.encode memory) sizes (index + 1) := by
  obtain ⟨lasts, fails⟩ := replyAt_of_affords layout memory all good inside affords
  refine ⟨fun ok => ?_, fun more => (lasts more).1⟩
  by_contra stuck
  rw [fails stuck] at ok
  split at ok <;> cases ok

end Requests

/-- **Exact bump capacity.** In a reachable initialized instance without a parked block, for a list
of sizes that `ds_malloc` accepts, each requested through a variable that holds `NULL`: all requests
succeed exactly when the records last for their number and the arena for their aligned sizes, and
the blocks then lie one after the other from `data_head`. Otherwise the first request to fail is the
first one that either does not last for, and the code names the records where both are short. -/
theorem bump_capacity {s : DynostaticBuffer} (reachable : Reachable q s)
    (initialized : s.initMagic = dsMagicNumber)
    (none : ∀ index < q.maxAllocationCount, (s.allocators index).allocationStatus ≠ .free)
    (sizes : List Nat) (good : ∀ size ∈ sizes, 1 ≤ size ∧ size ≤ q.maxAllocationSize) :
    ((∀ i < sizes.length, (replyAt q s sizes i).code = .ok) ↔
      s.usedAllocators + sizes.length ≤ q.maxAllocationCount ∧
        s.dataHead + roundedSum q.toConfig sizes ≤ q.bufferMemorySize) ∧
    ((∀ i < sizes.length, (replyAt q s sizes i).code = .ok) →
      ∀ i < sizes.length, (replyAt q s sizes i).cell =
        some (q.base + (s.dataHead + roundedSum q.toConfig (sizes.take i)))) ∧
    ∀ i, (IsLeast {j | j < sizes.length ∧ (replyAt q s sizes j).code ≠ .ok} i ↔
        IsLeast {j | j < sizes.length ∧ (q.maxAllocationCount < s.usedAllocators + (j + 1) ∨
          q.bufferMemorySize - s.dataHead < roundedSum q.toConfig (sizes.take (j + 1)))} i) ∧
      (IsLeast {j | j < sizes.length ∧ (replyAt q s sizes j).code ≠ .ok} i →
        (replyAt q s sizes i).code =
          if q.maxAllocationCount < s.usedAllocators + (i + 1) then .noAllocators
          else .noMemory) := by
  obtain ⟨layout, memory, rfl⟩ := reachable.of_initialized initialized
  have all := all_live_of_no_free none
  have used : (layout.encode memory).usedAllocators = layout.blocks.length :=
    liveCount_eq_length_iff.mpr all
  have slots := layout.length_le
  have bound : (layout.encode memory).dataHead ≤ q.bufferMemorySize := layout.extent_le
  have first : Affords q.toConfig (layout.encode memory) sizes 0 := ⟨by omega, bound⟩
  have lower : ∀ i, Affords q.toConfig (layout.encode memory) sizes (i + 1) →
      Affords q.toConfig (layout.encode memory) sizes i := fun _ => Affords.of_succ
  have answers := fun i (inside : i < sizes.length) =>
    replyAt_of_affords layout memory all good inside
  have step := fun i (inside : i < sizes.length) =>
    replyAt_ok_iff layout memory all good inside
  refine ⟨?_, fun every i inside => ?_, fun i => ⟨?_, fun least => ?_⟩⟩
  · rw [forall_ok_iff first lower step, Affords, List.take_length]
  · have affords := lasts_of_ok first step inside.le fun j below => every j (below.trans inside)
    exact ((answers i inside affords).1 ((step i inside affords).mp (every i inside))).2
  · rw [isLeast_failing_iff first lower step]
    simp only [not_affords_iff bound]
  · obtain ⟨inside, failed⟩ := least.1
    have affords := lasts_of_isLeast_failing first step least
    rw [used]
    exact (answers i inside affords).2 fun more => failed ((step i inside affords).mpr more)

/-- Two small blocks are live. Three requests of the largest size succeed, and the fourth is the
first to fail. -/
theorem bump_capacity_fourth :
    (replyAt defaultPlacement twoLive [256, 256, 256] 2).cell = some 4632 ∧
      (replyAt defaultPlacement twoLive [256, 256, 256, 256] 3).code = .noMemory := by
  constructor
  · obtain ⟨all, cells, -⟩ :=
      bump_capacity twoLive_reachable rfl (by decide) [256, 256, 256] (by decide)
    exact cells (all.mpr (by decide)) 2 (by decide)
  · obtain ⟨-, -, failing⟩ :=
      bump_capacity twoLive_reachable rfl (by decide) [256, 256, 256, 256] (by decide)
    have three : ∀ j < 3,
        ¬ (defaultPlacement.maxAllocationCount < twoLive.usedAllocators + (j + 1) ∨
          defaultPlacement.bufferMemorySize - twoLive.dataHead <
            roundedSum defaultPlacement.toConfig ([256, 256, 256, 256].take (j + 1))) := by decide
    refine (failing 3).2 ((failing 3).1.mpr ⟨by decide, ?_⟩)
    rintro j ⟨-, short⟩
    exact Nat.le_of_not_lt fun below => three j below short

end Dynostatic
