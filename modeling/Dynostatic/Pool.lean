/-
**Blocks of one size.**

A client whose requests all round up to one size uses the instance as a pool. Then no block is ever
grown or moved, a parked block fits every request, and so a request succeeds exactly while fewer
than `min N (B / unit)` blocks are live, in whatever order they were taken and freed before: a pool
does not fragment.

* `Pooled.next` — one step keeps every block at the size;
* `room_iff_of_pooled` — what is left is a matter of counting the live blocks;
* `pool_exact` — the answers of a pool, in every state a run of it leads to.
-/

import Dynostatic.Machine
import Dynostatic.Retention

namespace Dynostatic

open Tracing Tracing.Traced Tiling Rounding Runs

variable {q : Placement}

/-- The sizes that the client asks for and that can be served round up to the unit. -/
def Uniform (q : Placement) (unit : Nat) (_ : DynostaticBuffer) (action : Action) : Prop :=
  ∀ op, action = .call op → ∀ size ∈ op.requested, 0 < size → size ≤ q.maxAllocationSize →
    roundUp q.alignment size = unit

/-- Every block has the size of the unit. -/
def Pooled (q : Placement) (unit : Nat) (s : DynostaticBuffer) : Prop :=
  ∀ blocks ∈ inventory q s, ∀ block ∈ blocks, block.size = unit

/-- How many blocks of a size an instance holds. -/
def poolSize (c : Config) (unit : Nat) : Nat := min c.maxAllocationCount (c.bufferMemorySize / unit)

section Blocks

variable {unit : Nat} {layout : Layout q.toConfig} {memory : Nat → UInt8}

theorem pooled_encode_iff :
    Pooled q unit (layout.encode memory) ↔ ∀ block ∈ layout.blocks, block.size = unit := by
  unfold Pooled
  rw [inventory_encode]
  exact ⟨fun pooled => pooled _ rfl, fun all blocks same => Option.some.inj same ▸ all⟩

theorem pooled_uninitialized {s : DynostaticBuffer} (raw : s.initMagic ≠ dsMagicNumber) :
    Pooled q unit s := by
  unfold Pooled
  rw [inventory_uninitialized raw]
  nofun

/-- A mark keeps the sizes. -/
theorem size_mark {blocks : List Block} (all : ∀ block ∈ blocks, block.size = unit) (index : Nat)
    (live : Bool) : ∀ block ∈ mark blocks index live, block.size = unit := by
  intro block member
  have sizes : block.size ∈ blocks.map Block.size := by
    rw [← map_size_mark blocks index live]
    exact List.mem_map_of_mem member
  obtain ⟨old, listed, same⟩ := List.mem_map.mp sizes
  exact same ▸ all old listed

theorem size_release {blocks : List Block} (all : ∀ block ∈ blocks, block.size = unit)
    (index : Nat) : ∀ block ∈ release blocks index, block.size = unit :=
  fun block member => size_mark all index false block ((prefix_strip _).subset member)

theorem size_placed {blocks after : List Block} {index : Nat}
    (all : ∀ block ∈ blocks, block.size = unit) (placed : Placed blocks unit after index) :
    ∀ block ∈ after, block.size = unit := by
  cases placed with
  | revived found large => exact size_mark all _ true
  | pushed => exact List.forall_mem_append.mpr ⟨all, List.forall_mem_singleton.mpr rfl⟩

/-- Blocks of one size. -/
theorem extent_of_size {blocks : List Block} (all : ∀ block ∈ blocks, block.size = unit) :
    extent blocks = blocks.length * unit := by
  induction blocks with
  | nil => exact (Nat.zero_mul _).symm
  | cons block blocks ih =>
    rw [extent_cons, ih fun other member => all other (List.mem_cons_of_mem _ member),
      all block List.mem_cons_self, List.length_cons, Nat.succ_mul, Nat.add_comm]

end Blocks

/-! ### One step -/

section Step

variable {unit : Nat} {layout : Layout q.toConfig} {memory : Nat → UInt8} {op : Op} {r : Reply}

/-- **A call whose request is of the unit keeps the pool.** No block is grown or moved for it. -/
theorem Outcome.pooled (outcome : Outcome q layout memory op r)
    (all : ∀ block ∈ layout.blocks, block.size = unit)
    (uniform : ∀ size ∈ op.requested, 0 < size → size ≤ q.maxAllocationSize →
      roundUp q.alignment size = unit) : Pooled q unit r.buffer := by
  -- a live block is large enough for every size it may be resized to
  have fits : ∀ {p index capacity size : Nat}, op = .realloc .self (some p) size →
      layout.blocks[index]? = some ⟨capacity, true⟩ → 0 < size → size ≤ q.maxAllocationSize →
        ¬ capacity < roundUp q.alignment size := by
    rintro p index capacity size rfl found positive small
    have capacity_eq : capacity = unit := all _ (List.mem_of_getElem? found)
    rw [uniform size (if_neg positive.ne') positive small, capacity_eq]
    exact lt_irrefl unit
  cases outcome with
  | failed => exact pooled_encode_iff.mpr all
  | reported => exact pooled_encode_iff.mpr all
  | ended => exact pooled_uninitialized nofun
  | placed requests positive small _ placed =>
    rw [uniform _ (requests.requested_eq positive) positive small] at placed
    exact pooled_encode_iff.mpr (size_placed all placed)
  | released => exact pooled_encode_iff.mpr (size_release all _)
  | kept => exact pooled_encode_iff.mpr all
  | grown last positive small more =>
    exact absurd more (fits rfl (getElem?_of_last last) positive small)
  | moved found positive small more => exact absurd more (fits rfl found positive small)
  | written => exact pooled_encode_iff.mpr all

theorem Pooled.next {s : DynostaticBuffer} {action : Action}
    (pooled : WellFormed q s ∧ Pooled q unit s) (uniform : Uniform q unit s action) :
    WellFormed q (next q s action) ∧ Pooled q unit (next q s action) := by
  obtain ⟨formed, all⟩ := pooled
  refine ⟨formed.next action, ?_⟩
  rcases action with op | ⟨offset, byte⟩
  · rcases formed with raw | ⟨layout, memory, rfl⟩
    · rcases reply_uninitialized (q := q) raw op with same | armed
      · show Pooled q unit (reply q s op).buffer
        rwa [same]
      · show Pooled q unit (reply q s op).buffer
        rw [armed, pooled_encode_iff]
        exact fun block member => absurd member List.not_mem_nil
    · exact (reply_outcome layout memory op).pooled (pooled_encode_iff.mp all) (uniform op rfl)
  · unfold Pooled
    show ∀ blocks ∈ inventory q { s with memory := _ }, _
    rw [inventory_storeByte]
    exact all

end Step

/-! ### The answers -/

section Answers

variable {unit : Nat} {layout : Layout q.toConfig} {memory : Nat → UInt8}
  (all : ∀ block ∈ layout.blocks, block.size = unit) (positive : 0 < unit)

include all positive

/-- The blocks of a pool are within its size. -/
theorem length_le_poolSize : layout.blocks.length ≤ poolSize q.toConfig unit := by
  have bound := layout.extent_le
  rw [extent_of_size all] at bound
  exact le_min layout.length_le ((Nat.le_div_iff_mul_le positive).mpr bound)

/-- **There is room exactly while not all blocks of the pool are live.** -/
theorem room_iff_of_pooled :
    Room q.toConfig layout.blocks unit ↔ liveCount layout.blocks < poolSize q.toConfig unit := by
  have within := length_le_poolSize all positive
  have counted := liveCount_le_length layout.blocks
  constructor
  · rintro (⟨block, member, fit⟩ | ⟨slot, room⟩)
    · obtain ⟨index, found⟩ := List.mem_iff_getElem?.mp member
      exact (liveCount_lt_length found (fits_iff.mp fit).1).trans_le within
    · rw [extent_of_size all, ← Nat.succ_mul] at room
      exact counted.trans_lt (lt_min slot ((Nat.le_div_iff_mul_le positive).mpr room))
  · intro left
    by_cases full : liveCount layout.blocks = layout.blocks.length
    · -- every block is live, so there is space above them
      rw [full] at left
      obtain ⟨slot, room⟩ := lt_min_iff.mp left
      refine .inr ⟨slot, ?_⟩
      rw [extent_of_size all, ← Nat.succ_mul]
      exact (Nat.le_div_iff_mul_le positive).mp room
    · obtain ⟨block, member, parked⟩ : ∃ block ∈ layout.blocks, ¬ block.live = true := by
        by_contra none
        exact full (liveCount_eq_length_iff.mpr fun block member =>
          by_contra fun parked => none ⟨block, member, parked⟩)
      refine .inl ⟨block, member, fits_iff.mpr ⟨?_, (all block member).ge⟩⟩
      exact Bool.eq_false_iff.mpr parked

/-- What a full pool lacks. -/
theorem refusal_of_pooled (full : ¬ Room q.toConfig layout.blocks unit) :
    refusal q.toConfig layout.blocks =
      if q.maxAllocationCount ≤ q.bufferMemorySize / unit then .noAllocators else .noMemory := by
  have within := length_le_poolSize all positive
  have counted := liveCount_le_length layout.blocks
  rw [room_iff_of_pooled all positive, Nat.not_lt] at full
  have same : layout.blocks.length = poolSize q.toConfig unit := by omega
  unfold refusal
  rw [same, poolSize]
  by_cases records : q.maxAllocationCount ≤ q.bufferMemorySize / unit
  · rw [if_pos records, min_eq_left records, if_neg (lt_irrefl _)]
  · have short := Nat.lt_of_not_le records
    rw [if_neg records, min_eq_right short.le, if_pos short]

end Answers

/-- **The answers of a pool.** In every initialized state of a run whose requests round up to the
unit: live blocks have the size of the unit; a request succeeds exactly while fewer than
`min N (B / unit)` of them are live, and otherwise fails with the code of what the build has less
of; and a live block is resized without any change. -/
theorem pool_exact {unit : Nat} {first : DynostaticBuffer} (fresh : first.initMagic ≠ dsMagicNumber)
    {actions : List Action} (uniform : Obeys (next q) (Uniform q unit) first actions)
    {s : DynostaticBuffer} (reached : run (next q) first actions = s)
    (initialized : s.initMagic = dsMagicNumber) :
    (∀ p capacity, LiveBlock q s p capacity → capacity = unit) ∧
      ∀ size, 0 < size → size ≤ q.maxAllocationSize → roundUp q.alignment size = unit →
        (∀ op p zeroed, op.Requests p size zeroed → (∀ capacity, ¬ LiveBlock q s p capacity) →
          (reply q s op).code =
            if s.usedAllocators < poolSize q.toConfig unit then .ok
            else if q.maxAllocationCount ≤ q.bufferMemorySize / unit then .noAllocators
            else .noMemory) ∧
        ∀ p capacity, LiveBlock q s p capacity →
          reply q s (.realloc .self (some p) size) = ⟨.ok, s, some p⟩ := by
  have steps : ∀ state action, Uniform q unit state action →
      WellFormed q state ∧ Pooled q unit state →
        WellFormed q (next q state action) ∧ Pooled q unit (next q state action) :=
    fun _ _ uniform pooled => Pooled.next pooled uniform
  obtain ⟨formed, pooled⟩ := run_invariant steps actions first uniform
    ⟨.inl fresh, pooled_uninitialized fresh⟩
  rw [reached] at formed pooled
  obtain ⟨layout, memory, rfl⟩ := formed.encoded initialized
  have all := pooled_encode_iff.mp pooled
  refine ⟨fun p capacity live => ?_, fun size positive small unit_eq =>
    ⟨fun op p zeroed requests dead => ?_, fun p capacity live => ?_⟩⟩
  · obtain ⟨index, found, -⟩ := live.index
    exact all _ (List.mem_of_getElem? found)
  · have unit_pos : 0 < unit := unit_eq ▸ roundUp_pos positive
    have absent : blockAt q layout.blocks p = none := not_liveBlock_encode_iff.mp dead
    have room := room_iff_of_pooled all unit_pos
    show _ = if liveCount layout.blocks < _ then _ else _
    by_cases left : liveCount layout.blocks < poolSize q.toConfig unit
    · rw [if_pos left]
      exact code_of_room memory requests positive small absent (unit_eq ▸ room.mpr left)
    · have full : ¬ Room q.toConfig layout.blocks unit := fun some => left (room.mp some)
      rw [if_neg left, ← refusal_of_pooled all unit_pos full]
      exact code_of_full memory requests positive small absent (unit_eq ▸ full)
  · obtain ⟨index, found, rfl⟩ := live.index
    have capacity_eq : capacity = unit := all _ (List.mem_of_getElem? found)
    exact realloc_keeps found positive small (capacity_eq ▸ unit_eq.le)

/-- Blocks of 12 bytes, the first one freed and taken again. -/
def poolOfTwelve : List Action :=
  [.call (.initializeAllocation .self), .call (.malloc .self (some 0) 10),
    .call (.calloc .self (some 0) 3 4), .call (.free .self (some 4096)),
    .call (.malloc .self (some 0) 9), .call (.realloc .self (some 4108) 11)]

theorem pool_exact_twelve :
    (reply defaultPlacement (run (next defaultPlacement) zeroBuffer poolOfTwelve)
      (.malloc .self (some 0) 10)).code = .ok := by
  have uniform : Obeys (next defaultPlacement) (Uniform defaultPlacement 12) zeroBuffer
      poolOfTwelve := by
    refine ⟨?_, ?_, ?_, ?_, ?_, ?_, trivial⟩ <;> rintro op ⟨⟩ size asked - - <;> cases asked <;> rfl
  obtain ⟨-, answers⟩ := pool_exact zeroBuffer_fresh uniform rfl rfl
  obtain ⟨codes, -⟩ := answers 10 (by decide) (by decide) rfl
  have dead : ∀ capacity, ¬ LiveBlock defaultPlacement
      (run (next defaultPlacement) zeroBuffer poolOfTwelve) 0 capacity := by
    rintro capacity ⟨-, index, -, -, -, null⟩
    exact absurd null (Nat.ne_of_lt (Nat.lt_of_lt_of_le (by decide) (Nat.le_add_right 4096 _)))
  exact (codes _ 0 0 (.malloc 0 10) dead).trans (by decide)

end Dynostatic
