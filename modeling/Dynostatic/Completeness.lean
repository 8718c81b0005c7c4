/-
**The representation invariant leaves nothing out.**

`representation_invariant` says that every initialized state of a run meets `RepInv`. Here the other
half: every record table that meets it is the table of some run, over every arena. So `RepInv` is
the strongest invariant there is, and what holds of the instances of all layouts is all that can be
said about reachable states (`reachable_iff_repInv`).

* `RepInv.exists_layout` — a structure that meets the invariant is the instance of a layout, read
  off its records;
* `Layout.reachable` — a run that leads to a layout: its blocks are requested one after the other,
  the parked ones are freed, and the client stores the bytes.
-/

import Dynostatic.Bump
import Dynostatic.Invariant
import Dynostatic.Machine

namespace Dynostatic

open Tracing Tracing.Traced Tiling Rounding Bytes Runs

variable {q : Placement}

/-! ### Runs to a layout -/

section Runs

/-- The client stores the bytes of `memory` below `count`. -/
theorem run_stores (s : DynostaticBuffer) (memory : Nat → UInt8) (count : Nat) :
    run (next q) s ((List.range count).map fun offset => .store offset (memory offset)) =
      { s with memory := fun offset => if offset < count then memory offset else s.memory offset }
      := by
  induction count with
  | zero => rfl
  | succ count ih =>
    rw [List.range_succ, List.map_append, run_append, ih]
    show { s with memory := Function.update (fun offset => if offset < count then memory offset
      else s.memory offset) count (memory count) } = _
    congr 1
    funext offset
    rcases Nat.lt_trichotomy offset count with below | rfl | above
    · rw [Function.update_of_ne below.ne, if_pos below, if_pos (by omega)]
    · rw [Function.update_self, if_pos (by omega)]
    · rw [Function.update_of_ne above.ne', if_neg above.not_gt, if_neg (Nat.not_lt.mpr above)]

/-- Any bytes can be stored into the arena of a reachable state. -/
theorem Reachable.store_bytes {s : DynostaticBuffer} (reachable : Reachable q s)
    {memory : Nat → UInt8} (same : ∀ offset, q.bufferMemorySize ≤ offset →
      s.memory offset = memory offset) : Reachable q { s with memory } := by
  have reached := reachable.run
    ((List.range q.bufferMemorySize).map fun offset => .store offset (memory offset))
  rw [run_stores] at reached
  convert reached using 2
  funext offset
  by_cases inside : offset < q.bufferMemorySize
  · rw [if_pos inside]
  · rw [if_neg inside, same offset (by omega)]

variable {layout : Layout q.toConfig}

/-- What a call leaves in a reachable state is reachable. -/
theorem Reachable.of_reply {s : DynostaticBuffer} (reachable : Reachable q s) {op : Op} {r : Reply}
    (replied : reply q s op = r) : Reachable q r.buffer :=
  replied ▸ reachable.run [.call op]

/-- A request that both budgets last for leads to the layout with its block. -/
theorem reachable_push {memory : Nat → UInt8} (reachable : Reachable q (layout.encode memory))
    (all : ∀ block ∈ layout.blocks, block.live = true) {size : Nat}
    (capacity : IsCapacity q.toConfig size)
    (slot : layout.blocks.length < q.maxAllocationCount)
    (room : extent layout.blocks + size ≤ q.bufferMemorySize) :
    Reachable q ((layout.push capacity slot room).encode memory) := by
  have rounded : roundUp q.alignment size = size :=
    roundUp_of_dvd q.alignment_pos capacity.multiple
  have reached := reachable.of_reply (request_pushed memory all capacity.positive capacity.bounded
    slot (rounded.symm ▸ room))
  convert reached using 3
  exact rounded.symm

/-- A block below the last can be parked. -/
theorem reachable_of_revive {memory : Nat → UInt8} {index size : Nat}
    (found : layout.blocks[index]? = some ⟨size, false⟩)
    (reachable : Reachable q ((layout.revive index).encode memory)) :
    Reachable q (layout.encode memory) := by
  have live : (layout.revive index).blocks[index]? = some ⟨size, true⟩ :=
    getElem?_mark_self found true
  have ends : start (layout.revive index).blocks index + size ≤ q.bufferMemorySize :=
    (layout.revive index).end_le live
  have replied : reply q ((layout.revive index).encode memory) (.free .self
      (some (q.base + start (layout.revive index).blocks index))) = _ :=
    (yields_dsFree_live (layout.revive index) memory live).value
  have restored : Reachable q (((layout.revive index).release index).encode memory) :=
    (reachable.of_reply replied).store_bytes fun offset outside =>
      scrub_outside (.inr (ends.trans outside))
  have released : ((layout.revive index).release index).blocks = layout.blocks := by
    show strip (mark (mark layout.blocks index true) index false) = layout.blocks
    rw [mark_mark found true]
    exact layout.tight
  rwa [Layout.encode, released] at restored

/-- **A run leads to every layout without a parked block.** -/
theorem reachable_of_all_live (memory : Nat → UInt8) (blocks : List Block)
    (layout : Layout q.toConfig) (same : layout.blocks = blocks)
    (all : ∀ block ∈ blocks, block.live = true) : Reachable q (layout.encode memory) := by
  induction blocks using List.reverseRecOn generalizing layout with
  | nil =>
    have fresh : ({ zeroBuffer with memory } : DynostaticBuffer).initMagic ≠ dsMagicNumber :=
      zeroBuffer_fresh
    have reachable := Reachable.freshInstance (q := q) fresh
    rw [freshInstance_eq fresh] at reachable
    have restored : Reachable q ((Layout.empty q.toConfig).encode memory) :=
      reachable.store_bytes fun offset outside =>
        fill_outside (.inr ((Nat.zero_add _).trans_le outside))
    rw [Layout.encode, same]
    exact restored
  | append_singleton front block ih =>
    obtain ⟨size, live⟩ := block
    obtain rfl : live = true := all _ (List.mem_append_right _ List.mem_cons_self)
    have lower : ∀ block ∈ front, block.live = true := fun block member =>
      all block (List.mem_append_left _ member)
    have slots := layout.length_le
    have space := layout.extent_le
    rw [same, List.length_append, List.length_singleton] at slots
    rw [same, extent_append, extent_cons, extent_nil, Nat.add_zero] at space
    let below : Layout q.toConfig :=
      { blocks := front
        length_le := Nat.le_of_succ_le slots
        extent_le := (Nat.le_add_right _ _).trans space
        capacity := fun block member =>
          layout.capacity block (same ▸ List.mem_append_left _ member)
        tight := tight_iff.mpr fun _ block found _ => lower block (List.mem_of_getElem? found) }
    have capacity : IsCapacity q.toConfig size :=
      layout.capacity ⟨size, true⟩ (same ▸ List.mem_append_right _ List.mem_cons_self)
    have reached := reachable_push (ih below rfl lower) lower capacity slots space
    rw [Layout.encode, same]
    exact reached

/-- **A run leads to every layout, over every arena.** -/
theorem Layout.reachable (layout : Layout q.toConfig) (memory : Nat → UInt8) :
    Reachable q (layout.encode memory) := by
  -- on the number of parked blocks
  obtain ⟨parked, counted⟩ := Nat.exists_eq_add_of_le (liveCount_le_length layout.blocks)
  induction parked generalizing layout with
  | zero =>
    exact reachable_of_all_live memory _ layout rfl (liveCount_eq_length_iff.mp counted.symm)
  | succ parked ih =>
    have fewer : ¬ ∀ block ∈ layout.blocks, block.live = true := by
      rw [← liveCount_eq_length_iff]
      omega
    obtain ⟨⟨size, live⟩, dead⟩ := not_forall.mp fewer
    obtain ⟨member, dead⟩ := Classical.not_imp.mp dead
    obtain rfl : live = false := Bool.eq_false_iff.mpr dead
    obtain ⟨index, found⟩ := List.mem_iff_getElem?.mp member
    have more : liveCount (mark layout.blocks index true) = liveCount layout.blocks + 1 :=
      liveCount_mark true found
    refine reachable_of_revive found (ih (layout.revive index) ?_)
    show (mark layout.blocks index true).length = liveCount (mark layout.blocks index true) + parked
    rw [length_mark, more]
    omega

end Runs

/-! ### The layout of a record table -/

section Records

variable {c : Config} {s : DynostaticBuffer}

/-- The blocks of a table, one for each record up to the first unused one. -/
theorem getElem?_blocksFrom (rest iter index : Nat) (block : Block) :
    (blocksFrom s rest iter)[index]? = some block ↔
      index < rest ∧ (∀ below ≤ index, Touched s (iter + below)) ∧
        (s.allocators (iter + index)).block = block := by
  induction rest generalizing iter index with
  | zero => simp [blocksFrom]
  | succ rest ih =>
    unfold blocksFrom
    by_cases unused : (s.allocators iter).allocationStatus = .notUsed
    · rw [if_pos unused]
      exact iff_of_false (by simp) fun all => all.2.1 0 (Nat.zero_le _) unused
    · rw [if_neg unused]
      cases index with
      | zero =>
        rw [List.getElem?_cons_zero, Option.some_inj]
        refine ⟨fun same => ⟨Nat.succ_pos _, fun below first => ?_, same⟩, fun all => all.2.2⟩
        rw [Nat.le_zero.mp first]
        exact unused
      | succ index =>
        rw [List.getElem?_cons_succ, ih, Nat.succ_lt_succ_iff, Nat.add_right_comm, Nat.add_assoc]
        refine and_congr_right fun _ => and_congr_left fun _ => ⟨fun above below inside => ?_,
          fun all below inside => ?_⟩
        · cases below with
          | zero => exact unused
          | succ below =>
            have touched := above below (Nat.le_of_succ_le_succ inside)
            rwa [Nat.add_right_comm, Nat.add_assoc] at touched
        · rw [Nat.add_right_comm, Nat.add_assoc]
          exact all (below + 1) (Nat.succ_le_succ inside)

/-- The blocks of the table of a structure. -/
def tableBlocks (c : Config) (s : DynostaticBuffer) : List Block :=
  blocksFrom s c.maxAllocationCount 0

/-- A record in use is the record of its block. -/
theorem recordOf_block {record : DsAllocator} (used : record.allocationStatus ≠ .notUsed) :
    recordOf record.head record.block = record := by
  obtain ⟨head, size, status⟩ := record
  cases status with
  | notUsed => exact absurd rfl used
  | allocated => rfl
  | free => rfl

variable (inv : RepInv c s)

include inv

/-- In a compact table every touched record has its block. -/
theorem RepInv.getElem?_tableBlocks {index : Nat} {block : Block} :
    (tableBlocks c s)[index]? = some block ↔
      index < c.maxAllocationCount ∧ Touched s index ∧ (s.allocators index).block = block := by
  rw [tableBlocks, getElem?_blocksFrom, Nat.zero_add]
  refine and_congr_right fun slot => and_congr_left fun _ => ⟨fun all => ?_, fun touched => ?_⟩
  · rw [← Nat.zero_add index]
    exact all index le_rfl
  · intro below inside
    rw [Nat.zero_add]
    by_contra unused
    rw [Touched, inv.compact below index inside slot unused] at touched
    exact touched rfl

/-- The last block of the table is that of the last touched record. -/
theorem RepInv.lastTouched {index : Nat} (top : index + 1 = (tableBlocks c s).length) :
    LastTouched c s index := by
  obtain ⟨block, found⟩ := exists_getElem? (Nat.lt_of_succ_le top.le)
  obtain ⟨slot, touched, -⟩ := inv.getElem?_tableBlocks.mp found
  refine ⟨slot, touched, ?_⟩
  by_contra above
  obtain ⟨more, touched'⟩ := not_or.mp above
  have found' := inv.getElem?_tableBlocks.mpr ⟨by omega, not_not.mp touched', rfl⟩
  have inside := lt_length_of_getElem? found'
  omega

/-- Each block starts where its record says. -/
theorem RepInv.start_tableBlocks {index : Nat} (slot : index < c.maxAllocationCount)
    (touched : Touched s index) : start (tableBlocks c s) index = (s.allocators index).head := by
  induction index with
  | zero => rw [start_zero, inv.head_zero touched]
  | succ index ih =>
    have touched' : Touched s index := by
      intro unused
      rw [Touched, inv.compact index (index + 1) (Nat.le_succ _) slot (not_not.mpr unused)]
        at touched
      exact touched rfl
    have found := inv.getElem?_tableBlocks.mpr ⟨Nat.lt_of_succ_lt slot, touched', rfl⟩
    rw [start_succ found, ih (Nat.lt_of_succ_lt slot) touched', inv.head_succ index slot touched]
    rfl

/-- **The table of the blocks of a table is the table.** -/
theorem RepInv.records_tableBlocks
    (beyond : ∀ index, c.maxAllocationCount ≤ index → s.allocators index = DsAllocator.zero) :
    records (tableBlocks c s) = s.allocators := by
  funext index
  rcases found : (tableBlocks c s)[index]? with _ | block
  · rw [records_of_length_le (List.getElem?_eq_none_iff.mp found)]
    by_cases slot : index < c.maxAllocationCount
    · refine (inv.compact index index le_rfl slot fun touched => ?_).symm
      rw [inv.getElem?_tableBlocks.mpr ⟨slot, touched, rfl⟩] at found
      cases found
    · exact (beyond index (Nat.le_of_not_lt slot)).symm
  · obtain ⟨slot, touched, rfl⟩ := inv.getElem?_tableBlocks.mp found
    rw [records_of_getElem? found, inv.start_tableBlocks slot touched]
    exact recordOf_block touched

/-- The blocks end at `data_head`. -/
theorem RepInv.extent_tableBlocks : extent (tableBlocks c s) = s.dataHead := by
  rcases length : (tableBlocks c s).length with _ | index
  · rw [List.length_eq_zero_iff.mp length, extent_nil]
    refine (inv.dataHead_empty fun touched => ?_).symm
    have found := inv.getElem?_tableBlocks.mpr ⟨c.maxCount_pos, touched, rfl⟩
    have inside := lt_length_of_getElem? found
    omega
  · have last := inv.lastTouched length.symm
    have found := inv.getElem?_tableBlocks.mpr ⟨last.1, last.2.1, rfl⟩
    rw [← start_length, length, start_succ found, inv.start_tableBlocks last.1 last.2.1]
    exact inv.end_last index last

/-- **A structure that meets the invariant is the instance of a layout.** -/
theorem RepInv.exists_layout (initialized : s.initMagic = dsMagicNumber)
    (beyond : ∀ index, c.maxAllocationCount ≤ index → s.allocators index = DsAllocator.zero) :
    ∃ layout : Layout c, s = layout.encode s.memory := by
  have table := inv.records_tableBlocks beyond
  have top := inv.extent_tableBlocks
  have slots : (tableBlocks c s).length ≤ c.maxAllocationCount := by
    by_contra long
    obtain ⟨block, found⟩ := exists_getElem? (Nat.lt_of_not_le long)
    exact lt_irrefl _ (inv.getElem?_tableBlocks.mp found).1
  let layout : Layout c :=
    { blocks := tableBlocks c s
      length_le := slots
      extent_le := top.trans_le inv.dataHead_le
      capacity := by
        intro block member
        obtain ⟨index, found⟩ := List.mem_iff_getElem?.mp member
        obtain ⟨slot, touched, rfl⟩ := inv.getElem?_tableBlocks.mp found
        obtain ⟨positive, multiple, bounded⟩ := inv.size index slot touched
        exact ⟨positive, multiple, bounded⟩
      tight := by
        refine tight_iff.mpr fun index block found last => ?_
        obtain ⟨-, -, rfl⟩ := inv.getElem?_tableBlocks.mp found
        exact decide_eq_true (inv.last_allocated index (inv.lastTouched last)) }
  refine ⟨layout, ?_⟩
  have counted : liveCount (tableBlocks c s) = s.usedAllocators := by
    rw [inv.used, ← table, countP_records, List.take_of_length_le slots]
  show s = ⟨dsMagicNumber, extent (tableBlocks c s), liveCount (tableBlocks c s), s.memory,
    records (tableBlocks c s)⟩
  rw [top, counted, table, ← initialized]

end Records

/-- **The reachable states are exactly those the invariant admits.** -/
theorem reachable_iff_repInv (q : Placement) (s : DynostaticBuffer) :
    Reachable q s ↔ s.initMagic ≠ dsMagicNumber ∨ RepInv q.toConfig s ∧
      ∀ index, q.maxAllocationCount ≤ index → s.allocators index = DsAllocator.zero := by
  constructor
  · intro reachable
    rcases reachable.wellFormed with raw | ⟨layout, memory, rfl⟩
    · exact .inl raw
    · exact .inr ⟨layout.repInv memory, fun index past =>
        layout.encode_unused memory (layout.length_le.trans past)⟩
  · rintro (raw | ⟨inv, beyond⟩)
    · exact ⟨s, [], raw, rfl⟩
    · by_cases initialized : s.initMagic = dsMagicNumber
      · obtain ⟨layout, same⟩ := inv.exists_layout initialized beyond
        rw [same]
        exact layout.reachable s.memory
      · exact ⟨s, [], initialized, rfl⟩

end Dynostatic
