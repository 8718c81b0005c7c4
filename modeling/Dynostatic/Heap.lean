/-
**The instance as a heap.**

`heapOf` reads an instance as the finite map that it stands for: the start addresses of its live
blocks, with the bytes of their capacities. Every call is a step of that map (`Outcome.step`),
whatever it did to parked blocks, to the bump head and to other blocks' neighbours; so a run of the
instance is a run of the heap (`heap_refinement`).
-/

import Dynostatic.Lib.Heap
import Dynostatic.Outcome

namespace Dynostatic

open Tracing Tracing.Traced Tiling Rounding Bytes Runs Heaps

variable {q : Placement}

/-! ### The heap of an instance -/

/-- The address and the bytes of a live record. -/
def entryOf (q : Placement) (s : DynostaticBuffer) (index : Nat) :
    Option (Sigma fun _ : Nat => List UInt8) :=
  let record := s.allocators index
  if record.allocationStatus = .allocated then
    some ⟨q.base + record.head, slice s.memory record.head record.size⟩
  else none

/-- **The heap an instance stands for.** -/
def heapOf (q : Placement) (s : DynostaticBuffer) : Heap UInt8 :=
  ((List.range q.maxAllocationCount).filterMap (entryOf q s)).toFinmap

section Read

variable (layout : Layout q.toConfig) (memory : Nat → UInt8)

theorem entryOf_encode_iff {index : Nat} {entry : Sigma fun _ : Nat => List UInt8} :
    entryOf q (layout.encode memory) index = some entry ↔
      ∃ size, layout.blocks[index]? = some ⟨size, true⟩ ∧
        entry = ⟨q.base + start layout.blocks index,
          slice memory (start layout.blocks index) size⟩ := by
  show (if (records layout.blocks index).allocationStatus = .allocated then _ else _) = _ ↔ _
  by_cases live : (records layout.blocks index).allocationStatus = .allocated
  · obtain ⟨size, found⟩ := records_allocated_iff.mp live
    rw [if_pos live, layout.encode_live memory found,
      Option.some.injEq]
    constructor
    · rintro rfl
      exact ⟨size, found, rfl⟩
    · rintro ⟨size', found', rfl⟩
      rw [found] at found'
      cases found'
      rfl
  · rw [if_neg live]
    constructor
    · intro same
      cases same
    · rintro ⟨size, found, -⟩
      exact absurd (records_allocated_iff.mpr ⟨size, found⟩) live

/-- No two live records start at one address. -/
theorem nodupKeys_entries :
    ((List.range q.maxAllocationCount).filterMap
      (entryOf q (layout.encode memory))).NodupKeys := by
  rw [List.nodupKeys_iff_pairwise]
  refine List.Pairwise.filterMap _ ?_ List.nodup_range
  intro first second different entry found entry' found' same
  obtain ⟨size, live, rfl⟩ := (entryOf_encode_iff layout memory).mp found
  obtain ⟨size', live', rfl⟩ := (entryOf_encode_iff layout memory).mp found'
  exact different (start_injective live live' (layout.capacity_of_getElem? live).positive
    (layout.capacity_of_getElem? live').positive (Nat.add_left_cancel same))

/-- **What the heap holds at an address.** -/
theorem lookup_heapOf (address : Nat) :
    (heapOf q (layout.encode memory)).lookup address =
      (blockAt q layout.blocks address).map (slice memory (address - q.base)) := by
  ext bytes
  rw [heapOf, Finmap.dlookup_list_toFinmap, ← Option.mem_def,
    List.mem_dlookup_iff (nodupKeys_entries layout memory), List.mem_filterMap,
    Option.map_eq_some_iff]
  constructor
  · rintro ⟨index, -, found⟩
    obtain ⟨size, live, same⟩ := (entryOf_encode_iff layout memory).mp found
    cases same
    refine ⟨size, blockAt_start live, ?_⟩
    rw [Nat.add_sub_cancel_left]
  · rintro ⟨size, live, rfl⟩
    obtain ⟨index, found, rfl⟩ := exists_index_of_blockAt live
    refine ⟨index, List.mem_range.mpr (layout.lt_maxCount found), ?_⟩
    rw [entryOf_encode_iff, Nat.add_sub_cancel_left]
    exact ⟨size, found, rfl⟩

theorem lookup_heapOf_of_blockAt {address size : Nat}
    (live : blockAt q layout.blocks address = some size) :
    (heapOf q (layout.encode memory)).lookup address =
      some (slice memory (address - q.base) size) := by
  rw [lookup_heapOf, live]
  rfl

/-- The lengths are the capacities. -/
theorem length_lookup_heapOf (address : Nat) :
    ((heapOf q (layout.encode memory)).lookup address).map List.length =
      blockAt q layout.blocks address := by
  rw [lookup_heapOf, Option.map_map]
  rcases blockAt q layout.blocks address with _ | size
  · rfl
  · exact congrArg some (length_slice _ _ _)

theorem mem_heapOf_iff {address : Nat} :
    address ∈ heapOf q (layout.encode memory) ↔
      ∃ size, blockAt q layout.blocks address = some size := by
  rw [Finmap.mem_iff, lookup_heapOf]
  simp only [Option.map_eq_some_iff]
  constructor
  · rintro ⟨-, size, live, -⟩
    exact ⟨size, live⟩
  · rintro ⟨size, live⟩
    exact ⟨_, size, live, rfl⟩

theorem not_mem_heapOf_iff {address : Nat} :
    address ∉ heapOf q (layout.encode memory) ↔ blockAt q layout.blocks address = none := by
  rw [mem_heapOf_iff, not_exists, Option.eq_none_iff_forall_ne_some]

/-- An address in the heap starts a live block. -/
theorem mem_heapOf_iff_liveBlock {address : Nat} :
    address ∈ heapOf q (layout.encode memory) ↔
      ∃ capacity, LiveBlock q (layout.encode memory) address capacity := by
  simp only [mem_heapOf_iff, liveBlock_encode_iff]

end Read

/-- Live blocks at different addresses lie apart. -/
theorem blockAt_apart {blocks : List Block} {address other size size' : Nat}
    (live : blockAt q blocks address = some size) (live' : blockAt q blocks other = some size')
    (different : other ≠ address) : address + size ≤ other ∨ other + size' ≤ address := by
  obtain ⟨offset, starts, rfl⟩ := blockAt_eq_some_iff.mp live
  obtain ⟨offset', starts', rfl⟩ := blockAt_eq_some_iff.mp live'
  have apart := liveAt_disjoint starts starts' (by omega)
  omega

section Change

variable {layout after : Layout q.toConfig} {memory memory' : Nat → UInt8} {address size : Nat}

/-- A block's bytes depend on no byte apart from it. -/
theorem slice_apart {other size' : Nat} (based : q.base ≤ other)
    (apart : address + size ≤ other ∨ other + size' ≤ address)
    (frame : ∀ offset, q.base + offset < address ∨ address + size ≤ q.base + offset →
      memory' offset = memory offset) :
    slice memory' (other - q.base) size' = slice memory (other - q.base) size' :=
  slice_congr fun offset above below => frame offset (by omega)

/-- A change of the arena inside a block that is new, or has another size. -/
theorem heapOf_insert
    (map : blockAt q after.blocks =
      Function.update (blockAt q layout.blocks) address (some size))
    (frame : ∀ offset, q.base + offset < address ∨ address + size ≤ q.base + offset →
      memory' offset = memory offset) :
    heapOf q (after.encode memory') =
      (heapOf q (layout.encode memory)).insert address (slice memory' (address - q.base) size) := by
  have here : blockAt q after.blocks address = some size := by
    rw [map, Function.update_self]
  refine Finmap.ext_lookup fun other => ?_
  by_cases same : other = address
  · rw [same, Finmap.lookup_insert, lookup_heapOf_of_blockAt _ _ here]
  · rw [Finmap.lookup_insert_of_ne _ same, lookup_heapOf, lookup_heapOf, map,
      Function.update_of_ne same]
    rcases live : blockAt q layout.blocks other with _ | size'
    · rfl
    · have kept : blockAt q after.blocks other = some size' := by
        rw [map, Function.update_of_ne same, live]
      exact congrArg some (slice_apart (blockAt_inside live).1 (blockAt_apart here kept same) frame)

/-- A change of the arena inside a block that is released. -/
theorem heapOf_erase (here : blockAt q layout.blocks address = some size)
    (map : blockAt q after.blocks = Function.update (blockAt q layout.blocks) address none)
    (frame : ∀ offset, q.base + offset < address ∨ address + size ≤ q.base + offset →
      memory' offset = memory offset) :
    heapOf q (after.encode memory') = (heapOf q (layout.encode memory)).erase address := by
  refine Finmap.ext_lookup fun other => ?_
  by_cases same : other = address
  · rw [same, Finmap.lookup_erase, lookup_heapOf, map, Function.update_self]
    rfl
  · rw [Finmap.lookup_erase_ne same, lookup_heapOf, lookup_heapOf, map, Function.update_of_ne same]
    rcases live : blockAt q layout.blocks other with _ | size'
    · rfl
    · exact congrArg some (slice_apart (blockAt_inside live).1 (blockAt_apart here live same) frame)

/-- A block of a layout lies apart from the other blocks of its heap. -/
theorem clear_heapOf (map : blockAt q after.blocks =
      Function.update (blockAt q layout.blocks) address (some size)) :
    Clear ((heapOf q (layout.encode memory)).erase address) address size := by
  intro other bytes found
  have different : other ≠ address := by
    rintro rfl
    rw [Finmap.lookup_erase] at found
    cases found
  rw [Finmap.lookup_erase_ne different, lookup_heapOf, Option.map_eq_some_iff] at found
  obtain ⟨size', live, rfl⟩ := found
  rw [length_slice]
  have here : blockAt q after.blocks address = some size := by
    rw [map, Function.update_self]
  have there : blockAt q after.blocks other = some size' := by
    rw [map, Function.update_of_ne different, live]
  exact blockAt_apart here there different

end Change

/-! ### Calls as steps of the heap -/

/-- What a call that left `r` is to the heap. -/
def Op.label (q : Placement) (s : DynostaticBuffer) (op : Op) (r : Reply) : Label UInt8 :=
  if r.code = .ok then
    match op with
    | .malloc _ pMemory size => .allocate (pMemory.getD 0) size 0 (r.cell.getD 0)
    | .calloc _ pMemory len sizeOfElem =>
        .allocate (pMemory.getD 0) (len * sizeOfElem) (len * sizeOfElem) (r.cell.getD 0)
    | .free _ pMemory => .free (pMemory.getD 0)
    | .realloc _ pMemory size =>
        if size = 0 then .free (pMemory.getD 0)
        else if pMemory.getD 0 = 0 then .allocate 0 size 0 (r.cell.getD 0)
        else .resize (pMemory.getD 0) size (r.cell.getD 0)
    | .safeMemoryCopy _ outside dst src count => .write dst (slice (byteAt q s outside) src count)
    | .safeMemorySet _ dst value count => .write dst (List.replicate count (UInt8.ofInt value))
    | _ => .skip
  else .skip

section Labels

variable {s : DynostaticBuffer} {b : DynostaticBuffer}

theorem Op.Requests.label {op : Op} {p size zeroed a : Nat} (requests : op.Requests p size zeroed)
    (positive : 0 < size) :
    op.label q s ⟨.ok, b, some a⟩ = .allocate p size zeroed a := by
  cases requests with
  | malloc => rfl
  | calloc => rfl
  | realloc => exact if_neg positive.ne'

theorem Op.Releases.label {op : Op} {p : Nat} {cell : Option Nat} (releases : op.Releases p) :
    op.label q s ⟨.ok, b, cell⟩ = .free p := by
  cases releases <;> rfl

theorem label_resize {p size a : Nat} (positive : 0 < size) (nonNull : p ≠ 0) :
    Op.label q s (.realloc .self (some p) size) ⟨.ok, b, some a⟩ = .resize p size a := by
  show (if size = 0 then _ else if p = 0 then _ else _) = _
  rw [if_neg positive.ne', if_neg nonNull]
  rfl

theorem Op.Writes.label {op : Op} {dst count : Nat} {source : Nat → UInt8} {cell : Option Nat}
    (writes : op.Writes q s dst count source) :
    op.label q s ⟨.ok, b, cell⟩ = .write dst (slice source 0 count) := by
  cases writes with
  | copy outside dst src count =>
    show Label.write dst _ = Label.write dst _
    congr 1
    refine List.map_congr_left fun i _ => ?_
    rw [Nat.zero_add]
  | set dst value count =>
    show Label.write dst _ = Label.write dst _
    unfold slice
    simp only [List.map_const', List.length_range]

theorem label_failed {op : Op} {r : Reply} (notOk : r.code ≠ .ok) : op.label q s r = .skip :=
  if_neg notOk

theorem Op.Reports.label {op : Op} {r : Reply} (reports : op.Reports) :
    op.label q s r = .skip := by
  cases reports <;> exact ite_self _

end Labels

section Steps

variable {layout after : Layout q.toConfig} (memory : Nat → UInt8)

/-- A live block of the map is updated with its own size. -/
theorem blockAt_eq_update {blocks : List Block} {address size : Nat}
    (here : blockAt q blocks address = some size) :
    blockAt q blocks = Function.update (blockAt q blocks) address (some size) :=
  (Function.update_eq_self_iff.mpr here.symm).symm

theorem separated_heapOf : Separated (heapOf q (layout.encode memory)) := by
  intro address bytes found
  rw [lookup_heapOf, Option.map_eq_some_iff] at found
  obtain ⟨size, live, rfl⟩ := found
  rw [length_slice]
  exact clear_heapOf (blockAt_eq_update live)

/-- Taking a block. -/
theorem step_placed {p size zeroed index : Nat} (positive : 0 < size) (zeroed_le : zeroed ≤ size)
    (fresh : blockAt q layout.blocks p = none)
    (placed : Placed layout.blocks (roundUp q.alignment size) after.blocks index) :
    Step 0 (heapOf q (layout.encode memory))
      (.allocate p size zeroed (q.base + start after.blocks index))
      (heapOf q (after.encode (fill memory (start after.blocks index) zeroed 0))) := by
  obtain ⟨capacity, large, found⟩ := placed.getElem?_eq
  have enough := (le_roundUp q.alignment_pos size).trans large
  have rounded := positive.trans_le (le_roundUp q.alignment_pos size)
  have map := blockAt_placed (q := q) placed rounded found
  have new := (not_mem_heapOf_iff layout memory).mpr (blockAt_placed_none placed rounded)
  rw [heapOf_insert map fun offset apart => fill_outside (by omega)]
  refine .allocate ((not_mem_heapOf_iff _ _).mpr fresh) new ?_ ?_ ?_
  · rw [length_slice]
    exact (clear_heapOf map).of_not_mem new
  · rwa [length_slice]
  · intro i zero
    rw [Nat.add_sub_cancel_left, getElem?_slice _ (by omega), fill_inside ⟨by omega, by omega⟩]

/-- Releasing a block. -/
theorem step_released {index size : Nat} (found : layout.blocks[index]? = some ⟨size, true⟩) :
    Step 0 (heapOf q (layout.encode memory)) (.free (q.base + start layout.blocks index))
      (heapOf q ((layout.release index).encode
        (scrub q.toConfig memory (start layout.blocks index) size))) := by
  rw [heapOf_erase (blockAt_start found) (blockAt_release found) fun offset apart =>
    scrub_outside (by omega)]
  exact .free ((mem_heapOf_iff _ _).mpr ⟨size, blockAt_start found⟩)

/-- A block that gets another capacity at its place, over the same arena. -/
theorem step_resized {address old capacity size : Nat}
    (here : blockAt q layout.blocks address = some old)
    (map : blockAt q after.blocks =
      Function.update (blockAt q layout.blocks) address (some capacity))
    (large : size ≤ capacity) :
    Step 0 (heapOf q (layout.encode memory)) (.resize address size address)
      (heapOf q (after.encode memory)) := by
  rw [heapOf_insert map fun _ _ => rfl]
  refine .resize (lookup_heapOf_of_blockAt layout memory here) ?_ ?_ ?_
  · rw [length_slice]
    exact clear_heapOf map
  · rwa [length_slice]
  · intro i inside
    simp only [length_slice] at inside
    rw [getElem?_slice _ (by omega), getElem?_slice _ (by omega)]

/-- Growing the last block. -/
theorem step_grown {front : List Block} {old size : Nat}
    (last : layout.blocks = front ++ [⟨old, true⟩])
    (grown : after.blocks = front ++ [⟨roundUp q.alignment size, true⟩])
    (more : old < roundUp q.alignment size) :
    Step 0 (heapOf q (layout.encode memory))
      (.resize (q.base + extent front) size (q.base + extent front))
      (heapOf q (after.encode memory)) := by
  have positive : 0 < old := (layout.capacity_of_getElem? (getElem?_of_last last)).positive
  have here : blockAt q layout.blocks (q.base + extent front) = some old := by
    rw [last, blockAt_base, liveAt_push front positive, Function.update_self]
  refine step_resized memory here ?_ (le_roundUp q.alignment_pos size)
  rw [grown, last]
  exact blockAt_grow _ positive more

/-- Moving a block. -/
theorem step_moved {index capacity size target : Nat}
    (found : layout.blocks[index]? = some ⟨capacity, true⟩) (positive : 0 < size)
    (more : capacity < roundUp q.alignment size)
    (placed : Placed layout.blocks (roundUp q.alignment size) after.blocks target) :
    Step 0 (heapOf q (layout.encode memory))
      (.resize (q.base + start layout.blocks index) size (q.base + start after.blocks target))
      (heapOf q ((after.release index).encode
        (relocate q.toConfig memory (start layout.blocks index) (start after.blocks target)
          capacity))) := by
  obtain ⟨capacity', large, taken⟩ := placed.getElem?_eq
  have enough := (le_roundUp q.alignment_pos size).trans large
  have rounded := positive.trans_le (le_roundUp q.alignment_pos size)
  have map := blockAt_placed (q := q) placed rounded taken
  have new := (not_mem_heapOf_iff layout memory).mpr (blockAt_placed_none placed rounded)
  have kept := placed.getElem?_of_live found
  have same : start after.blocks index = start layout.blocks index :=
    placed.start_of_le (lt_length_of_getElem? found).le
  -- the heap between the copy and the release of the old block
  have copied : heapOf q (after.encode (blit memory (start after.blocks target) capacity
      fun i => memory (start layout.blocks index + i))) = (heapOf q (layout.encode memory)).insert
        (q.base + start after.blocks target) _ :=
    heapOf_insert map fun offset apart => blit_outside (by omega)
  have freed : heapOf q ((after.release index).encode (relocate q.toConfig memory
      (start layout.blocks index) (start after.blocks target) capacity)) = (heapOf q (after.encode
        (blit memory (start after.blocks target) capacity
          fun i => memory (start layout.blocks index + i)))).erase
        (q.base + start after.blocks index) :=
    heapOf_erase (blockAt_start kept) (blockAt_release kept) fun offset apart =>
      scrub_outside (by omega)
  rw [freed, copied, same]
  refine .move (lookup_heapOf_of_blockAt layout memory (blockAt_start found)) new ?_ ?_ ?_
  · rw [length_slice]
    exact (clear_heapOf map).of_not_mem new
  · rwa [length_slice]
  · intro i inside
    simp only [length_slice] at inside
    rw [getElem?_slice _ (by omega), getElem?_slice _ (by omega), Nat.add_sub_cancel_left,
      Nat.add_sub_cancel_left, blit_inside ⟨by omega, by omega⟩, Nat.add_sub_cancel_left]

/-- Writing inside one block. -/
theorem step_written {index size inside count : Nat} {source : Nat → UInt8}
    (found : layout.blocks[index]? = some ⟨size, true⟩) (fits : inside + count ≤ size) :
    Step 0 (heapOf q (layout.encode memory))
      (.write (q.base + (start layout.blocks index + inside)) (slice source 0 count))
      (heapOf q (layout.encode
        (blit memory (start layout.blocks index + inside) count source))) := by
  have here := blockAt_start found
  rw [heapOf_insert (blockAt_eq_update here) fun offset apart => blit_outside (by omega),
    Nat.add_sub_cancel_left, slice_blit fits, ← Nat.add_assoc]
  have entry := lookup_heapOf_of_blockAt layout memory here
  rw [Nat.add_sub_cancel_left] at entry
  refine .write entry ?_
  rwa [length_slice, length_slice]

variable {memory} in
/-- **Every call is a step of the heap.** -/
theorem Outcome.step {op : Op} {r : Reply} (outcome : Outcome q layout memory op r)
    (continues : Continues (.call op)) :
    Step 0 (heapOf q (layout.encode memory)) (op.label q (layout.encode memory) r)
      (heapOf q r.buffer) := by
  have based := q.base_pos
  cases outcome with
  | failed notOk =>
    rw [label_failed notOk]
    exact .skip
  | reported reports =>
    rw [reports.label]
    exact .skip
  | ended => exact absurd rfl continues
  | placed requests positive _ fresh placed =>
    rw [requests.label positive]
    exact step_placed memory positive requests.zeroed_le fresh placed
  | released found releases =>
    rw [releases.label]
    exact step_released memory found
  | kept found positive fit =>
    have here := blockAt_start found
    rw [label_resize positive (by omega)]
    exact step_resized memory here (blockAt_eq_update here)
      ((le_roundUp q.alignment_pos _).trans fit)
  | grown last positive _ more =>
    rw [label_resize positive (by omega)]
    exact step_grown memory last rfl more
  | moved found positive _ more placed =>
    rw [label_resize positive (by omega)]
    exact step_moved memory found positive more placed
  | written found _ fits writes =>
    rw [writes.label]
    exact step_written memory found fits

end Steps

/-! ### Runs as runs of the heap -/

/-- What an action is to the heap. -/
def Action.label (q : Placement) (s : DynostaticBuffer) : Action → Label UInt8
  | .call op => op.label q s (reply q s op)
  | .store offset byte => .write (q.base + offset) [byte]

/-- A client that does not deinitialize the instance, and writes only to its blocks. -/
def Honest (q : Placement) (s : DynostaticBuffer) (action : Action) : Prop :=
  Continues action ∧ Confined q s action

/-- A store to a live block is a write to that block. -/
theorem step_store {layout : Layout q.toConfig} {memory : Nat → UInt8} {offset : Nat}
    (owned : Owned q (layout.encode memory) offset) (byte : UInt8) :
    Step 0 (heapOf q (layout.encode memory)) (.write (q.base + offset) [byte])
      (heapOf q (layout.encode (Function.update memory offset byte))) := by
  obtain ⟨first, size, live, above, below⟩ := owned_encode_iff.mp owned
  obtain ⟨index, found, -, rfl⟩ := liveAt_eq_some_iff.mp live
  obtain ⟨inside, rfl⟩ := Nat.exists_eq_add_of_le above
  have stored : Function.update memory (start layout.blocks index + inside) byte =
      blit memory (start layout.blocks index + inside) 1 fun _ => byte := by
    funext k
    by_cases here : k = start layout.blocks index + inside
    · rw [here, Function.update_self, blit_inside ⟨le_rfl, Nat.lt_succ_self _⟩]
    · rw [Function.update_of_ne here, blit_outside (by omega)]
  have string : [byte] = slice (fun _ => byte) 0 1 := rfl
  rw [stored, string]
  exact step_written memory found (by omega)

/-- **Every action of an honest client is a step of the heap.** -/
theorem step_next (layout : Layout q.toConfig) (memory : Nat → UInt8) {action : Action}
    (honest : Honest q (layout.encode memory) action) :
    Step 0 (heapOf q (layout.encode memory)) (action.label q (layout.encode memory))
      (heapOf q (next q (layout.encode memory) action)) := by
  rcases action with op | ⟨offset, byte⟩
  · exact (reply_outcome layout memory op).step honest.1
  · exact step_store (honest.2 offset byte rfl) byte

theorem heapOf_freshInstance {first : DynostaticBuffer} (fresh : first.initMagic ≠ dsMagicNumber) :
    heapOf q (freshInstance q first) = ∅ := by
  rw [freshInstance_eq fresh]
  refine Finmap.ext_lookup fun address => ?_
  rw [Finmap.lookup_empty, Finmap.lookup_eq_none, not_mem_heapOf_iff, blockAt]
  split <;> rfl

/-- **The instance refines a heap.** Every run of an honest client from a fresh instance is a run of
the heap from the empty one, by the labels of its actions: a successful `ds_malloc` or `ds_calloc`
adds one new block, a successful `ds_free` removes the block it names, a successful `ds_realloc` of
a block keeps its first bytes at its address or at a new one, a write changes the addressed bytes of
one block, and a failing call changes nothing. Each step leads from the heap of one state to the
heap of the next, and the blocks never overlap. -/
theorem heap_refinement (q : Placement) {first : DynostaticBuffer}
    (fresh : first.initMagic ≠ dsMagicNumber) (actions : List Action)
    (honest : Obeys (next q) (Honest q) (freshInstance q first) actions) :
    Path (Step 0) ∅ (trace (next q) (Action.label q) (freshInstance q first) actions)
        (heapOf q (run (next q) (freshInstance q first) actions)) ∧
      Obeys (next q) (fun s action =>
        Step 0 (heapOf q s) (action.label q s) (heapOf q (next q s action)))
        (freshInstance q first) actions ∧
      Separated (heapOf q (run (next q) (freshInstance q first) actions)) := by
  have step : ∀ s action, Honest q s action → Encoded q s →
      Step 0 (heapOf q s) (action.label q s) (heapOf q (next q s action)) ∧
        Encoded q (next q s action) := by
    rintro s action honest ⟨layout, memory, rfl⟩
    exact ⟨step_next layout memory honest, next_encode layout memory honest.1⟩
  have started : Encoded q (freshInstance q first) := ⟨_, _, freshInstance_eq fresh⟩
  have path : Path (Step 0) (heapOf q (freshInstance q first))
      (trace (next q) (Action.label q) (freshInstance q first) actions)
      (heapOf q (run (next q) (freshInstance q first) actions)) :=
    run_simulates step actions _ honest started
  rw [heapOf_freshInstance fresh] at path
  exact ⟨path, obeys_of_invariant step honest started,
    path.invariant (fun _ _ _ step separated => step.separated separated) separated_empty⟩

/-- A block that is written, and moved past another one. -/
def movedBlock : List Action :=
  [.call (.malloc .self (some 0) 10), .store 3 7, .call (.malloc .self (some 0) 20),
    .call (.realloc .self (some 4096) 40)]

theorem heap_refinement_movedBlock :
    Path (Step 0) ∅ [.allocate 0 10 0 4096, .write 4099 [7], .allocate 0 20 0 4108,
        .resize 4096 40 4128]
      (heapOf defaultPlacement
        (run (next defaultPlacement) (freshInstance defaultPlacement zeroBuffer) movedBlock)) ∧
      Separated (heapOf defaultPlacement
        (run (next defaultPlacement) (freshInstance defaultPlacement zeroBuffer) movedBlock)) := by
  have honest : Obeys (next defaultPlacement) (Honest defaultPlacement)
      (freshInstance defaultPlacement zeroBuffer) movedBlock := by
    refine ⟨⟨nofun, nofun⟩, ⟨nofun, ?_⟩, ⟨nofun, nofun⟩, ⟨nofun, nofun⟩, trivial⟩
    rintro offset byte ⟨rfl, rfl⟩
    exact ⟨4096, 12, ⟨rfl, 0, by decide⟩, by decide, by decide⟩
  obtain ⟨path, -, separated⟩ :=
    heap_refinement defaultPlacement zeroBuffer_fresh movedBlock honest
  exact ⟨path, separated⟩

end Dynostatic
