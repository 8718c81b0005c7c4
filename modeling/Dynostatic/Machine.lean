/-
**The library as a machine on tilings.**

An `Inventory` is what the machine knows of an instance: `none` while it is not initialized, and
otherwise its blocks, live and parked, in order. There is no record table, no counter, no bump head
and no arena. `serve` answers a call: the checks of the public function in the order in which they
are made, each with its code, and then one change of the tiling.

* `inventory` reads an instance's blocks off its records;
* `serves_initialized`, `serves_uninitialized` — a call does what the machine does, in every state;
* `run_follows_machine` — so does every run: the codes, the callers' variables and the inventories
  of a run are those of the machine, whatever the client stores in the arena.
-/

import Dynostatic.Writes

namespace Dynostatic

open Tracing Tracing.Traced Tiling Rounding Bytes Runs

/-! ### The machine -/

/-- The blocks of an instance, or that it is not initialized. -/
abbrev Inventory := Option (List Block)

/-- A check that fails with a code. -/
def reject (condition : Prop) [Decidable condition] (code : DsErrCode) : Except DsErrCode Unit :=
  if condition then .error code else .ok ()

/-- The check of `init_magic`. -/
def opened : Inventory → Except DsErrCode (List Block)
  | some blocks => .ok blocks
  | none => .error .noInit

/-- A parked block is revived, the first that fits, or a block is added at the end. -/
def grant (c : Config) (blocks : List Block) (size : Nat) : Except DsErrCode (List Block × Nat) :=
  match firstFit blocks size with
  | some index => .ok (mark blocks index true, index)
  | none => do
    reject (c.maxAllocationCount ≤ blocks.length) .noAllocators
    reject (c.bufferMemorySize < extent blocks + size) .noMemory
    pure (blocks ++ [⟨size, true⟩], blocks.length)

/-- The live block an offset lies in: its index, its size, and the distance from its start. -/
def holding (blocks : List Block) (offset : Nat) : Option (Nat × Nat × Nat) :=
  (locate blocks offset).bind fun found =>
    blocks[found.1]?.bind fun block =>
      if block.live then some (found.1, block.size, found.2) else none

section Serve

variable (q : Placement) (blocks : List Block)

/-- The live block an address lies in. -/
def seek (address : Nat) : Except DsErrCode (Nat × Nat × Nat) :=
  match if q.base ≤ address then holding blocks (address - q.base) else none with
  | some found => .ok found
  | none => .error (deadCode q address)

/-- The live block that starts at an address. -/
def seekStart (address : Nat) : Except DsErrCode (Nat × Nat) := do
  let (index, size, inside) ← seek q blocks address
  reject (inside ≠ 0) .allocatorNotFound
  pure (index, size)

/-- A request for a block through a variable that holds `p`. -/
def serveRequest (p size : Nat) : Except DsErrCode (Inventory × Option Nat) := do
  reject (q.maxAllocationSize < size) .tooBigChunk
  reject (blockAt q blocks p ≠ none) .ptrAllocYet
  let (after, index) ← grant q.toConfig blocks (roundUp q.alignment size)
  pure (some after, some (q.base + start after index))

/-- The release of the block at `p`. -/
def serveRelease (p : Nat) : Except DsErrCode (Inventory × Option Nat) := do
  let (index, _) ← seekStart q blocks p
  pure (some (release blocks index), some 0)

/-- The block at `p` is kept, grown in place, or moved to a block granted before it is released. -/
def serveResize (p size : Nat) : Except DsErrCode (Inventory × Option Nat) := do
  reject (q.maxAllocationSize < size) .tooBigChunk
  let (index, capacity) ← seekStart q blocks p
  let needed := roundUp q.alignment size
  if needed ≤ capacity then
    pure (some blocks, some p)
  else if start blocks index + capacity = extent blocks ∧
      start blocks index + needed ≤ q.bufferMemorySize then
    pure (some (blocks.take index ++ [⟨needed, true⟩]), some p)
  else
    let (after, target) ← grant q.toConfig blocks needed
    pure (some (release after index), some (q.base + start after target))

/-- A write of `count` bytes at `dst`. -/
def serveWrite (dst count : Nat) : Except DsErrCode (Inventory × Option Nat) := do
  let (_, size, inside) ← seek q blocks dst
  reject (size < inside + count) .noMemory
  pure (some blocks, none)

end Serve

/-- **The machine's answer to a call**: the inventory after it and the caller's variable, or the
code it fails with. -/
def serve (q : Placement) (state : Inventory) : Op → Except DsErrCode (Inventory × Option Nat)
  | .initializeAllocation .self => do
    reject (state ≠ none) .alreadyInit
    pure (some [], none)
  | .malloc .self (some p) size => do
    reject (size = 0) .invalidArg
    serveRequest q (← opened state) p size
  | .free .self (some p) => do
    reject (p = 0) .invalidArg
    serveRelease q (← opened state) p
  | .calloc .self (some p) len sizeOfElem => do
    reject (len = 0 ∨ sizeOfElem = 0) .invalidArg
    let blocks ← opened state
    reject (2 ^ q.sizeBits ≤ len * sizeOfElem) .invalidArg
    serveRequest q blocks p (len * sizeOfElem)
  | .realloc .self (some p) size => do
    let blocks ← opened state
    if size = 0 then
      reject (p = 0) .invalidArg
      serveRelease q blocks p
    else if p = 0 then
      serveRequest q blocks 0 size
    else
      serveResize q blocks p size
  | .getMemoryUsage .self (some _) => do
    let blocks ← opened state
    pure (state, some (sizeMul q.toConfig 100 (liveExtent blocks) / q.bufferMemorySize % 2 ^ 8))
  | .getMaxNewAllocationSize .self (some _) => do
    let blocks ← opened state
    pure (state, some (largest q.toConfig blocks))
  | .getFreeAllocatorCnt .self (some _) => do
    let blocks ← opened state
    pure (state, some (q.maxAllocationCount - liveCount blocks))
  | .deinitAllocation .self => do
    let _ ← opened state
    pure (none, none)
  | .safeMemoryCopy .self _ dst src count => do
    reject (dst = 0 ∨ src = 0 ∨ count = 0) .invalidArg
    serveWrite q (← opened state) dst count
  | .safeMemorySet .self dst _ count => do
    reject (dst = 0 ∨ count = 0) .invalidArg
    serveWrite q (← opened state) dst count
  | _ => .error .invalidArg

/-! ### What is compared -/

/-- What a call shows: its code, the caller's variable after it, and the inventory after it. -/
structure Shown where
  code : DsErrCode
  cell : Option Nat
  after : Inventory
  deriving DecidableEq

/-- A call of the machine, from an inventory and the content of the caller's variable. A failing
call changes neither. -/
def Shown.ofServed (state : Inventory) (cell : Option Nat) :
    Except DsErrCode (Inventory × Option Nat) → Shown
  | .error code => ⟨code, cell, state⟩
  | .ok (after, left) => ⟨.ok, left, after⟩

/-- What a call of the machine shows. -/
def attend (q : Placement) (state : Inventory) (op : Op) : Shown :=
  .ofServed state op.cell (serve q state op)

/-- The machine's step on a call. -/
def attendNext (q : Placement) (state : Inventory) (op : Op) : Inventory :=
  (attend q state op).after

/-- The block of a record in use. -/
def DsAllocator.block (record : DsAllocator) : Block :=
  ⟨record.size, record.allocationStatus = .allocated⟩

/-- The blocks of the records from an index on, up to the first unused one. -/
def blocksFrom (s : DynostaticBuffer) : (rest iter : Nat) → List Block
  | 0, _ => []
  | rest + 1, iter =>
    if (s.allocators iter).allocationStatus = .notUsed then []
    else (s.allocators iter).block :: blocksFrom s rest (iter + 1)

/-- **The inventory of an instance**, read off its records. -/
def inventory (q : Placement) (s : DynostaticBuffer) : Inventory :=
  if s.initMagic = dsMagicNumber then some (blocksFrom s q.maxAllocationCount 0) else none

/-- What a call of the library shows. -/
def Reply.shown (q : Placement) (r : Reply) : Shown := ⟨r.code, r.cell, inventory q r.buffer⟩

section Reading

variable {q : Placement}

theorem block_recordOf (head : Nat) (block : Block) : (recordOf head block).block = block := by
  obtain ⟨size, live⟩ := block
  cases live <;> rfl

theorem blocksFrom_encode (layout : Layout q.toConfig) (memory : Nat → UInt8) (rest iter : Nat)
    (all : iter + rest = q.maxAllocationCount) :
    blocksFrom (layout.encode memory) rest iter = layout.blocks.drop iter := by
  have slots := layout.length_le
  induction rest generalizing iter with
  | zero => rw [blocksFrom, List.drop_of_length_le (by omega)]
  | succ rest ih =>
    unfold blocksFrom
    rcases found : layout.blocks[iter]? with _ | block
    · have past := List.getElem?_eq_none_iff.mp found
      rw [layout.encode_unused memory past, List.drop_of_length_le past]
      rfl
    · have record : (layout.encode memory).allocators iter =
          recordOf (start layout.blocks iter) block := records_of_getElem? found
      rw [record, if_neg (recordOf_used _ _), block_recordOf, ih (iter + 1) (by omega),
        drop_of_getElem? found]

/-- **The inventory of a layout's instance is its tiling.** -/
theorem inventory_encode (layout : Layout q.toConfig) (memory : Nat → UInt8) :
    inventory q (layout.encode memory) = some layout.blocks := by
  have blocks := blocksFrom_encode layout memory _ 0 (Nat.zero_add _)
  rw [List.drop_zero] at blocks
  exact (if_pos rfl).trans (congrArg some blocks)

theorem inventory_uninitialized {s : DynostaticBuffer} (raw : s.initMagic ≠ dsMagicNumber) :
    inventory q s = none :=
  if_neg raw

/-- The inventory does not read the arena. -/
theorem inventory_storeByte (s : DynostaticBuffer) (memory : Nat → UInt8) :
    inventory q { s with memory } = inventory q s := by
  have same : ∀ rest iter, blocksFrom { s with memory } rest iter = blocksFrom s rest iter := by
    intro rest
    induction rest with
    | zero => exact fun iter => rfl
    | succ rest ih =>
      intro iter
      rw [blocksFrom, blocksFrom, ih]
  unfold inventory
  rw [same]

end Reading

/-! ### Programs and the machine -/

/-- The program leaves what the machine says. -/
def Serves (q : Placement) (s : DynostaticBuffer) (cell : Option Nat)
    (program : Traced Event Reply) (served : Except DsErrCode (Inventory × Option Nat)) : Prop :=
  program.value.shown q = .ofServed (inventory q s) cell served

section Serves

variable {q : Placement} {s : DynostaticBuffer} {cell : Option Nat} {program : Traced Event Reply}

theorem serves_refused {code : DsErrCode} {P : Event → Prop}
    (yields : Yields P program ⟨code, s, cell⟩) : Serves q s cell program (.error code) :=
  congrArg (Reply.shown q) yields.value

theorem serves_encoded {layout : Layout q.toConfig} {memory : Nat → UInt8} {left : Option Nat}
    {P : Event → Prop} (yields : Yields P program ⟨.ok, layout.encode memory, left⟩) :
    Serves q s cell program (.ok (some layout.blocks, left)) := by
  unfold Serves
  rw [yields.value, Reply.shown, inventory_encode, Shown.ofServed]

theorem reject_of_pos {α : Type} {condition : Prop} [Decidable condition] (holds : condition)
    (code : DsErrCode) (rest : Unit → Except DsErrCode α) :
    (reject condition code >>= rest) = .error code := by
  unfold reject
  rw [if_pos holds]
  rfl

theorem reject_of_neg {α : Type} {condition : Prop} [Decidable condition] (fails : ¬ condition)
    (code : DsErrCode) (rest : Unit → Except DsErrCode α) :
    (reject condition code >>= rest) = rest () := by
  unfold reject
  rw [if_neg fails]
  rfl

/-- A check before an answer that succeeds has passed. -/
theorem ok_of_reject {α : Type} {condition : Prop} [Decidable condition] {code : DsErrCode}
    {rest : Unit → Except DsErrCode α} {a : α}
    (served : (reject condition code >>= rest) = .ok a) : ¬ condition ∧ rest () = .ok a := by
  by_cases holds : condition
  · rw [reject_of_pos holds] at served
    cases served
  · rw [reject_of_neg holds] at served
    exact ⟨holds, served⟩

theorem ok_of_bind {α β : Type} {first : Except DsErrCode α} {rest : α → Except DsErrCode β}
    {b : β} (served : (first >>= rest) = .ok b) : ∃ a, first = .ok a ∧ rest a = .ok b := by
  cases first with
  | error code => cases served
  | ok a => exact ⟨a, rfl, served⟩

/-- A check the machine does not make, as it never fails. -/
theorem Serves.of_neg {condition : Prop} [Decidable condition] {other : Traced Event Reply}
    {served : Except DsErrCode (Inventory × Option Nat)} (fails : ¬ condition)
    (rest : Serves q s cell program served) :
    Serves q s cell (if condition then other else program) served := by
  rwa [if_neg fails]

/-- **The rule for a check** that both make. -/
theorem Serves.check {condition : Prop} [Decidable condition] {code : DsErrCode}
    {served : Unit → Except DsErrCode (Inventory × Option Nat)}
    (rest : ¬ condition → Serves q s cell program (served ())) :
    Serves q s cell (if condition then pure ⟨code, s, cell⟩ else program)
      (reject condition code >>= served) := by
  by_cases holds : condition
  · rw [if_pos holds, reject_of_pos holds]
    rfl
  · rw [if_neg holds, reject_of_neg holds]
    exact rest holds

end Serves

/-! ### Lookups and grants on a layout -/

section Lookups

variable {q : Placement} {layout : Layout q.toConfig}

theorem holding_eq_some_iff {blocks : List Block} {offset index size inside : Nat} :
    holding blocks offset = some (index, size, inside) ↔
      blocks[index]? = some ⟨size, true⟩ ∧ inside < size ∧
        offset = start blocks index + inside := by
  unfold holding
  rw [Option.bind_eq_some_iff]
  constructor
  · rintro ⟨⟨index', inside'⟩, located, held⟩
    obtain ⟨⟨size', live⟩, found, small, same⟩ := locate_eq_some_iff.mp located
    rw [found] at held
    cases live <;> cases held
    exact ⟨found, small, same⟩
  · rintro ⟨found, small, same⟩
    refine ⟨(index, inside), locate_eq_some_iff.mpr ⟨_, found, small, same⟩, ?_⟩
    show blocks[index]?.bind _ = _
    rw [found]
    rfl

theorem seek_live {index size inside : Nat} (found : layout.blocks[index]? = some ⟨size, true⟩)
    (small : inside < size) :
    seek q layout.blocks (q.base + (start layout.blocks index + inside)) =
      .ok (index, size, inside) := by
  unfold seek
  rw [if_pos (Nat.le_add_right _ _), Nat.add_sub_cancel_left,
    holding_eq_some_iff.mpr ⟨found, small, rfl⟩]

theorem seek_dead {address : Nat}
    (dead : ∀ index size inside, layout.blocks[index]? = some ⟨size, true⟩ → inside < size →
      address ≠ q.base + (start layout.blocks index + inside)) :
    seek q layout.blocks address = .error (deadCode q address) := by
  have missed : (if q.base ≤ address then holding layout.blocks (address - q.base) else none) =
      none := by
    rw [Option.eq_none_iff_forall_ne_some]
    rintro ⟨index, size, inside⟩ held
    split at held
    · obtain ⟨found, small, same⟩ := holding_eq_some_iff.mp held
      exact dead index size inside found small (by omega)
    · cases held
  unfold seek
  rw [missed]

theorem seekStart_live {index size : Nat} (found : layout.blocks[index]? = some ⟨size, true⟩) :
    seekStart q layout.blocks (q.base + start layout.blocks index) = .ok (index, size) := by
  unfold seekStart
  have sought := seek_live (q := q) found (layout.capacity_of_getElem? found).positive
  rw [Nat.add_zero] at sought
  rw [sought]
  rfl

/-- An address where no live block starts is refused with the same code, wherever it lies. -/
theorem seekStart_dead {address : Nat} (dead : blockAt q layout.blocks address = none) :
    seekStart q layout.blocks address = .error (deadCode q address) := by
  unfold seekStart
  by_cases inside : ∃ index size inside, layout.blocks[index]? = some ⟨size, true⟩ ∧
      inside < size ∧ address = q.base + (start layout.blocks index + inside)
  · obtain ⟨index, size, inside, found, small, rfl⟩ := inside
    have bound : start layout.blocks index + size ≤ q.bufferMemorySize := layout.end_le found
    have interior : inside ≠ 0 := by
      rintro rfl
      rw [Nat.add_zero, blockAt_start found] at dead
      cases dead
    rw [seek_live found small, deadCode, if_neg (by omega)]
    exact reject_of_pos interior _ _
  · rw [seek_dead fun index size distance found small same =>
      inside ⟨index, size, distance, found, small, same⟩]
    rfl

end Lookups

section Grants

variable {c : Config} {blocks : List Block} {size : Nat}

theorem grant_revived {index : Nat} (first : firstFit blocks size = some index) :
    grant c blocks size = .ok (mark blocks index true, index) := by
  unfold grant
  rw [first]

theorem grant_pushed (none : firstFit blocks size = none)
    (slot : blocks.length < c.maxAllocationCount)
    (space : extent blocks + size ≤ c.bufferMemorySize) :
    grant c blocks size = .ok (blocks ++ [⟨size, true⟩], blocks.length) := by
  unfold grant
  rw [none, reject_of_neg (Nat.not_le_of_lt slot), reject_of_neg (Nat.not_lt_of_le space)]
  rfl

theorem grant_refused (full : ¬ Room c blocks size) :
    grant c blocks size = .error (refusal c blocks) := by
  have none : firstFit blocks size = none :=
    firstFit_eq_none_iff.mpr fun reuse => full (.inl reuse)
  unfold grant refusal
  rw [none]
  by_cases slot : blocks.length < c.maxAllocationCount
  · have short : c.bufferMemorySize < extent blocks + size :=
      Nat.lt_of_not_le fun space => full (.inr ⟨slot, space⟩)
    rw [if_pos slot, reject_of_neg (Nat.not_le_of_lt slot), reject_of_pos short]
  · rw [if_neg slot, reject_of_pos (Nat.le_of_not_lt slot)]

end Grants

/-- **A grant is an assignment.** Either a block is taken, and the library takes the same one, or
both fail with one code. -/
theorem grant_cases {q : Placement} (layout : Layout q.toConfig) (memory : Nat → UInt8)
    {size : Nat} (positive : 0 < size) (small : size ≤ q.maxAllocationSize) :
    (∃ (after : Layout q.toConfig) (index : Nat),
      Placed layout.blocks (roundUp q.alignment size) after.blocks index ∧
      grant q.toConfig layout.blocks (roundUp q.alignment size) = .ok (after.blocks, index) ∧
      ∀ p, blockAt q layout.blocks p = none →
        Yields (Event.Safe q) (dsMalloc q (layout.encode memory) .self (some p) size)
          ⟨.ok, after.encode memory, some (q.base + start after.blocks index)⟩) ∨
    (¬ Room q.toConfig layout.blocks (roundUp q.alignment size) ∧
      grant q.toConfig layout.blocks (roundUp q.alignment size) =
        .error (refusal q.toConfig layout.blocks)) := by
  rcases first : firstFit layout.blocks (roundUp q.alignment size) with _ | index
  · by_cases room : Room q.toConfig layout.blocks (roundUp q.alignment size)
    · obtain ⟨slot, space⟩ := room.resolve_left (firstFit_eq_none_iff.mp first)
      refine .inl ⟨layout.push (isCapacity_roundUp positive small) slot space,
        layout.blocks.length, .pushed, grant_pushed first slot space, fun p fresh => ?_⟩
      exact yields_dsMalloc_assigned layout memory fresh positive small
        List.getElem?_concat_length
        (yields_getNewAllocator_pushed layout memory positive small first slot space)
    · exact .inr ⟨room, grant_refused room⟩
  · obtain ⟨⟨capacity, found, large⟩, -⟩ := firstFit_eq_some first
    refine .inl ⟨layout.revive index, index, .revived found large, grant_revived first,
      fun p fresh => ?_⟩
    exact yields_dsMalloc_assigned layout memory fresh positive small
      (getElem?_mark_self found true) (yields_getNewAllocator_reused layout memory small first)

/-! ### The calls on an initialized instance -/

section Initialized

variable {q : Placement} (layout : Layout q.toConfig) (memory : Nat → UInt8)

theorem serves_dsMalloc {p size : Nat} (positive : 0 < size) :
    Serves q (layout.encode memory) (some p) (dsMalloc q (layout.encode memory) .self (some p) size)
      (serveRequest q layout.blocks p size) := by
  by_cases small : size ≤ q.maxAllocationSize
  · unfold serveRequest
    rw [reject_of_neg (Nat.not_lt_of_le small)]
    rcases fresh : blockAt q layout.blocks p with _ | capacity
    · rw [reject_of_neg (not_not.mpr rfl)]
      rcases grant_cases layout memory positive small with
        ⟨after, index, -, granted, yields⟩ | ⟨full, refused⟩
      · rw [granted]
        exact serves_encoded (yields p fresh)
      · rw [refused]
        exact serves_refused (yields_dsMalloc_full layout memory fresh positive small full)
    · obtain ⟨index, found, rfl⟩ := exists_index_of_blockAt fresh
      rw [reject_of_pos nofun]
      refine serves_refused (P := Event.Safe q) ?_
      refine Yields.of_neg (by simp [positive.ne']) ?_
      refine Yields.of_neg (layout.encode_initialized memory) ?_
      refine Yields.of_neg (Nat.not_lt_of_le small) ?_
      refine Yields.bind (yields_forMemory_live layout memory found 0) ?_
      exact Yields.of_pos rfl yields_pure
  · unfold serveRequest
    rw [reject_of_pos (Nat.lt_of_not_le small)]
    refine serves_refused (P := Event.Safe q) ?_
    refine Yields.of_neg (by simp [positive.ne']) ?_
    refine Yields.of_neg (layout.encode_initialized memory) ?_
    exact Yields.of_pos (Nat.lt_of_not_le small) yields_pure

theorem serves_dsFree {p : Nat} (nonNull : p ≠ 0) :
    Serves q (layout.encode memory) (some p) (dsFree q (layout.encode memory) .self (some p))
      (serveRelease q layout.blocks p) := by
  unfold serveRelease
  rcases dead : blockAt q layout.blocks p with _ | size
  · rw [seekStart_dead dead]
    exact serves_refused (yields_dsFree_dead layout memory nonNull dead)
  · obtain ⟨index, found, rfl⟩ := exists_index_of_blockAt dead
    rw [seekStart_live found]
    have freed := yields_dsFree_live layout memory found
    exact serves_encoded freed

/-- The zeroing of `ds_calloc` shows nothing. -/
theorem shown_zeroed (q : Placement) (r : Reply) (size : Nat) :
    (if r.code ≠ .ok then pure r
      else do
        let alignedSize ← dsAlignUp q.toConfig size
        let zeroed ← dsZero q r.buffer (r.cell.getD 0) alignedSize size
        pure ⟨.ok, zeroed, r.cell⟩ : Traced Event Reply).value.shown q = r.shown q := by
  by_cases failed : r.code = .ok
  · rw [if_neg (not_not.mpr failed)]
    unfold Reply.shown
    rw [failed]
    exact congrArg (Shown.mk .ok r.cell) (inventory_storeByte r.buffer _)
  · rw [if_pos failed]
    rfl

/-- The product is that of the machine, or both refuse it. -/
theorem serves_dsCalloc {p len sizeOfElem : Nat} :
    Serves q (layout.encode memory) (some p)
      (dsCalloc q (layout.encode memory) .self (some p) len sizeOfElem)
      (do reject (len = 0 ∨ sizeOfElem = 0) .invalidArg
          reject (2 ^ q.sizeBits ≤ len * sizeOfElem) .invalidArg
          serveRequest q layout.blocks p (len * sizeOfElem)) := by
  by_cases zero : len = 0 ∨ sizeOfElem = 0
  · rw [reject_of_pos zero]
    exact serves_refused (P := Event.Safe q) (Yields.of_pos (Or.inr zero) yields_pure)
  · obtain ⟨left, right⟩ := not_or.mp zero
    have product : sizeMul q.toConfig len sizeOfElem / len = sizeOfElem ↔ _ :=
      sizeMul_div_iff (Nat.pos_of_ne_zero left)
    have positive : 0 < len * sizeOfElem :=
      Nat.mul_pos (Nat.pos_of_ne_zero left) (Nat.pos_of_ne_zero right)
    rw [reject_of_neg zero]
    unfold dsCalloc
    refine Serves.of_neg (by simp [left, right]) ?_
    refine Serves.of_neg (layout.encode_initialized memory) ?_
    by_cases exact : len * sizeOfElem < 2 ^ q.sizeBits
    · rw [reject_of_neg (Nat.not_le_of_lt exact)]
      refine Serves.of_neg (not_not.mpr (product.mpr exact)) ?_
      rw [show sizeMul q.toConfig len sizeOfElem = len * sizeOfElem from Nat.mod_eq_of_lt exact]
      exact (shown_zeroed q _ _).trans (serves_dsMalloc layout memory positive)
    · rw [reject_of_pos (Nat.le_of_not_lt exact)]
      refine serves_refused (P := Event.Safe q) (Yields.of_pos ?_ yields_pure)
      exact fun same => exact (product.mp same)

/-- The three ways a block is resized are told apart as the machine tells them. -/
theorem serves_dsRealloc_live {index capacity size : Nat}
    (found : layout.blocks[index]? = some ⟨capacity, true⟩) (positive : 0 < size)
    (small : size ≤ q.maxAllocationSize) :
    Serves q (layout.encode memory) (some (q.base + start layout.blocks index))
      (dsRealloc q (layout.encode memory) .self (some (q.base + start layout.blocks index)) size)
      (serveResize q layout.blocks (q.base + start layout.blocks index) size) := by
  unfold serveResize
  rw [reject_of_neg (Nat.not_lt_of_le small), seekStart_live found]
  show Serves q _ _ _ (if roundUp q.alignment size ≤ capacity then _ else _)
  by_cases fit : roundUp q.alignment size ≤ capacity
  · rw [if_pos fit]
    exact serves_encoded (yields_dsRealloc_kept layout memory found positive small fit)
  · rw [if_neg fit]
    have more := Nat.lt_of_not_le fit
    by_cases grows : start layout.blocks index + capacity = extent layout.blocks ∧
        start layout.blocks index + roundUp q.alignment size ≤ q.bufferMemorySize
    · rw [if_pos grows]
      obtain ⟨top, room⟩ := grows
      obtain ⟨front, last, rfl⟩ := layout.exists_front found top
      have kept : layout.blocks.take front.length = front := by rw [last, List.take_left]
      rw [start_of_last last] at room ⊢
      rw [kept]
      exact serves_encoded (yields_dsRealloc_grown layout memory last positive small more room)
    · rw [if_neg grows]
      have stuck : start layout.blocks index + capacity = extent layout.blocks →
          q.bufferMemorySize < start layout.blocks index + roundUp q.alignment size :=
        fun top => Nat.lt_of_not_le fun room => grows ⟨top, room⟩
      rcases grant_cases layout memory positive small with
        ⟨after, target, placed, granted, yields⟩ | ⟨full, refused⟩
      · rw [granted]
        have moved := yields_dsRealloc_taken layout memory found positive small more stuck placed
          (yields 0 (blockAt_null _))
        exact serves_encoded moved
      · rw [refused]
        exact serves_refused
          (yields_dsRealloc_full layout memory found positive small more stuck full)

theorem serves_dsRealloc {p size : Nat} (nonNull : p ≠ 0) (positive : 0 < size) :
    Serves q (layout.encode memory) (some p)
      (dsRealloc q (layout.encode memory) .self (some p) size)
      (serveResize q layout.blocks p size) := by
  by_cases small : size ≤ q.maxAllocationSize
  · rcases dead : blockAt q layout.blocks p with _ | capacity
    · unfold serveResize
      rw [reject_of_neg (Nat.not_lt_of_le small), seekStart_dead dead]
      exact serves_refused (yields_dsRealloc_dead layout memory nonNull positive small dead)
    · obtain ⟨index, found, rfl⟩ := exists_index_of_blockAt dead
      exact serves_dsRealloc_live layout memory found positive small
  · unfold serveResize dsRealloc
    rw [reject_of_pos (Nat.lt_of_not_le small)]
    refine Serves.of_neg nofun (Serves.of_neg (layout.encode_initialized memory) ?_)
    refine Serves.of_neg positive.ne' (Serves.of_neg nonNull ?_)
    exact serves_refused (P := Event.Safe q)
      (Yields.of_pos (Nat.lt_of_not_le small) yields_pure)

variable {layout memory} in
theorem serves_value {op : Op} {r : Reply} {served : Except DsErrCode (Inventory × Option Nat)}
    (replied : reply q (layout.encode memory) op = r)
    (same : r.shown q = .ofServed (some layout.blocks) op.cell served) :
    Serves q (layout.encode memory) op.cell (call q (layout.encode memory) op) served := by
  unfold Serves
  rw [inventory_encode, ← same, ← replied]
  rfl

/-- Of the write itself the inventory shows nothing. -/
theorem serves_checked {dst count : Nat} {op : Op}
    (checked : Checked q (layout.encode memory) dst count op) (cell : op.cell = none)
    (written : InsideBlock q (layout.encode memory) dst count → ∃ memory',
      reply q (layout.encode memory) op = ⟨.ok, layout.encode memory', none⟩) :
    Serves q (layout.encode memory) op.cell (call q (layout.encode memory) op)
      (serveWrite q layout.blocks dst count) := by
  unfold serveWrite
  by_cases live : ∃ index size inside, layout.blocks[index]? = some ⟨size, true⟩ ∧
      inside < size ∧ dst = q.base + (start layout.blocks index + inside)
  · obtain ⟨index, size, inside, found, small, rfl⟩ := live
    rw [seek_live found small]
    show Serves q _ _ _ (reject (size < inside + count) .noMemory >>= _)
    by_cases fits : inside + count ≤ size
    · obtain ⟨memory', replied⟩ :=
        written (insideBlock_encode_iff.mpr ⟨index, size, inside, found, fits, rfl⟩)
      rw [reject_of_neg (Nat.not_lt_of_le fits)]
      refine serves_value replied ?_
      rw [Reply.shown, inventory_encode]
      rfl
    · rw [reject_of_pos (Nat.lt_of_not_le fits)]
      refine serves_value (refused_short checked (liveBlock_start found) (by omega) (by omega)
        (by omega)) ?_
      rw [Reply.shown, inventory_encode, cell]
      rfl
  · have dead : ∀ index size inside, layout.blocks[index]? = some ⟨size, true⟩ →
        inside < size → dst ≠ q.base + (start layout.blocks index + inside) :=
      fun index size inside found small same => live ⟨index, size, inside, found, small, same⟩
    obtain ⟨write, same⟩ := checked
    rw [seek_dead dead, same, cell]
    exact serves_refused (yields_checkedWrite_dead layout memory dead count write)

theorem serves_dsSafeMemoryCopy (outside : Nat → UInt8) (dst src count : Nat) :
    Serves q (layout.encode memory) none
      (dsSafeMemoryCopy q (layout.encode memory) .self outside dst src count)
      (do reject (dst = 0 ∨ src = 0 ∨ count = 0) .invalidArg
          serveWrite q layout.blocks dst count) := by
  by_cases bad : dst = 0 ∨ src = 0 ∨ count = 0
  · rw [reject_of_pos bad]
    exact serves_refused (P := Event.Safe q) (Yields.of_pos (Or.inr bad) yields_pure)
  · obtain ⟨nonNull, nonNull', positive⟩ := not_or.mp bad |>.imp_right not_or.mp
    have count_pos := Nat.pos_of_ne_zero positive
    rw [reject_of_neg bad]
    have checked := checked_copy layout memory nonNull count_pos outside nonNull'
    exact serves_checked layout memory checked rfl fun inside =>
      ⟨_, reply_copy count_pos outside nonNull' inside⟩

theorem serves_dsSafeMemorySet (dst : Nat) (value : Int) (count : Nat) :
    Serves q (layout.encode memory) none
      (dsSafeMemorySet q (layout.encode memory) .self dst value count)
      (do reject (dst = 0 ∨ count = 0) .invalidArg
          serveWrite q layout.blocks dst count) := by
  by_cases bad : dst = 0 ∨ count = 0
  · rw [reject_of_pos bad]
    exact serves_refused (P := Event.Safe q) (Yields.of_pos (Or.inr bad) yields_pure)
  · obtain ⟨nonNull, positive⟩ := not_or.mp bad
    have count_pos := Nat.pos_of_ne_zero positive
    rw [reject_of_neg bad]
    exact serves_checked layout memory (checked_set layout memory nonNull count_pos value) rfl
      fun inside => ⟨_, reply_set count_pos value inside⟩

end Initialized

/-! ### Every call -/

/-- A call that passes `NULL` is refused by both. -/
theorem serves_null_or_proper (q : Placement) (op : Op) :
    (∀ s, Serves q s op.cell (call q s op) (serve q (inventory q s) op)) ∨ op.Proper := by
  cases op with
  | initializeAllocation p =>
    cases p <;>
      first | exact .inr (by constructor) | exact .inl fun s => rfl
  | malloc p pMemory size =>
    cases p <;> cases pMemory <;>
      first | exact .inr (by constructor) | exact .inl fun s => rfl
  | free p pMemory =>
    cases p <;> cases pMemory <;>
      first | exact .inr (by constructor) | exact .inl fun s => rfl
  | calloc p pMemory len sizeOfElem =>
    cases p <;> cases pMemory <;>
      first | exact .inr (by constructor) | exact .inl fun s => rfl
  | realloc p pMemory size =>
    cases p <;> cases pMemory <;>
      first | exact .inr (by constructor) | exact .inl fun s => rfl
  | getMemoryUsage p out =>
    cases p <;> cases out <;>
      first | exact .inr (by constructor) | exact .inl fun s => rfl
  | getMaxNewAllocationSize p out =>
    cases p <;> cases out <;>
      first | exact .inr (by constructor) | exact .inl fun s => rfl
  | getFreeAllocatorCnt p out =>
    cases p <;> cases out <;>
      first | exact .inr (by constructor) | exact .inl fun s => rfl
  | deinitAllocation p => cases p <;> first | exact .inr (by constructor) | exact .inl fun s => rfl
  | safeMemoryCopy p outside dst src count =>
    cases p <;> first | exact .inr (by constructor) | exact .inl fun s => rfl
  | safeMemorySet p dst value count =>
    cases p <;> first | exact .inr (by constructor) | exact .inl fun s => rfl

theorem serves_proper {q : Placement} (layout : Layout q.toConfig) (memory : Nat → UInt8) {op : Op}
    (proper : op.Proper) :
    Serves q (layout.encode memory) op.cell (call q (layout.encode memory) op)
      (serve q (some layout.blocks) op) := by
  cases proper with
  | initializeAllocation =>
    show Serves q _ _ _ (reject (some layout.blocks ≠ none) .alreadyInit >>= _)
    rw [reject_of_pos nofun]
    show Serves q _ _ (dsInitializeAllocation q (layout.encode memory) .self) _
    unfold dsInitializeAllocation
    exact serves_refused (P := Event.Safe q) (Yields.of_neg nofun (Yields.of_pos rfl yields_pure))
  | malloc p size =>
    show Serves q _ _ _ (reject (size = 0) .invalidArg >>= _)
    rcases Nat.eq_zero_or_pos size with zero | positive
    · rw [reject_of_pos zero]
      exact serves_refused (P := Event.Safe q) (Yields.of_pos (Or.inr zero) yields_pure)
    · rw [reject_of_neg positive.ne']
      exact serves_dsMalloc layout memory positive
  | free p =>
    show Serves q _ _ _ (reject (p = 0) .invalidArg >>= _)
    by_cases null : p = 0
    · rw [reject_of_pos null]
      exact serves_refused (P := Event.Safe q) (Yields.of_pos (Or.inr null) yields_pure)
    · rw [reject_of_neg null]
      exact serves_dsFree layout memory null
  | calloc p len sizeOfElem => exact serves_dsCalloc layout memory
  | realloc p size =>
    show Serves q _ _ (dsRealloc q (layout.encode memory) .self (some p) size)
      (if size = 0 then _ else _)
    rcases Nat.eq_zero_or_pos size with rfl | positive
    · rw [if_pos rfl, dsRealloc_zero]
      by_cases null : p = 0
      · rw [reject_of_pos null]
        exact serves_refused (P := Event.Safe q) (Yields.of_pos (Or.inr null) yields_pure)
      · rw [reject_of_neg null]
        exact serves_dsFree layout memory null
    · rw [if_neg positive.ne']
      by_cases null : p = 0
      · subst null
        rw [if_pos rfl, dsRealloc_null layout memory positive]
        exact serves_dsMalloc layout memory positive
      · rw [if_neg null]
        exact serves_dsRealloc layout memory null positive
  | getMemoryUsage out => exact serves_encoded (yields_dsGetMemoryUsage layout memory out)
  | getMaxNewAllocationSize out =>
    exact serves_encoded (yields_dsGetMaxNewAllocationSize layout memory out)
  | getFreeAllocatorCnt out => exact serves_encoded (yields_dsGetFreeAllocatorCnt layout memory out)
  | deinitAllocation =>
    show Serves q _ _ (dsDeinitAllocation q (layout.encode memory) .self) (.ok (none, none))
    unfold dsDeinitAllocation Serves
    rw [if_neg nofun, if_neg (layout.encode_initialized memory)]
    exact congrArg (Shown.mk .ok none) (inventory_uninitialized (q := q) nofun)
  | safeMemoryCopy outside dst src count =>
    exact serves_dsSafeMemoryCopy layout memory outside dst src count
  | safeMemorySet dst value count => exact serves_dsSafeMemorySet layout memory dst value count

theorem serves_noInit {q : Placement} {s : DynostaticBuffer} (raw : s.initMagic ≠ dsMagicNumber)
    {cell : Option Nat} {program : Traced Event Reply} :
    Serves q s cell
      (if s.initMagic ≠ dsMagicNumber then pure ⟨.noInit, s, cell⟩ else program)
      (.error .noInit) :=
  serves_refused (P := Event.Safe q) (Yields.of_pos raw yields_pure)

/-- A check of the arguments comes before the check of `init_magic`. -/
theorem serves_check_noInit {q : Placement} {s : DynostaticBuffer}
    (raw : s.initMagic ≠ dsMagicNumber) {cell : Option Nat} {program : Traced Event Reply}
    {rejects rejects' : Prop} [Decidable rejects] [Decidable rejects']
    (same : rejects ↔ rejects') :
    Serves q s cell (if rejects then pure ⟨.invalidArg, s, cell⟩
        else if s.initMagic ≠ dsMagicNumber then pure ⟨.noInit, s, cell⟩ else program)
      (reject rejects' .invalidArg >>= fun _ => .error .noInit) := by
  by_cases rejected : rejects
  · rw [if_pos rejected, reject_of_pos (same.mp rejected)]
    rfl
  · rw [if_neg rejected, reject_of_neg (fun rejected' => rejected (same.mpr rejected'))]
    exact serves_noInit raw

theorem serves_uninitialized {q : Placement} {s : DynostaticBuffer}
    (raw : s.initMagic ≠ dsMagicNumber) {op : Op} (proper : op.Proper) :
    Serves q s op.cell (call q s op) (serve q none op) := by
  cases proper with
  | initializeAllocation => exact serves_encoded (yields_dsInitializeAllocation raw)
  | malloc p size => exact serves_check_noInit raw (by simp only [reduceCtorEq, false_or])
  | free p => exact serves_check_noInit raw (by simp only [reduceCtorEq, false_or])
  | calloc p len sizeOfElem =>
    exact serves_check_noInit raw (by simp only [reduceCtorEq, false_or])
  | realloc p size => exact serves_noInit raw
  | getMemoryUsage out => exact serves_noInit raw
  | getMaxNewAllocationSize out => exact serves_noInit raw
  | getFreeAllocatorCnt out => exact serves_noInit raw
  | deinitAllocation => exact serves_noInit raw
  | safeMemoryCopy outside dst src count =>
    exact serves_check_noInit raw (by simp only [reduceCtorEq, false_or])
  | safeMemorySet dst value count =>
    exact serves_check_noInit raw (by simp only [reduceCtorEq, false_or])

/-- **A call does what the machine does.** -/
theorem reply_shown {q : Placement} {s : DynostaticBuffer} (formed : WellFormed q s) (op : Op) :
    (reply q s op).shown q = attend q (inventory q s) op := by
  rcases serves_null_or_proper q op with null | proper
  · exact null s
  · rcases formed with raw | ⟨layout, memory, rfl⟩
    · show _ = Shown.ofServed (inventory q s) op.cell (serve q (inventory q s) op)
      have served := serves_uninitialized (q := q) raw proper
      rw [Serves] at served
      rw [inventory_uninitialized raw] at served ⊢
      exact served
    · have served := serves_proper layout memory proper
      rw [Serves] at served
      unfold attend
      rw [inventory_encode] at served ⊢
      exact served

/-! ### The machine on a layout -/

section Attend

variable {q : Placement} (layout : Layout q.toConfig)

/-- A request is answered by the grant. -/
theorem attend_malloc_granted {p size index : Nat} {after : List Block} (positive : 0 < size)
    (small : size ≤ q.maxAllocationSize) (fresh : blockAt q layout.blocks p = none)
    (granted : grant q.toConfig layout.blocks (roundUp q.alignment size) = .ok (after, index)) :
    attend q (some layout.blocks) (.malloc .self (some p) size) =
      ⟨.ok, some (q.base + start after index), some after⟩ := by
  show Shown.ofServed _ _ (reject (size = 0) .invalidArg >>= fun _ =>
    serveRequest q layout.blocks p size) = _
  unfold serveRequest
  rw [reject_of_neg positive.ne', reject_of_neg (Nat.not_lt_of_le small),
    reject_of_neg (not_not.mpr fresh), granted]
  rfl

theorem attend_malloc_refused {p size : Nat} {code : DsErrCode} (positive : 0 < size)
    (small : size ≤ q.maxAllocationSize) (fresh : blockAt q layout.blocks p = none)
    (refused : grant q.toConfig layout.blocks (roundUp q.alignment size) = .error code) :
    attend q (some layout.blocks) (.malloc .self (some p) size) =
      ⟨code, some p, some layout.blocks⟩ := by
  show Shown.ofServed _ _ (reject (size = 0) .invalidArg >>= fun _ =>
    serveRequest q layout.blocks p size) = _
  unfold serveRequest
  rw [reject_of_neg positive.ne', reject_of_neg (Nat.not_lt_of_le small),
    reject_of_neg (not_not.mpr fresh), refused]
  rfl

theorem attend_free_live {index size : Nat}
    (found : layout.blocks[index]? = some ⟨size, true⟩) :
    attend q (some layout.blocks)
        (.free .self (some (q.base + start layout.blocks index))) =
      ⟨.ok, some 0, some (layout.release index).blocks⟩ := by
  have based := q.base_pos
  have nonNull : q.base + start layout.blocks index ≠ 0 := by omega
  show Shown.ofServed _ _ (reject (q.base + start layout.blocks index = 0) .invalidArg >>=
    fun _ => serveRelease q layout.blocks (q.base + start layout.blocks index)) = _
  unfold serveRelease
  rw [reject_of_neg nonNull, seekStart_live found]
  rfl

theorem attend_free_dead {p : Nat} (nonNull : p ≠ 0)
    (dead : blockAt q layout.blocks p = none) :
    attend q (some layout.blocks) (.free .self (some p)) =
      ⟨deadCode q p, some p, some layout.blocks⟩ := by
  show Shown.ofServed _ _ (reject (p = 0) .invalidArg >>=
    fun _ => serveRelease q layout.blocks p) = _
  unfold serveRelease
  rw [reject_of_neg nonNull, seekStart_dead dead]
  rfl

/-- A fill at the start of a live block is answered by its size. -/
theorem attend_set_code_iff {index size count : Nat} (value : Int)
    (found : layout.blocks[index]? = some ⟨size, true⟩) (positive : 0 < count) :
    (attend q (some layout.blocks)
        (.safeMemorySet .self (q.base + start layout.blocks index) value count)).code = .ok ↔
      count ≤ size := by
  have based := q.base_pos
  have sought := seek_live (q := q) found (layout.capacity_of_getElem? found).positive
  rw [Nat.add_zero] at sought
  have opens : serve q (some layout.blocks)
      (.safeMemorySet .self (q.base + start layout.blocks index) value count) =
        (reject (size < 0 + count) .noMemory >>= fun _ => pure (some layout.blocks, none)) := by
    show (reject (q.base + start layout.blocks index = 0 ∨ count = 0) .invalidArg >>= fun _ =>
      serveWrite q layout.blocks (q.base + start layout.blocks index) count) = _
    unfold serveWrite
    rw [reject_of_neg (by omega), sought]
    rfl
  unfold attend
  rw [opens]
  by_cases fits : count ≤ size
  · rw [reject_of_neg (by omega)]
    exact iff_of_true rfl fits
  · rw [reject_of_pos (by omega)]
    exact iff_of_false nofun fits

/-- Every request that can be served is served alike. -/
theorem serve_of_requests {op : Op} {p size zeroed : Nat} (requests : op.Requests p size zeroed)
    (positive : 0 < size) (small : size ≤ q.maxAllocationSize) (blocks : List Block) :
    serve q (some blocks) op = serveRequest q blocks p size := by
  cases requests with
  | malloc => exact reject_of_neg positive.ne' _ _
  | calloc p len sizeOfElem =>
    have factors : ¬ (len = 0 ∨ sizeOfElem = 0) := by
      rintro (rfl | rfl)
      · rw [Nat.zero_mul] at positive
        exact Nat.lt_irrefl 0 positive
      · exact Nat.lt_irrefl 0 positive
    have exact : ¬ 2 ^ q.sizeBits ≤ len * sizeOfElem :=
      Nat.not_le_of_lt ((small.trans q.maxSize_le).trans_lt q.memorySize_lt)
    exact (reject_of_neg factors _ _).trans (reject_of_neg exact _ _)
  | realloc => exact (if_neg positive.ne').trans (if_pos rfl)

section Requests

variable {layout} (memory : Nat → UInt8) {op : Op} {p size zeroed : Nat}
  (requests : op.Requests p size zeroed) (positive : 0 < size)
  (small : size ≤ q.maxAllocationSize) (fresh : blockAt q layout.blocks p = none)

include requests positive small fresh

/-- **With room a request succeeds.** -/
theorem code_of_room (room : Room q.toConfig layout.blocks (roundUp q.alignment size)) :
    (reply q (layout.encode memory) op).code = .ok := by
  have shown := congrArg Shown.code (reply_shown (layout.wellFormed memory) op)
  rw [inventory_encode, attend, serve_of_requests requests positive small, serveRequest,
    reject_of_neg (Nat.not_lt_of_le small), reject_of_neg (not_not.mpr fresh)] at shown
  rcases grant_cases layout memory positive small with ⟨after, index, -, granted, -⟩ | ⟨full, -⟩
  · rw [granted] at shown
    exact shown
  · exact absurd room full

/-- **Without it fails** with the code of what is short. -/
theorem code_of_full (full : ¬ Room q.toConfig layout.blocks (roundUp q.alignment size)) :
    (reply q (layout.encode memory) op).code = refusal q.toConfig layout.blocks := by
  have shown := congrArg Shown.code (reply_shown (layout.wellFormed memory) op)
  rw [inventory_encode, attend, serve_of_requests requests positive small, serveRequest,
    reject_of_neg (Nat.not_lt_of_le small), reject_of_neg (not_not.mpr fresh),
    grant_refused full] at shown
  exact shown

end Requests

end Attend

/-! ### Every run -/

/-- Two instances in step: both are well formed, and their blocks are the same. -/
structure InStep (q q' : Placement) (s t : DynostaticBuffer) : Prop where
  formed : WellFormed q s
  formed' : WellFormed q' t
  inventory_eq : inventory q s = inventory q' t

/-- What a call of an action shows. -/
def shows (q : Placement) (s : DynostaticBuffer) : Action → Option Shown
  | .call op => some ((reply q s op).shown q)
  | .store _ _ => none

/-- What the machine shows of an action. A store is nothing to it. -/
def machineShows (q : Placement) (state : Inventory) : Action → Option Shown
  | .call op => some (attend q state op)
  | .store _ _ => none

/-- The machine's step. -/
def machineNext (q : Placement) (state : Inventory) : Action → Inventory
  | .call op => attendNext q state op
  | .store _ _ => state

section Steps

variable {q : Placement} {s : DynostaticBuffer}

theorem shows_eq (formed : WellFormed q s) (action : Action) :
    shows q s action = machineShows q (inventory q s) action := by
  cases action with
  | call op => exact congrArg some (reply_shown formed op)
  | store offset byte => rfl

theorem inventory_next (formed : WellFormed q s) (action : Action) :
    inventory q (next q s action) = machineNext q (inventory q s) action := by
  cases action with
  | call op => exact congrArg Shown.after (reply_shown formed op)
  | store offset byte => exact inventory_storeByte s _

end Steps

/-- **The library follows the machine.** For every build, every structure that is not initialized
and every run, what the calls show is what the machine shows from the state that is not
initialized, call for call: the code, the caller's variable and the inventory. -/
theorem run_follows_machine (q : Placement) {first : DynostaticBuffer}
    (fresh : first.initMagic ≠ dsMagicNumber) (actions : List Action) :
    trace (next q) (shows q) first actions = trace (machineNext q) (machineShows q) none actions ∧
      inventory q (run (next q) first actions) = run (machineNext q) none actions := by
  rw [← inventory_uninitialized (q := q) fresh]
  exact run_lockstep (fun _ action formed => shows_eq formed action)
    (fun _ action formed => inventory_next formed action)
    (fun _ action formed => formed.next action) actions (.inl fresh)

theorem run_follows_machine_zeroBuffer :
    inventory defaultPlacement (run (next defaultPlacement) zeroBuffer
      [.call (.initializeAllocation .self), .call (.malloc .self (some 0) 10),
        .store 3 7, .call (.malloc .self (some 0) 5), .call (.free .self (some 4096)),
        .call (.malloc .self (some 0) 300), .call (.realloc .self (some 4108) 20)]) =
      some [⟨12, false⟩, ⟨20, true⟩] :=
  (run_follows_machine defaultPlacement zeroBuffer_fresh _).2.trans (by decide)

end Dynostatic
