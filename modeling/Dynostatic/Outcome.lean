/-
**Everything a call can do.**

`Outcome` lists the results of a call on an initialized instance: it fails, it reports a value, it
ends the instance's life, or it changes the layout and the arena in one of six ways. `call_outcome`
says that every call of every public function has one of them, and meets no error on the way. The
run theorems are proved from this list; none of them opens a public function again.

On an instance that is not initialized every call fails but `ds_initialize_allocation`
(`call_uninitialized`).
-/

import Dynostatic.Calls
import Dynostatic.Getters
import Dynostatic.System

namespace Dynostatic

open Tracing Tracing.Traced Tiling Rounding Bytes

/-! ### What a call asks for -/

/-- The call asks for a block of `size` bytes whose first `zeroed` bytes are zero, through a
variable that holds `p`. -/
inductive Op.Requests : Op → (p size zeroed : Nat) → Prop
  | malloc (p size : Nat) : Op.Requests (.malloc .self (some p) size) p size 0
  | calloc (p len sizeOfElem : Nat) :
      Op.Requests (.calloc .self (some p) len sizeOfElem) p (len * sizeOfElem) (len * sizeOfElem)
  | realloc (size : Nat) : Op.Requests (.realloc .self (some 0) size) 0 size 0

/-- The call asks for the release of the block at `p`. -/
inductive Op.Releases : Op → (p : Nat) → Prop
  | free (p : Nat) : Op.Releases (.free .self (some p)) p
  | realloc (p : Nat) : Op.Releases (.realloc .self (some p) 0) p

theorem Op.Releases.target_eq {op : Op} {p : Nat} (releases : op.Releases p) :
    op.target = some p := by
  cases releases <;> rfl

/-- A `ds_realloc` that releases has the size zero. -/
theorem Op.Releases.size_eq {p p' size : Nat}
    (releases : Op.Releases (.realloc .self (some p') size) p) : size = 0 := by
  cases releases
  rfl

/-- A request names no block. -/
theorem Op.Requests.target_null {op : Op} {p size zeroed : Nat}
    (requests : op.Requests p size zeroed) : ∀ block ∈ op.target, block = 0 := by
  intro block named
  cases requests <;> cases named
  rfl

theorem Op.Requests.cell_eq {op : Op} {p size zeroed : Nat} (requests : op.Requests p size zeroed) :
    op.cell = some p := by
  cases requests <;> rfl

theorem Op.Requests.zeroed_le {op : Op} {p size zeroed : Nat}
    (requests : op.Requests p size zeroed) : zeroed ≤ size := by
  cases requests with
  | malloc => exact Nat.zero_le _
  | calloc => exact le_rfl
  | realloc => exact Nat.zero_le _

theorem Op.Requests.ne_initialize {op : Op} {p size zeroed : Nat}
    (requests : op.Requests p size zeroed) : op ≠ .initializeAllocation .self := by
  cases requests <;> nofun

theorem Op.Releases.cell_eq {op : Op} {p : Nat} (releases : op.Releases p) : op.cell = some p := by
  cases releases <;> rfl

/-- The call asks for a write of `count` bytes at `dst`. -/
inductive Op.Writes (q : Placement) (s : DynostaticBuffer) :
    Op → (dst count : Nat) → (source : Nat → UInt8) → Prop
  | copy (outside : Nat → UInt8) (dst src count : Nat) :
      Op.Writes q s (.safeMemoryCopy .self outside dst src count) dst count
        fun i => byteAt q s outside (src + i)
  | set (dst : Nat) (value : Int) (count : Nat) :
      Op.Writes q s (.safeMemorySet .self dst value count) dst count fun _ => UInt8.ofInt value

theorem Op.Writes.cell_eq {q : Placement} {s : DynostaticBuffer} {op : Op} {dst count : Nat}
    {source : Nat → UInt8} (writes : op.Writes q s dst count source) : op.cell = none := by
  cases writes <;> rfl

/-- The call is one of the getters. -/
inductive Op.Reports : Op → Prop
  | memoryUsage (out : Nat) : Op.Reports (.getMemoryUsage .self (some out))
  | maxNewAllocationSize (out : Nat) : Op.Reports (.getMaxNewAllocationSize .self (some out))
  | freeAllocatorCnt (out : Nat) : Op.Reports (.getFreeAllocatorCnt .self (some out))

/-- The call passes no `NULL` for the instance or for the caller's variable. -/
inductive Op.Proper : Op → Prop
  | initializeAllocation : Op.Proper (.initializeAllocation .self)
  | malloc (p size : Nat) : Op.Proper (.malloc .self (some p) size)
  | free (p : Nat) : Op.Proper (.free .self (some p))
  | calloc (p len sizeOfElem : Nat) : Op.Proper (.calloc .self (some p) len sizeOfElem)
  | realloc (p size : Nat) : Op.Proper (.realloc .self (some p) size)
  | getMemoryUsage (out : Nat) : Op.Proper (.getMemoryUsage .self (some out))
  | getMaxNewAllocationSize (out : Nat) : Op.Proper (.getMaxNewAllocationSize .self (some out))
  | getFreeAllocatorCnt (out : Nat) : Op.Proper (.getFreeAllocatorCnt .self (some out))
  | deinitAllocation : Op.Proper (.deinitAllocation .self)
  | safeMemoryCopy (outside : Nat → UInt8) (dst src count : Nat) :
      Op.Proper (.safeMemoryCopy .self outside dst src count)
  | safeMemorySet (dst : Nat) (value : Int) (count : Nat) :
      Op.Proper (.safeMemorySet .self dst value count)

/-- Any other call fails, whatever the instance holds. -/
theorem null_or_proper (q : Placement) (op : Op) :
    (∀ s, Fails q s op.cell (call q s op)) ∨ op.Proper := by
  cases op with
  | initializeAllocation p =>
    cases p
    · exact .inl fun s => fails_invalidArg rfl
    · exact .inr .initializeAllocation
  | malloc p pMemory size =>
    cases pMemory
    · exact .inl fun s => fails_invalidArg rfl
    · cases p
      · exact .inl fun s => fails_invalidArg rfl
      · exact .inr (.malloc _ size)
  | free p pMemory =>
    cases pMemory
    · exact .inl fun s => fails_invalidArg rfl
    · cases p
      · exact .inl fun s => fails_invalidArg rfl
      · exact .inr (.free _)
  | calloc p pMemory len sizeOfElem =>
    cases pMemory
    · exact .inl fun s => fails_invalidArg rfl
    · cases p
      · exact .inl fun s => fails_invalidArg rfl
      · exact .inr (.calloc _ len sizeOfElem)
  | realloc p pMemory size =>
    cases pMemory
    · exact .inl fun s => fails_invalidArg rfl
    · cases p
      · exact .inl fun s => fails_invalidArg rfl
      · exact .inr (.realloc _ size)
  | getMemoryUsage p out =>
    cases out
    · exact .inl fun s => fails_invalidArg (if_pos (Or.inr rfl))
    · cases p
      · exact .inl fun s => fails_invalidArg rfl
      · exact .inr (.getMemoryUsage _)
  | getMaxNewAllocationSize p out =>
    cases out
    · exact .inl fun s => fails_invalidArg (if_pos (Or.inr rfl))
    · cases p
      · exact .inl fun s => fails_invalidArg rfl
      · exact .inr (.getMaxNewAllocationSize _)
  | getFreeAllocatorCnt p out =>
    cases out
    · exact .inl fun s => fails_invalidArg (if_pos (Or.inr rfl))
    · cases p
      · exact .inl fun s => fails_invalidArg rfl
      · exact .inr (.getFreeAllocatorCnt _)
  | deinitAllocation p =>
    cases p
    · exact .inl fun s => fails_invalidArg rfl
    · exact .inr .deinitAllocation
  | safeMemoryCopy p outside dst src count =>
    cases p
    · exact .inl fun s => fails_invalidArg rfl
    · exact .inr (.safeMemoryCopy outside dst src count)
  | safeMemorySet p dst value count =>
    cases p
    · exact .inl fun s => fails_invalidArg rfl
    · exact .inr (.safeMemorySet dst value count)

/-- The instance after `ds_deinit_allocation`. -/
def deinitialized (c : Config) (memory : Nat → UInt8) : DynostaticBuffer where
  initMagic := 0
  dataHead := 0
  usedAllocators := 0
  memory := fill memory 0 c.bufferMemorySize 0
  allocators := fun _ => DsAllocator.zero

/-! ### The list -/

/-- **What a call leaves**, on the instance of a layout. -/
inductive Outcome (q : Placement) (layout : Layout q.toConfig) (memory : Nat → UInt8) :
    Op → Reply → Prop
  | failed {op : Op} {code : DsErrCode} (notOk : code ≠ .ok) (notCritical : code ≠ .criticalErr) :
      Outcome q layout memory op ⟨code, layout.encode memory, op.cell⟩
  | reported {op : Op} (reports : op.Reports) (value : Nat) :
      Outcome q layout memory op ⟨.ok, layout.encode memory, some value⟩
  | ended :
      Outcome q layout memory (.deinitAllocation .self)
        ⟨.ok, deinitialized q.toConfig memory, none⟩
  | placed {op : Op} {p size zeroed : Nat} (requests : op.Requests p size zeroed)
      (positive : 0 < size) (small : size ≤ q.maxAllocationSize)
      (fresh : blockAt q layout.blocks p = none) {after : Layout q.toConfig} {index : Nat}
      (placed : Placed layout.blocks (roundUp q.alignment size) after.blocks index) :
      Outcome q layout memory op
        ⟨.ok, after.encode (fill memory (start after.blocks index) zeroed 0),
          some (q.base + start after.blocks index)⟩
  | released {op : Op} {index size : Nat} (found : layout.blocks[index]? = some ⟨size, true⟩)
      (releases : op.Releases (q.base + start layout.blocks index)) :
      Outcome q layout memory op
        ⟨.ok, (layout.release index).encode
          (scrub q.toConfig memory (start layout.blocks index) size), some 0⟩
  | kept {index capacity size : Nat} (found : layout.blocks[index]? = some ⟨capacity, true⟩)
      (positive : 0 < size) (fit : roundUp q.alignment size ≤ capacity) :
      Outcome q layout memory (.realloc .self (some (q.base + start layout.blocks index)) size)
        ⟨.ok, layout.encode memory, some (q.base + start layout.blocks index)⟩
  | grown {front : List Block} {old size : Nat} (last : layout.blocks = front ++ [⟨old, true⟩])
      (positive : 0 < size) (small : size ≤ q.maxAllocationSize)
      (more : old < roundUp q.alignment size)
      (room : extent front + roundUp q.alignment size ≤ q.bufferMemorySize) :
      Outcome q layout memory (.realloc .self (some (q.base + extent front)) size)
        ⟨.ok, (layout.grow last (isCapacity_roundUp positive small) room).encode memory,
          some (q.base + extent front)⟩
  | moved {index capacity size : Nat} (found : layout.blocks[index]? = some ⟨capacity, true⟩)
      (positive : 0 < size) (small : size ≤ q.maxAllocationSize)
      (more : capacity < roundUp q.alignment size) {after : Layout q.toConfig} {target : Nat}
      (placed : Placed layout.blocks (roundUp q.alignment size) after.blocks target) :
      Outcome q layout memory (.realloc .self (some (q.base + start layout.blocks index)) size)
        ⟨.ok, (after.release index).encode
          (relocate q.toConfig memory (start layout.blocks index) (start after.blocks target)
            capacity),
          some (q.base + start after.blocks target)⟩
  | written {op : Op} {index size inside count : Nat} {source : Nat → UInt8}
      (found : layout.blocks[index]? = some ⟨size, true⟩) (positive : 0 < count)
      (fits : inside + count ≤ size)
      (writes : op.Writes q (layout.encode memory)
        (q.base + (start layout.blocks index + inside)) count source) :
      Outcome q layout memory op
        ⟨.ok, layout.encode (blit memory (start layout.blocks index + inside) count source), none⟩

section Inversion

variable {q : Placement} {layout : Layout q.toConfig} {memory : Nat → UInt8} {r : Reply}

/-- **A successful request takes a block.** -/
theorem Outcome.of_requests {op : Op} {p size zeroed : Nat}
    (outcome : Outcome q layout memory op r) (requests : op.Requests p size zeroed)
    (ok : r.code = .ok) :
    0 < size ∧ size ≤ q.maxAllocationSize ∧ blockAt q layout.blocks p = none ∧
      ∃ (after : Layout q.toConfig) (index : Nat),
        Placed layout.blocks (roundUp q.alignment size) after.blocks index ∧
        r = ⟨.ok, after.encode (fill memory (start after.blocks index) zeroed 0),
          some (q.base + start after.blocks index)⟩ := by
  have based := q.base_pos
  have null := requests.target_null
  cases outcome with
  | failed notOk => exact absurd ok notOk
  | reported reports => cases requests <;> cases reports
  | ended => cases requests
  | placed requests' positive small fresh placed =>
    cases requests <;> cases requests' <;>
      exact ⟨positive, small, fresh, _, _, placed, rfl⟩
  | released _ releases =>
    have := null _ releases.target_eq
    omega
  | kept =>
    have := null _ rfl
    omega
  | grown =>
    have := null _ rfl
    omega
  | moved =>
    have := null _ rfl
    omega
  | written _ _ _ writes => cases requests <;> cases writes

/-- **A successful release releases the block it names.** -/
theorem Outcome.of_releases {op : Op} {p : Nat} (outcome : Outcome q layout memory op r)
    (releases : op.Releases p) (ok : r.code = .ok) :
    ∃ index size, layout.blocks[index]? = some ⟨size, true⟩ ∧
      p = q.base + start layout.blocks index ∧
      r = ⟨.ok, (layout.release index).encode
        (scrub q.toConfig memory (start layout.blocks index) size), some 0⟩ := by
  cases outcome with
  | failed notOk => exact absurd ok notOk
  | reported reports => cases releases <;> cases reports
  | ended => cases releases
  | placed requests positive =>
    cases releases with
    | free => cases requests
    | realloc =>
      cases requests
      cases positive
  | released found releases' =>
    have same : p = q.base + start layout.blocks _ :=
      Option.some.inj (releases.target_eq.symm.trans releases'.target_eq)
    exact ⟨_, _, found, same, rfl⟩
  | kept _ positive => cases releases; cases positive
  | grown _ positive => cases releases; cases positive
  | moved _ positive => cases releases; cases positive
  | written _ _ _ writes => cases releases <;> cases writes

/-- **A successful resize of a live block keeps, grows or moves it.** -/
theorem Outcome.of_resizes {index capacity size : Nat}
    (outcome : Outcome q layout memory
      (.realloc .self (some (q.base + start layout.blocks index)) size) r)
    (found : layout.blocks[index]? = some ⟨capacity, true⟩) (positive : 0 < size)
    (ok : r.code = .ok) :
    (roundUp q.alignment size ≤ capacity ∧
      r = ⟨.ok, layout.encode memory, some (q.base + start layout.blocks index)⟩) ∨
    (∃ (after : Layout q.toConfig) (front : List Block),
      layout.blocks = front ++ [⟨capacity, true⟩] ∧ index = front.length ∧
      capacity < roundUp q.alignment size ∧
      after.blocks = front ++ [⟨roundUp q.alignment size, true⟩] ∧
      r = ⟨.ok, after.encode memory, some (q.base + start layout.blocks index)⟩) ∨
    ∃ (after : Layout q.toConfig) (target : Nat),
      Placed layout.blocks (roundUp q.alignment size) after.blocks target ∧
      capacity < roundUp q.alignment size ∧
      r = ⟨.ok, (after.release index).encode
        (relocate q.toConfig memory (start layout.blocks index) (start after.blocks target)
          capacity), some (q.base + start after.blocks target)⟩ := by
  generalize named : Op.realloc .self (some (q.base + start layout.blocks index)) size = op
    at outcome
  have based := q.base_pos
  have target : op.target = some (q.base + start layout.blocks index) := named ▸ rfl
  -- a resized block that starts at the same address is the same block
  have unique : ∀ {index' capacity' : Nat}, layout.blocks[index']? = some ⟨capacity', true⟩ →
      op.target = some (q.base + start layout.blocks index') →
      index = index' ∧ capacity = capacity' := by
    intro index' capacity' found' target'
    rw [target, Option.some.injEq, Nat.add_left_cancel_iff] at target'
    obtain rfl := start_injective found found' (layout.capacity_of_getElem? found).positive
      (layout.capacity_of_getElem? found').positive target'
    rw [found] at found'
    cases found'
    exact ⟨rfl, rfl⟩
  cases outcome with
  | failed notOk => exact absurd ok notOk
  | reported reports => subst named; cases reports
  | ended => cases named
  | placed requests =>
    have null := requests.target_null _ target
    omega
  | released _ releases =>
    subst named
    exact absurd releases.size_eq positive.ne'
  | kept found' _ fit =>
    obtain ⟨rfl, rfl⟩ := unique found' rfl
    cases named
    exact .inl ⟨fit, rfl⟩
  | @grown front old _ last _ _ more room =>
    have begins := start_of_last last
    obtain ⟨rfl, rfl⟩ := unique (getElem?_of_last last) (by rw [begins]; rfl)
    rw [begins] at named ⊢
    cases named
    exact .inr (.inl ⟨_, front, last, rfl, more, rfl, rfl⟩)
  | moved found' _ _ more placed =>
    obtain ⟨rfl, rfl⟩ := unique found' rfl
    cases named
    exact .inr (.inr ⟨_, _, placed, more, rfl⟩)
  | written _ _ _ writes => subst named; cases writes

end Inversion

/-- A call has an outcome, and meets no error. -/
def HasOutcome (q : Placement) (layout : Layout q.toConfig) (memory : Nat → UInt8) (op : Op) :
    Prop :=
  ∃ r, Outcome q layout memory op r ∧
    Yields (Event.Safe q) (call q (layout.encode memory) op) r

section Initialized

variable {q : Placement} (layout : Layout q.toConfig) (memory : Nat → UInt8)

variable {layout memory} in
theorem Fails.hasOutcome {op : Op}
    (fails : Fails q (layout.encode memory) op.cell (call q (layout.encode memory) op)) :
    HasOutcome q layout memory op := by
  obtain ⟨code, notOk, notCritical, yields⟩ := fails
  exact ⟨_, .failed notOk notCritical, yields⟩

theorem malloc_outcome (p size : Nat) :
    HasOutcome q layout memory (.malloc .self (some p) size) := by
  rcases dsMalloc_cases layout memory p size with fails | ⟨positive, small, fresh, room⟩
  · exact fails.hasOutcome
  · obtain ⟨after, index, placed, yields⟩ :=
      yields_dsMalloc_placed layout memory fresh positive small room
    refine ⟨_, .placed (.malloc p size) positive small fresh placed, ?_⟩
    rw [fill_empty]
    exact yields

/-- `ds_malloc` succeeds exactly where there is room. -/
theorem malloc_ok_iff_room {p size : Nat} (fresh : blockAt q layout.blocks p = none)
    (positive : 0 < size) (small : size ≤ q.maxAllocationSize) :
    (reply q (layout.encode memory) (.malloc .self (some p) size)).code = .ok ↔
      Room q.toConfig layout.blocks (roundUp q.alignment size) := by
  constructor
  · intro ok
    rcases dsMalloc_cases layout memory p size with fails | ⟨-, -, -, room⟩
    · exact absurd ok fails.code_ne_ok
    · exact room
  · intro room
    obtain ⟨after, index, -, yields⟩ :=
      yields_dsMalloc_placed layout memory fresh positive small room
    exact congrArg Reply.code yields.value

theorem calloc_outcome (p len sizeOfElem : Nat) :
    HasOutcome q layout memory (.calloc .self (some p) len sizeOfElem) := by
  rcases dsCalloc_cases layout memory p len sizeOfElem with
    fails | ⟨positive, small, fresh, room⟩
  · exact fails.hasOutcome
  · obtain ⟨after, index, placed, yields⟩ :=
      yields_dsCalloc_placed layout memory fresh positive small room
    exact ⟨_, .placed (.calloc p len sizeOfElem) positive small fresh placed, yields⟩

theorem free_outcome (p : Nat) : HasOutcome q layout memory (.free .self (some p)) := by
  rcases dsFree_cases layout memory p with fails | ⟨index, size, found, rfl⟩
  · exact fails.hasOutcome
  · exact ⟨_, .released found (.free _), yields_dsFree_live layout memory found⟩

/-- **A live block is resized in one of three ways**, or fails for want of room. -/
theorem resize_cases {index capacity size : Nat}
    (found : layout.blocks[index]? = some ⟨capacity, true⟩) (positive : 0 < size)
    (small : size ≤ q.maxAllocationSize) :
    (∃ r, r.code = .ok ∧
      Outcome q layout memory (.realloc .self (some (q.base + start layout.blocks index)) size) r ∧
      Yields (Event.Safe q)
        (dsRealloc q (layout.encode memory) .self (some (q.base + start layout.blocks index)) size)
        r) ∨
    (¬ Room q.toConfig layout.blocks (roundUp q.alignment size) ∧
      Fails q (layout.encode memory) (some (q.base + start layout.blocks index))
        (dsRealloc q (layout.encode memory) .self (some (q.base + start layout.blocks index))
          size)) := by
  by_cases fit : roundUp q.alignment size ≤ capacity
  · exact .inl ⟨_, rfl, .kept found positive fit,
      yields_dsRealloc_kept layout memory found positive small fit⟩
  · have more := Nat.lt_of_not_le fit
    by_cases grows : start layout.blocks index + capacity = extent layout.blocks ∧
        start layout.blocks index + roundUp q.alignment size ≤ q.bufferMemorySize
    · obtain ⟨top, room⟩ := grows
      obtain ⟨front, last, rfl⟩ := layout.exists_front found top
      rw [start_of_last last] at room ⊢
      exact .inl ⟨_, rfl, .grown last positive small more room,
        yields_dsRealloc_grown layout memory last positive small more room⟩
    · have stuck : start layout.blocks index + capacity = extent layout.blocks →
          q.bufferMemorySize < start layout.blocks index + roundUp q.alignment size :=
        fun top => Nat.lt_of_not_le fun room => grows ⟨top, room⟩
      by_cases room : Room q.toConfig layout.blocks (roundUp q.alignment size)
      · obtain ⟨after, target, placed, yields⟩ :=
          yields_dsRealloc_moved layout memory found positive small more stuck room
        exact .inl ⟨_, rfl, .moved found positive small more placed, yields⟩
      · exact .inr ⟨room,
          fails_of_refused
            (yields_dsRealloc_full layout memory found positive small more stuck room)⟩

/-- With room for a new block, a live block can be resized. -/
theorem resize_ok {index capacity size : Nat}
    (found : layout.blocks[index]? = some ⟨capacity, true⟩) (positive : 0 < size)
    (small : size ≤ q.maxAllocationSize)
    (room : Room q.toConfig layout.blocks (roundUp q.alignment size)) :
    (reply q (layout.encode memory)
      (.realloc .self (some (q.base + start layout.blocks index)) size)).code = .ok := by
  rcases resize_cases layout memory found positive small with
    ⟨r, ok, -, yields⟩ | ⟨full, -⟩
  · rw [← ok]
    exact congrArg Reply.code yields.value
  · exact absurd room full

theorem realloc_outcome (p size : Nat) :
    HasOutcome q layout memory (.realloc .self (some p) size) := by
  rcases Nat.eq_zero_or_pos size with rfl | positive
  · have same : call q (layout.encode memory) (.realloc .self (some p) 0) = _ :=
      dsRealloc_zero layout memory p
    rcases dsFree_cases layout memory p with fails | ⟨index, size, found, rfl⟩
    · refine Fails.hasOutcome ?_
      rw [same]
      exact fails
    · refine ⟨_, .released found (.realloc _), ?_⟩
      rw [same]
      exact yields_dsFree_live layout memory found
  · by_cases null : p = 0
    · subst null
      have same : call q (layout.encode memory) (.realloc .self (some 0) size) = _ :=
        dsRealloc_null layout memory positive
      rcases dsMalloc_cases layout memory 0 size with fails | ⟨-, small, fresh, room⟩
      · refine Fails.hasOutcome ?_
        rw [same]
        exact fails
      · obtain ⟨after, index, placed, yields⟩ :=
          yields_dsMalloc_placed layout memory fresh positive small room
        refine ⟨_, .placed (.realloc size) positive small fresh placed, ?_⟩
        rw [fill_empty, same]
        exact yields
    · rcases dsRealloc_cases layout memory null positive with
        fails | ⟨small, index, capacity, found, rfl⟩
      · exact fails.hasOutcome
      · rcases resize_cases layout memory found positive small with
          ⟨r, -, outcome, yields⟩ | ⟨-, fails⟩
        · exact ⟨r, outcome, yields⟩
        · exact fails.hasOutcome

theorem safeMemoryCopy_outcome (outside : Nat → UInt8) (dst src count : Nat) :
    HasOutcome q layout memory (.safeMemoryCopy .self outside dst src count) := by
  rcases dsSafeMemoryCopy_cases layout memory outside dst src count with
    fails | ⟨positive, nonNull, index, size, inside, found, fits, rfl⟩
  · exact fails.hasOutcome
  · exact ⟨_, .written found positive fits (.copy _ _ _ _),
      yields_dsSafeMemoryCopy_inside layout memory found positive fits nonNull outside⟩

theorem safeMemorySet_outcome (dst : Nat) (value : Int) (count : Nat) :
    HasOutcome q layout memory (.safeMemorySet .self dst value count) := by
  rcases dsSafeMemorySet_cases layout memory dst value count with
    fails | ⟨positive, index, size, inside, found, fits, rfl⟩
  · exact fails.hasOutcome
  · exact ⟨_, .written found positive fits (.set _ _ _),
      yields_dsSafeMemorySet_inside layout memory found positive fits value⟩

theorem fails_dsInitializeAllocation :
    Fails q (layout.encode memory) none
      (dsInitializeAllocation q (layout.encode memory) .self) := by
  unfold dsInitializeAllocation
  exact Fails.of_neg nofun (Fails.of_pos rfl (fails_pure nofun nofun))

theorem deinitAllocation_outcome :
    HasOutcome q layout memory (.deinitAllocation .self) := by
  refine ⟨_, .ended, ?_⟩
  show Yields _ (dsDeinitAllocation q (layout.encode memory) .self) _
  unfold dsDeinitAllocation
  refine Yields.of_neg nofun ?_
  refine Yields.of_neg (layout.encode_initialized memory) ?_
  refine Yields.bind (yields_dsZero _ le_rfl (Nat.zero_add _).le) ?_
  exact Yields.bind (yields_dsZeroAllocators _) yields_pure

/-- **Every call on an initialized instance has an outcome, and meets no error.** -/
theorem call_outcome (op : Op) : HasOutcome q layout memory op := by
  rcases null_or_proper q op with null | proper
  · exact (null (layout.encode memory)).hasOutcome
  · cases proper with
    | initializeAllocation => exact (fails_dsInitializeAllocation layout memory).hasOutcome
    | malloc p size => exact malloc_outcome layout memory p size
    | free p => exact free_outcome layout memory p
    | calloc p len sizeOfElem => exact calloc_outcome layout memory p len sizeOfElem
    | realloc p size => exact realloc_outcome layout memory p size
    | getMemoryUsage out =>
      exact ⟨_, .reported (.memoryUsage out) _, yields_dsGetMemoryUsage layout memory out⟩
    | getMaxNewAllocationSize out =>
      exact ⟨_, .reported (.maxNewAllocationSize out) _,
        yields_dsGetMaxNewAllocationSize layout memory out⟩
    | getFreeAllocatorCnt out =>
      exact ⟨_, .reported (.freeAllocatorCnt out) _,
        yields_dsGetFreeAllocatorCnt layout memory out⟩
    | deinitAllocation => exact deinitAllocation_outcome layout memory
    | safeMemoryCopy outside dst src count =>
      exact safeMemoryCopy_outcome layout memory outside dst src count
    | safeMemorySet dst value count => exact safeMemorySet_outcome layout memory dst value count

/-- What a call leaves, in terms of the list. -/
theorem reply_outcome (op : Op) :
    Outcome q layout memory op (reply q (layout.encode memory) op) := by
  obtain ⟨r, outcome, yields⟩ := call_outcome layout memory op
  unfold reply
  rw [yields.value]
  exact outcome

end Initialized

/-! ### An instance that is not initialized -/

section Uninitialized

variable {q : Placement} {s : DynostaticBuffer}

theorem fails_noInit {cell : Option Nat} {program : Traced Event Reply}
    (raw : s.initMagic ≠ dsMagicNumber) :
    Fails q s cell
      (if s.initMagic ≠ dsMagicNumber then pure ⟨.noInit, s, cell⟩ else program) :=
  Fails.of_pos raw (fails_pure nofun nofun)

/-- A check of the arguments before the check of `init_magic`. -/
theorem fails_uninitialized {rejects : Prop} [Decidable rejects] {cell : Option Nat}
    {program : Traced Event Reply} (raw : s.initMagic ≠ dsMagicNumber) :
    Fails q s cell (if rejects then pure ⟨.invalidArg, s, cell⟩
      else if s.initMagic ≠ dsMagicNumber then pure ⟨.noInit, s, cell⟩ else program) := by
  by_cases rejected : rejects
  · exact Fails.of_pos rejected (fails_pure nofun nofun)
  · exact Fails.of_neg rejected (fails_noInit raw)

/-- The initialization of an instance. -/
theorem yields_dsInitializeAllocation (raw : s.initMagic ≠ dsMagicNumber) :
    Yields (Event.Safe q) (dsInitializeAllocation q s .self)
      ⟨.ok, (Layout.empty q.toConfig).encode (fill s.memory 0 q.bufferMemorySize 0), none⟩ := by
  unfold dsInitializeAllocation
  refine Yields.of_neg nofun ?_
  refine Yields.of_neg raw ?_
  refine Yields.bind (yields_dsZero _ le_rfl (Nat.zero_add _).le) ?_
  exact Yields.bind (yields_dsZeroAllocators _) yields_pure

/-- **On an instance that is not initialized every call fails but the initialization.** -/
theorem call_uninitialized (raw : s.initMagic ≠ dsMagicNumber) (op : Op) :
    Fails q s op.cell (call q s op) ∨
      op = .initializeAllocation .self ∧ Yields (Event.Safe q) (call q s op)
        ⟨.ok, (Layout.empty q.toConfig).encode (fill s.memory 0 q.bufferMemorySize 0), none⟩ := by
  rcases null_or_proper q op with null | proper
  · exact .inl (null s)
  · cases proper with
    | initializeAllocation => exact .inr ⟨rfl, yields_dsInitializeAllocation raw⟩
    | malloc p size => exact .inl (fails_uninitialized raw)
    | free p => exact .inl (fails_uninitialized raw)
    | calloc p len sizeOfElem => exact .inl (fails_uninitialized raw)
    | realloc p size => exact .inl (fails_noInit raw)
    | getMemoryUsage out => exact .inl (fails_noInit raw)
    | getMaxNewAllocationSize out => exact .inl (fails_noInit raw)
    | getFreeAllocatorCnt out => exact .inl (fails_noInit raw)
    | deinitAllocation => exact .inl (fails_noInit raw)
    | safeMemoryCopy outside dst src count => exact .inl (fails_uninitialized raw)
    | safeMemorySet dst value count => exact .inl (fails_uninitialized raw)

/-- Only an initialized instance answers a call with success. -/
theorem initialized_of_ok {op : Op} (ok : (reply q s op).code = .ok)
    (other : op ≠ .initializeAllocation .self) : s.initMagic = dsMagicNumber := by
  by_contra raw
  rcases call_uninitialized (q := q) raw op with fails | ⟨same, -⟩
  · exact fails.code_ne_ok ok
  · exact other same

end Uninitialized

/-! ### Reachable states -/

section Reachable

variable {q : Placement}

/-- The instance of a layout. -/
def Encoded (q : Placement) (s : DynostaticBuffer) : Prop :=
  ∃ (layout : Layout q.toConfig) (memory : Nat → UInt8), s = layout.encode memory

/-- A state is not initialized, or it is the instance of a layout. -/
def WellFormed (q : Placement) (s : DynostaticBuffer) : Prop :=
  s.initMagic ≠ dsMagicNumber ∨ Encoded q s

theorem WellFormed.encoded {s : DynostaticBuffer} (formed : WellFormed q s)
    (initialized : s.initMagic = dsMagicNumber) : Encoded q s :=
  formed.resolve_left (not_not.mpr initialized)

theorem Layout.encoded (layout : Layout q.toConfig) (memory : Nat → UInt8) :
    Encoded q (layout.encode memory) :=
  ⟨layout, memory, rfl⟩

theorem Layout.wellFormed (layout : Layout q.toConfig) (memory : Nat → UInt8) :
    WellFormed q (layout.encode memory) :=
  .inr (layout.encoded memory)

theorem Outcome.wellFormed {layout : Layout q.toConfig} {memory : Nat → UInt8} {op : Op}
    {r : Reply} (outcome : Outcome q layout memory op r) : WellFormed q r.buffer := by
  cases outcome with
  | failed => exact layout.wellFormed memory
  | reported => exact layout.wellFormed memory
  | ended => exact .inl nofun
  | placed => exact Layout.wellFormed _ _
  | released => exact Layout.wellFormed _ _
  | kept => exact layout.wellFormed memory
  | grown => exact Layout.wellFormed _ _
  | moved => exact Layout.wellFormed _ _
  | written => exact layout.wellFormed _

/-- A call on an instance that is not initialized leaves it as it is, or initializes it. -/
theorem reply_uninitialized {s : DynostaticBuffer} (raw : s.initMagic ≠ dsMagicNumber) (op : Op) :
    (reply q s op).buffer = s ∨
      (reply q s op).buffer =
        (Layout.empty q.toConfig).encode (fill s.memory 0 q.bufferMemorySize 0) := by
  rcases call_uninitialized (q := q) raw op with ⟨code, -, -, yields⟩ | ⟨-, yields⟩
  · exact .inl (congrArg Reply.buffer yields.value)
  · exact .inr (congrArg Reply.buffer yields.value)

/-- **One step.** -/
theorem WellFormed.next {s : DynostaticBuffer} (formed : WellFormed q s) (action : Action) :
    WellFormed q (next q s action) := by
  rcases formed with raw | ⟨layout, memory, rfl⟩ <;> rcases action with op | ⟨offset, byte⟩
  · rcases reply_uninitialized (q := q) raw op with same | armed
    · left
      show (reply q s op).buffer.initMagic ≠ dsMagicNumber
      rwa [same]
    · exact .inr ⟨_, _, armed⟩
  · exact .inl raw
  · exact (reply_outcome layout memory op).wellFormed
  · exact layout.wellFormed (Function.update memory offset byte)

/-- **Reachable states are well formed.** -/
theorem Reachable.wellFormed {s : DynostaticBuffer} (reachable : Reachable q s) :
    WellFormed q s :=
  Reachable.induction (fun _ fresh => .inl fresh) (fun _ action formed => formed.next action)
    reachable

/-- A call that does not end the instance's life leaves it initialized. -/
theorem Outcome.encode {layout : Layout q.toConfig} {memory : Nat → UInt8} {op : Op} {r : Reply}
    (outcome : Outcome q layout memory op r) (continues : Continues (.call op)) :
    Encoded q r.buffer := by
  cases outcome with
  | ended => exact absurd rfl continues
  | _ => exact Layout.encoded _ _

/-- The same for a step of a run. -/
theorem next_encode (layout : Layout q.toConfig) (memory : Nat → UInt8) {action : Action}
    (continues : Continues action) : Encoded q (next q (layout.encode memory) action) := by
  rcases action with op | ⟨offset, byte⟩
  · exact (reply_outcome layout memory op).encode continues
  · exact layout.encoded (Function.update memory offset byte)

/-- A fresh instance is the instance of the empty layout, over a zeroed arena. -/
theorem freshInstance_eq {first : DynostaticBuffer} (fresh : first.initMagic ≠ dsMagicNumber) :
    freshInstance q first =
      (Layout.empty q.toConfig).encode (fill first.memory 0 q.bufferMemorySize 0) :=
  congrArg Reply.buffer (yields_dsInitializeAllocation fresh).value

theorem Reachable.of_initialized {s : DynostaticBuffer} (reachable : Reachable q s)
    (initialized : s.initMagic = dsMagicNumber) : Encoded q s :=
  reachable.wellFormed.encoded initialized

end Reachable

/-! ### Clients that keep to their blocks -/

/-- A store of the client goes to a live block. -/
def Confined (q : Placement) (s : DynostaticBuffer) (action : Action) : Prop :=
  ∀ offset byte, action = .store offset byte → Owned q s offset

end Dynostatic
