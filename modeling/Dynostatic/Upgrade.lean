/-
**The same program on a larger build.**

`Larger q q'` says that the build `q'` has at least the records, the arena and the block size of
`q`, at the same address. Does a client whose calls all succeed on `q` see the same on `q'`? Every
decision of the library is monotone in the limits but one: a trailing block that `q` has no space to
grow moves, and in a larger arena it may grow in place (`Displaced`).

* `serve_of_larger` — any other call that succeeds does the same on both;
* `upgrade_iff` — so the two builds show the same all along a run exactly when no block is displaced
  on the way. With an arena of one size none is, however many records are added.

After a displaced block a larger arena can even run out of memory where the smaller does not: the
example at the end.
-/

import Dynostatic.ErrorCodes
import Dynostatic.Machine
import Dynostatic.Resize

namespace Dynostatic

open Tracing Tracing.Traced Tiling Rounding Runs

/-- A build with no limit below another's, at the same address. -/
structure Larger (q q' : Placement) : Prop where
  base : q'.base = q.base
  alignment : q'.alignment = q.alignment
  sizeBits : q.sizeBits ≤ q'.sizeBits
  bufferMemorySize : q.bufferMemorySize ≤ q'.bufferMemorySize
  maxAllocationCount : q.maxAllocationCount ≤ q'.maxAllocationCount
  maxAllocationSize : q.maxAllocationSize ≤ q'.maxAllocationSize

/-- The call resizes the trailing block to a size it has no space for, and has it in the larger
arena. -/
def Displaced (q q' : Placement) (s : DynostaticBuffer) (op : Op) : Prop :=
  ∃ head capacity size, op = .realloc .self (some (q.base + head)) size ∧
    LiveBlock q s (q.base + head) capacity ∧ capacity < roundUp q.alignment size ∧
    ¬ GrowsInPlace q.toConfig s head capacity (roundUp q.alignment size) ∧
    GrowsInPlace q'.toConfig s head capacity (roundUp q.alignment size)

/-- The action is a store, or a call that succeeds and is not a getter. -/
def Succeeds (q : Placement) (s : DynostaticBuffer) (action : Action) : Prop :=
  ∀ op, action = .call op → (reply q s op).code = .ok ∧ ¬ op.Reports

/-! ### Answers that succeed -/

/-- A call that succeeds is one that the machine serves. -/
theorem serve_of_ok {q : Placement} {layout : Layout q.toConfig} {memory : Nat → UInt8} {op : Op}
    (ok : (reply q (layout.encode memory) op).code = .ok) :
    op.Proper ∧ ∃ after left, serve q (some layout.blocks) op = .ok (after, left) := by
  rcases null_or_proper q op with null | proper
  · exact absurd ok (null (layout.encode memory)).code_ne_ok
  refine ⟨proper, ?_⟩
  have shown := congrArg Shown.code (reply_shown (layout.wellFormed memory) op)
  rw [inventory_encode] at shown
  rcases served : serve q (some layout.blocks) op with code | ⟨after, left⟩
  · have cause : Cause q (layout.encode memory) op code :=
      blames_serve (layout.wellFormed memory) code ((inventory_encode layout memory).symm ▸ served)
    unfold attend at shown
    rw [served] at shown
    exact absurd (shown.symm.trans ok) cause.ne_ok
  · exact ⟨after, left, rfl⟩

/-! ### One call -/

section Call

variable {q q' : Placement} (larger : Larger q q') {blocks : List Block}

include larger

theorem grant_of_larger {size : Nat} {result : List Block × Nat}
    (granted : grant q.toConfig blocks size = .ok result) :
    grant q'.toConfig blocks size = .ok result := by
  unfold grant at granted ⊢
  rcases first : firstFit blocks size with _ | index <;> rw [first] at granted
  · obtain ⟨slot, granted⟩ := ok_of_reject granted
    obtain ⟨room, granted⟩ := ok_of_reject granted
    have slots := larger.maxAllocationCount
    have space := larger.bufferMemorySize
    show (reject (q'.maxAllocationCount ≤ blocks.length) _ >>= _) = _
    rw [reject_of_neg (by omega), reject_of_neg (by omega)]
    exact granted
  · exact granted

theorem seek_of_larger {address : Nat} {found : Nat × Nat × Nat}
    (sought : seek q blocks address = .ok found) : seek q' blocks address = .ok found := by
  unfold seek at sought ⊢
  rw [larger.base]
  split at sought
  · exact sought
  · cases sought

theorem seekStart_of_larger {address : Nat} {found : Nat × Nat}
    (sought : seekStart q blocks address = .ok found) :
    seekStart q' blocks address = .ok found := by
  obtain ⟨whole, inner, rest⟩ := ok_of_bind sought
  unfold seekStart
  rw [seek_of_larger larger inner]
  exact rest

theorem serveRequest_of_larger {p size : Nat} {result : Inventory × Option Nat}
    (served : serveRequest q blocks p size = .ok result) :
    serveRequest q' blocks p size = .ok result := by
  obtain ⟨small, served⟩ := ok_of_reject served
  obtain ⟨fresh, served⟩ := ok_of_reject served
  obtain ⟨⟨after, index⟩, granted, served⟩ := ok_of_bind served
  have sizes := larger.maxAllocationSize
  unfold serveRequest
  rw [reject_of_neg (by omega), blockAt, larger.base, ← blockAt, reject_of_neg fresh,
    larger.alignment, grant_of_larger larger granted]
  exact served

theorem serveRelease_of_larger {p : Nat} {result : Inventory × Option Nat}
    (served : serveRelease q blocks p = .ok result) : serveRelease q' blocks p = .ok result := by
  obtain ⟨found, sought, rest⟩ := ok_of_bind served
  unfold serveRelease
  rw [seekStart_of_larger larger sought]
  exact rest

theorem serveWrite_of_larger {dst count : Nat} {result : Inventory × Option Nat}
    (served : serveWrite q blocks dst count = .ok result) :
    serveWrite q' blocks dst count = .ok result := by
  obtain ⟨found, sought, rest⟩ := ok_of_bind served
  unfold serveWrite
  rw [seek_of_larger larger sought]
  exact rest

/-- A block grows in place on both, or on neither: then it is moved on both. -/
theorem serveResize_of_larger {p size : Nat} {result : Inventory × Option Nat}
    (served : serveResize q blocks p size = .ok result)
    (alike : ∀ index capacity, seekStart q blocks p = .ok (index, capacity) →
      capacity < roundUp q.alignment size → start blocks index + capacity = extent blocks →
      start blocks index + roundUp q.alignment size ≤ q'.bufferMemorySize →
      start blocks index + roundUp q.alignment size ≤ q.bufferMemorySize) :
    serveResize q' blocks p size = .ok result := by
  obtain ⟨small, served⟩ := ok_of_reject served
  obtain ⟨⟨index, capacity⟩, sought, served⟩ := ok_of_bind served
  have sizes := larger.maxAllocationSize
  have space := larger.bufferMemorySize
  unfold serveResize
  rw [reject_of_neg (by omega), seekStart_of_larger larger sought, larger.alignment]
  dsimp only at served
  show (if roundUp q.alignment size ≤ capacity then _ else _) = _
  by_cases fit : roundUp q.alignment size ≤ capacity
  · rw [if_pos fit] at served ⊢
    exact served
  · rw [if_neg fit] at served ⊢
    by_cases grows : start blocks index + capacity = extent blocks ∧
        start blocks index + roundUp q.alignment size ≤ q.bufferMemorySize
    · rw [if_pos grows] at served
      rw [if_pos ⟨grows.1, grows.2.trans space⟩]
      exact served
    · rw [if_neg grows] at served
      rw [if_neg fun both => grows ⟨both.1, alike index capacity sought (Nat.lt_of_not_le fit)
        both.1 both.2⟩]
      obtain ⟨⟨after, target⟩, granted, served⟩ := ok_of_bind served
      rw [grant_of_larger larger granted, larger.base]
      exact served

/-- **A call that succeeds does the same on the larger build**, if no trailing block is displaced.
-/
theorem serve_of_larger {op : Op} (proper : op.Proper) (changes : ¬ op.Reports)
    {result : Inventory × Option Nat} (served : serve q (some blocks) op = .ok result)
    (alike : ∀ p size, op = .realloc .self (some p) size → ∀ index capacity,
      seekStart q blocks p = .ok (index, capacity) → capacity < roundUp q.alignment size →
      start blocks index + capacity = extent blocks →
      start blocks index + roundUp q.alignment size ≤ q'.bufferMemorySize →
      start blocks index + roundUp q.alignment size ≤ q.bufferMemorySize) :
    serve q' (some blocks) op = .ok result := by
  cases proper with
  | initializeAllocation => exact served
  | malloc p size =>
    obtain ⟨positive, served⟩ := ok_of_reject served
    exact (reject_of_neg positive _ _).trans (serveRequest_of_larger larger served)
  | free p =>
    obtain ⟨nonNull, served⟩ := ok_of_reject served
    exact (reject_of_neg nonNull _ _).trans (serveRelease_of_larger larger served)
  | calloc p len sizeOfElem =>
    obtain ⟨positive, served⟩ := ok_of_reject served
    obtain ⟨exact, served⟩ := ok_of_reject served
    have wider := Nat.pow_le_pow_right Nat.two_pos larger.sizeBits
    refine (reject_of_neg positive _ _).trans ((reject_of_neg ?_ _ _).trans ?_)
    · omega
    · exact serveRequest_of_larger larger served
  | realloc p size =>
    show (if size = 0 then _ else _) = _
    change (if size = 0 then _ else _) = _ at served
    split at served
    · obtain ⟨nonNull, served⟩ := ok_of_reject served
      rw [if_pos ‹_›]
      exact (reject_of_neg nonNull _ _).trans (serveRelease_of_larger larger served)
    · rw [if_neg ‹_›]
      split at served
      · rw [if_pos ‹_›]
        exact serveRequest_of_larger larger served
      · rw [if_neg ‹_›]
        exact serveResize_of_larger larger served (alike p size rfl)
  | getMemoryUsage out => exact absurd (.memoryUsage out) changes
  | getMaxNewAllocationSize out => exact absurd (.maxNewAllocationSize out) changes
  | getFreeAllocatorCnt out => exact absurd (.freeAllocatorCnt out) changes
  | deinitAllocation => exact served
  | safeMemoryCopy outside dst src count =>
    obtain ⟨given, served⟩ := ok_of_reject served
    exact (reject_of_neg given _ _).trans (serveWrite_of_larger larger served)
  | safeMemorySet dst value count =>
    obtain ⟨given, served⟩ := ok_of_reject served
    exact (reject_of_neg given _ _).trans (serveWrite_of_larger larger served)

end Call

section Layout

variable {q q' : Placement} {layout : Layout q.toConfig} {memory : Nat → UInt8} {op : Op}

theorem seekStart_eq_ok_iff {p index capacity : Nat} :
    seekStart q layout.blocks p = .ok (index, capacity) ↔
      layout.blocks[index]? = some ⟨capacity, true⟩ ∧ p = q.base + start layout.blocks index := by
  constructor
  · intro sought
    rcases dead : blockAt q layout.blocks p with _ | size
    · rw [seekStart_dead dead] at sought
      cases sought
    · obtain ⟨index', found, rfl⟩ := exists_index_of_blockAt dead
      rw [seekStart_live found] at sought
      cases sought
      exact ⟨found, rfl⟩
  · rintro ⟨found, rfl⟩
    exact seekStart_live found

/-- A displaced block is one that grows in the larger arena only. -/
theorem displaced_encode_iff (larger : Larger q q') :
    Displaced q q' (layout.encode memory) op ↔ ∃ index capacity size,
      op = .realloc .self (some (q.base + start layout.blocks index)) size ∧
      layout.blocks[index]? = some ⟨capacity, true⟩ ∧ capacity < roundUp q.alignment size ∧
      start layout.blocks index + capacity = extent layout.blocks ∧
      q.bufferMemorySize < start layout.blocks index + roundUp q.alignment size ∧
      start layout.blocks index + roundUp q.alignment size ≤ q'.bufferMemorySize := by
  have space := larger.bufferMemorySize
  constructor
  · rintro ⟨head, capacity, size, called, live, more, stuck, top, room⟩
    obtain ⟨index, found, same⟩ := live.index
    obtain rfl : head = start layout.blocks index := Nat.add_left_cancel same
    have bound := layout.end_le found
    refine ⟨index, capacity, size, called, found, more, top, ?_, ?_⟩
    · exact Nat.lt_of_not_le fun fits =>
        stuck ((growsInPlace_encode_iff found).mpr ⟨top, fits⟩)
    · omega
  · rintro ⟨index, capacity, size, called, found, more, top, short, room⟩
    refine ⟨_, capacity, size, called, liveBlock_start found, more, fun grows => ?_, top, ?_⟩
    · have := ((growsInPlace_encode_iff found).mp grows).2
      omega
    · omega

/-- On the larger build a displaced block keeps its address, on the other it does not. -/
theorem attend_ne_of_displaced (larger : Larger q q')
    (ok : (reply q (layout.encode memory) op).code = .ok)
    (displaced : Displaced q q' (layout.encode memory) op) :
    attend q (some layout.blocks) op ≠ attend q' (some layout.blocks) op := by
  obtain ⟨-, after, left, served⟩ := serve_of_ok ok
  obtain ⟨index, capacity, size, rfl, found, more, top, short, room⟩ :=
    (displaced_encode_iff larger).mp displaced
  have positive : 0 < size := by
    by_contra zero
    rw [Nat.eq_zero_of_not_pos zero, roundUp_of_dvd q.alignment_pos (dvd_zero _)] at more
    exact Nat.not_lt_zero _ more
  have based := q.base_pos
  have opens : ∀ q'' : Placement, serve q'' (some layout.blocks)
      (.realloc .self (some (q.base + start layout.blocks index)) size) =
        serveResize q'' layout.blocks (q.base + start layout.blocks index) size := fun q'' =>
    (if_neg positive.ne').trans (if_neg (by omega))
  have sizes := larger.maxAllocationSize
  have sought := seekStart_live (q := q) found
  have answered := served
  rw [opens] at served
  obtain ⟨small, served⟩ := ok_of_reject served
  rw [sought] at served
  change (if roundUp q.alignment size ≤ capacity then _ else _) = _ at served
  rw [if_neg (Nat.not_le_of_lt more), if_neg (by omega)] at served
  obtain ⟨⟨blocks', target⟩, granted, served⟩ := ok_of_bind served
  -- the smaller build moves the block
  have moves : left = some (q.base + start blocks' target) := by
    cases served
    rfl
  have elsewhere : start blocks' target ≠ start layout.blocks index := by
    rcases grant_cases layout memory positive (Nat.le_of_not_lt small) with
      ⟨after', target', placed, granted', -⟩ | ⟨-, refused⟩
    · rw [granted'] at granted
      cases granted
      exact start_ne_of_placed found placed positive
    · rw [refused] at granted
      cases granted
  -- the larger one grows it
  have grows : serve q' (some layout.blocks)
      (.realloc .self (some (q.base + start layout.blocks index)) size) =
        .ok (some (layout.blocks.take index ++ [⟨roundUp q.alignment size, true⟩]),
          some (q.base + start layout.blocks index)) := by
    rw [opens]
    unfold serveResize
    rw [reject_of_neg (by omega), seekStart_of_larger larger sought, larger.alignment]
    show (if roundUp q.alignment size ≤ capacity then _ else _) = _
    rw [if_neg (Nat.not_le_of_lt more), if_pos ⟨top, room⟩]
    rfl
  intro same
  have cells := congrArg Shown.cell same
  unfold attend at cells
  rw [answered, grows] at cells
  exact elsewhere (Nat.add_left_cancel (Option.some.inj (moves.symm.trans cells)))

/-- **A call that succeeds shows the same on both builds**, exactly if it displaces no block. -/
theorem attend_eq_iff_of_larger (larger : Larger q q')
    (ok : (reply q (layout.encode memory) op).code = .ok) (changes : ¬ op.Reports) :
    attend q (some layout.blocks) op = attend q' (some layout.blocks) op ↔
      ¬ Displaced q q' (layout.encode memory) op := by
  refine ⟨fun same displaced => attend_ne_of_displaced larger ok displaced same, fun fits => ?_⟩
  obtain ⟨proper, after, left, served⟩ := serve_of_ok ok
  have served' : serve q' (some layout.blocks) op = .ok (after, left) := by
    refine serve_of_larger larger proper changes served ?_
    rintro p size rfl index capacity sought more top room
    obtain ⟨found, rfl⟩ := seekStart_eq_ok_iff.mp sought
    by_contra short
    exact fits ((displaced_encode_iff larger).mpr
      ⟨index, capacity, size, rfl, found, more, top, Nat.lt_of_not_le short, room⟩)
  unfold attend
  rw [served, served']

end Layout

/-! ### Every run -/

section Run

variable {q q' : Placement}

/-- An action shows the same on both, exactly if it displaces no block. -/
theorem InStep.shows_eq_iff (larger : Larger q q') {s t : DynostaticBuffer}
    (inStep : InStep q q' s t) {action : Action} (succeeds : Succeeds q s action) :
    shows q s action = shows q' t action ↔
      ∀ op, action = .call op → ¬ Displaced q q' s op := by
  rcases action with op | ⟨offset, byte⟩
  · obtain ⟨ok, changes⟩ := succeeds op rfl
    have same := inStep.inventory_eq
    rw [shows_eq inStep.formed, shows_eq inStep.formed', ← same]
    rcases inStep.formed with raw | ⟨layout, memory, rfl⟩
    · -- nothing but the initialization succeeds, and it is the same on both
      have arms : op = .initializeAllocation .self := by
        by_contra other
        exact raw (initialized_of_ok ok other)
      subst arms
      rw [inventory_uninitialized raw]
      exact iff_of_true rfl fun op' called displaced => by
        obtain ⟨head, capacity, size, -, live, -⟩ := displaced
        exact raw live.1
    · rw [inventory_encode]
      refine (Option.some_inj.trans (attend_eq_iff_of_larger larger ok changes)).trans ?_
      exact ⟨fun fits op' called => Action.call.inj called ▸ fits, fun fits => fits op rfl⟩
  · exact iff_of_true rfl nofun

/-- Where it shows the same, the builds stay in step. -/
theorem InStep.next {s t : DynostaticBuffer} (inStep : InStep q q' s t) {action : Action}
    (same : shows q s action = shows q' t action) :
    InStep q q' (next q s action) (next q' t action) := by
  refine ⟨inStep.formed.next action, inStep.formed'.next action, ?_⟩
  rcases action with op | ⟨offset, byte⟩
  · exact congrArg Shown.after (Option.some.inj same)
  · exact (inventory_storeByte s _).trans (inStep.inventory_eq.trans (inventory_storeByte t _).symm)

/-- **Upgrading a build.** Take any run on `q`, from a structure that is not initialized, whose
calls all succeed and are no getters. The same calls show the same codes, pointers and bookkeeping
on the larger build `q'` exactly when none of them moves a trailing block that the larger arena
could have grown in place. -/
theorem upgrade_iff (larger : Larger q q') {first : DynostaticBuffer}
    (fresh : first.initMagic ≠ dsMagicNumber) (actions : List Action)
    (succeed : Obeys (next q) (Succeeds q) first actions) :
    trace (next q) (shows q) first actions = trace (next q') (shows q') first actions ↔
      Obeys (next q) (fun s action => ∀ op, action = .call op → ¬ Displaced q q' s op) first
        actions := by
  have labels : ∀ s t action, Succeeds q s action → InStep q q' s t →
      (shows q s action = shows q' t action ↔ ∀ op, action = .call op → ¬ Displaced q q' s op) :=
    fun _ _ _ succeeds inStep => inStep.shows_eq_iff larger succeeds
  have steps : ∀ s t action, Succeeds q s action → InStep q q' s t →
      (∀ op, action = .call op → ¬ Displaced q q' s op) →
        InStep q q' (next q s action) (next q' t action) :=
    fun s t action succeeds inStep fits =>
      inStep.next ((labels s t action succeeds inStep).mpr fits)
  have started : InStep q q' first first :=
    ⟨.inl fresh, .inl fresh,
      (inventory_uninitialized fresh).trans (inventory_uninitialized fresh).symm⟩
  exact trace_eq_iff_obeys labels steps actions succeed started

/-- With an arena of one size no block is displaced. -/
theorem not_displaced_of_same_arena (same : q'.bufferMemorySize = q.bufferMemorySize)
    (s : DynostaticBuffer) (op : Op) : ¬ Displaced q q' s op := by
  rintro ⟨head, capacity, size, -, -, -, stuck, top, room⟩
  exact stuck ⟨top, same ▸ room⟩

theorem succeeds_call {s : DynostaticBuffer} {op : Op} (ok : (reply q s op).code = .ok)
    (changes : ¬ op.Reports) : Succeeds q s (.call op) := by
  rintro op' ⟨⟩
  exact ⟨ok, changes⟩

end Run

/-- An arena of 40 bytes with five records, on a 32-bit target. -/
def tinyPlacement : Placement :=
  { widePlacement with
    sizeofAllocators := 60
    bufferMemorySize := 40
    maxAllocationCount := 5
    maxAllocationSize := 32
    maxSize_le := by decide
    maxCount_pos := by decide
    maxSize_pos := by decide
    maxSize_mod := rfl
    maxSize_guard := by decide
    memorySize_lt := by decide
    maxCount_lt := by decide
    base_fits := by decide }

/-- The same with six records. -/
def manyRecords : Placement :=
  { tinyPlacement with
    sizeofAllocators := 72
    maxAllocationCount := 6
    maxCount_pos := by decide
    maxCount_lt := by decide }

/-- The same with an arena of 44 bytes. -/
def moreArena : Placement :=
  { tinyPlacement with
    bufferMemorySize := 44
    maxSize_le := by decide
    memorySize_lt := by decide
    base_fits := by decide }

/-- A hole of 24 bytes below a block that is then resized to 20. -/
def resizeOverHole : List Action :=
  [.call (.initializeAllocation .self), .call (.malloc .self (some 0) 24),
    .call (.malloc .self (some 0) 8), .call (.free .self (some 4096)),
    .call (.realloc .self (some 4120) 20), .call (.malloc .self (some 0) 8),
    .call (.malloc .self (some 0) 8)]

theorem resizeOverHole_succeeds :
    Obeys (next tinyPlacement) (Succeeds tinyPlacement) zeroBuffer resizeOverHole :=
  ⟨succeeds_call (by decide) nofun, succeeds_call (by decide) nofun,
    succeeds_call (by decide) nofun, succeeds_call (by decide) nofun,
    succeeds_call (by decide) nofun, succeeds_call (by decide) nofun,
    succeeds_call (by decide) nofun, trivial⟩

theorem tiny_le_manyRecords : Larger tinyPlacement manyRecords :=
  ⟨rfl, rfl, by decide, by decide, by decide, by decide⟩

/-- More records change nothing. -/
theorem upgrade_iff_manyRecords :
    trace (next tinyPlacement) (shows tinyPlacement) zeroBuffer resizeOverHole =
      trace (next manyRecords) (shows manyRecords) zeroBuffer resizeOverHole := by
  have fits : Obeys (next tinyPlacement)
      (fun s action => ∀ op, action = .call op → ¬ Displaced tinyPlacement manyRecords s op)
      zeroBuffer resizeOverHole :=
    resizeOverHole_succeeds.imp fun s _ _ op _ => not_displaced_of_same_arena rfl s op
  exact (upgrade_iff tiny_le_manyRecords zeroBuffer_fresh resizeOverHole
    resizeOverHole_succeeds).mpr fits

/-- **A larger arena can run out of memory where the smaller one does not.** In the small arena the
block moves into the hole, and two blocks find space above it; in the larger one it grows above the
hole, the first of the two takes the whole hole, and the second finds none. -/
example :
    Larger tinyPlacement moreArena ∧
      (trace (next tinyPlacement) (shows tinyPlacement) zeroBuffer resizeOverHole).getLast? =
        some (some ⟨.ok, some 4128, some [⟨24, true⟩, ⟨8, true⟩, ⟨8, true⟩]⟩) ∧
      (trace (next moreArena) (shows moreArena) zeroBuffer resizeOverHole).getLast? =
        some (some ⟨.noMemory, some 0, some [⟨24, true⟩, ⟨20, true⟩]⟩) :=
  ⟨⟨rfl, rfl, by decide, by decide, by decide, by decide⟩, by decide, by decide⟩

end Dynostatic
