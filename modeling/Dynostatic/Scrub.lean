/-
**Scrubbing.**

In a build with `DS_ZERO_ON_FREE` and with clients that write only to their blocks, every byte of
the arena outside the live blocks is zero, at every moment (`Scrubbed`, `Outcome.scrubbed`). So
whatever a client is handed is zero, except the bytes of its own block that a `ds_realloc` moves
(`request_zeroed`, `resize_zeroed`), and whatever it gives back is zeroed (`release_zeroed`).
-/

import Dynostatic.Outcome

namespace Dynostatic

open Tracing Tracing.Traced Tiling Rounding Bytes Runs

variable {q : Placement}

/-- **Every byte of the arena that belongs to no live block is zero.** -/
def Scrubbed (q : Placement) (s : DynostaticBuffer) : Prop :=
  ∀ offset < q.bufferMemorySize, ¬ Owned q s offset → s.memory offset = 0

theorem scrubbed_encode_iff {layout : Layout q.toConfig} {memory : Nat → UInt8} :
    Scrubbed q (layout.encode memory) ↔
      ∀ offset < q.bufferMemorySize, ¬ Covered layout.blocks offset → memory offset = 0 := by
  simp only [Scrubbed, owned_encode_iff]
  rfl

theorem Scrubbed.byte {layout : Layout q.toConfig} {memory : Nat → UInt8}
    (scrubbed : Scrubbed q (layout.encode memory)) {offset : Nat}
    (inside : offset < q.bufferMemorySize) (uncovered : ¬ Covered layout.blocks offset) :
    memory offset = 0 :=
  scrubbed_encode_iff.mp scrubbed offset inside uncovered

/-- A zeroed arena is scrubbed, whatever the records hold. -/
theorem scrubbed_zeroed {s : DynostaticBuffer} {memory : Nat → UInt8}
    (zeroed : s.memory = fill memory 0 q.bufferMemorySize 0) : Scrubbed q s := by
  intro offset inside _
  rw [zeroed]
  exact fill_inside ⟨Nat.zero_le _, by rwa [Nat.zero_add]⟩

/-! ### One step -/

section Step

variable {layout after : Layout q.toConfig} {memory : Nat → UInt8}

theorem scrub_eq (zeroing : q.zeroOnFree = true) (memory : Nat → UInt8) (low count : Nat) :
    scrub q.toConfig memory low count = fill memory low count 0 :=
  if_pos zeroing

/-- Taking a block. -/
theorem Scrubbed.placed (scrubbed : Scrubbed q (layout.encode memory)) {size index : Nat}
    (placed : Placed layout.blocks size after.blocks index) (positive : 0 < size) (zeroed : Nat) :
    Scrubbed q (after.encode (fill memory (start after.blocks index) zeroed 0)) := by
  refine scrubbed_encode_iff.mpr fun offset inside uncovered => fill_of_eq ?_
  exact scrubbed.byte inside fun covered => uncovered (placed.covered positive covered)

/-- Releasing a block, over any arena that is clean outside the live blocks. -/
theorem Scrubbed.released (zeroing : q.zeroOnFree = true)
    (scrubbed : Scrubbed q (layout.encode memory)) {index size : Nat}
    (found : layout.blocks[index]? = some ⟨size, true⟩) :
    Scrubbed q ((layout.release index).encode
      (scrub q.toConfig memory (start layout.blocks index) size)) := by
  have positive := (layout.capacity_of_getElem? found).positive
  refine scrubbed_encode_iff.mpr fun offset inside uncovered => ?_
  rw [scrub_eq zeroing]
  by_cases here : start layout.blocks index ≤ offset ∧ offset < start layout.blocks index + size
  · exact fill_inside here
  · refine fill_of_eq (scrubbed.byte inside fun covered => ?_)
    exact uncovered (covered_release found positive covered here)

/-- Writing inside one live block. -/
theorem Scrubbed.written (scrubbed : Scrubbed q (layout.encode memory)) {index size low count : Nat}
    (found : layout.blocks[index]? = some ⟨size, true⟩) (above : start layout.blocks index ≤ low)
    (below : low + count ≤ start layout.blocks index + size) (source : Nat → UInt8) :
    Scrubbed q (layout.encode (blit memory low count source)) := by
  refine scrubbed_encode_iff.mpr fun offset inside uncovered => ?_
  have apart : offset < low ∨ low + count ≤ offset := by
    by_contra within
    exact uncovered (covered_of_getElem? found ⟨by omega, by omega⟩)
  rw [blit_outside apart]
  exact scrubbed.byte inside uncovered

/-- Growing the trailing block. -/
theorem Scrubbed.grown (scrubbed : Scrubbed q (layout.encode memory)) {front : List Block}
    {old size : Nat} (last : layout.blocks = front ++ [⟨old, true⟩])
    (grown : after.blocks = front ++ [⟨size, true⟩]) (more : old < size) :
    Scrubbed q (after.encode memory) := by
  have positive : 0 < old := (layout.capacity_of_getElem? (getElem?_of_last last)).positive
  refine scrubbed_encode_iff.mpr fun offset inside uncovered => scrubbed.byte inside ?_
  rw [grown, covered_push_iff front (by omega)] at uncovered
  rw [last, covered_push_iff front positive]
  rintro (below | here)
  · exact uncovered (.inl below)
  · exact uncovered (.inr ⟨here.1, by omega⟩)

/-- Moving a block: its copy is written inside the new block, then the old one is released. -/
theorem Scrubbed.moved (zeroing : q.zeroOnFree = true)
    (scrubbed : Scrubbed q (layout.encode memory)) {index capacity size target : Nat}
    (found : layout.blocks[index]? = some ⟨capacity, true⟩)
    (placed : Placed layout.blocks size after.blocks target) (more : capacity < size) :
    Scrubbed q ((after.release index).encode
      (relocate q.toConfig memory (start layout.blocks index) (start after.blocks target)
        capacity)) := by
  obtain ⟨capacity', large, found'⟩ := placed.getElem?_eq
  have taken := scrubbed.placed placed (Nat.zero_lt_of_lt more) 0
  rw [fill_empty] at taken
  have copied := taken.written found' le_rfl
    (show start after.blocks target + capacity ≤ start after.blocks target + capacity' by omega)
    fun i => memory (start layout.blocks index + i)
  have freed := copied.released zeroing (placed.getElem?_of_live found)
  rwa [placed.start_of_le (lt_length_of_getElem? found).le] at freed

/-- **One call keeps the arena scrubbed.** -/
theorem Outcome.scrubbed {op : Op} {r : Reply} (zeroing : q.zeroOnFree = true)
    (outcome : Outcome q layout memory op r) (scrubbed : Scrubbed q (layout.encode memory)) :
    Scrubbed q r.buffer := by
  cases outcome with
  | failed => exact scrubbed
  | reported => exact scrubbed
  | ended => exact scrubbed_zeroed rfl
  | placed _ positive _ _ placed => exact scrubbed.placed placed (roundUp_pos positive) _
  | released found => exact scrubbed.released zeroing found
  | kept => exact scrubbed
  | grown last _ _ more => exact scrubbed.grown last rfl more
  | moved found _ _ more placed => exact scrubbed.moved zeroing found placed more
  | written found _ fits => exact scrubbed.written found (Nat.le_add_right _ _) (by omega) _

end Step

/-- **One step of a run in which clients write only to their blocks.** -/
theorem Scrubbed.next (zeroing : q.zeroOnFree = true) {s : DynostaticBuffer}
    (formed : WellFormed q s) (scrubbed : Scrubbed q s) {action : Action}
    (confined : Confined q s action) : Scrubbed q (next q s action) := by
  rcases action with op | ⟨offset, byte⟩
  · rcases formed with raw | ⟨layout, memory, rfl⟩
    · show Scrubbed q (reply q s op).buffer
      rcases reply_uninitialized (q := q) raw op with same | armed
      · rwa [same]
      · rw [armed]
        exact scrubbed_zeroed rfl
    · exact (reply_outcome layout memory op).scrubbed zeroing scrubbed
  · have owned := confined offset byte rfl
    intro other inside free
    have apart : other ≠ offset := by
      rintro rfl
      exact free owned
    exact (Function.update_of_ne apart _ _).trans (scrubbed other inside free)

/-- **The arena is scrubbed at every moment of the run.** -/
theorem scrubbed_run (zeroing : q.zeroOnFree = true) {first : DynostaticBuffer}
    (fresh : first.initMagic ≠ dsMagicNumber) (actions : List Action)
    (confined : Obeys (Dynostatic.next q) (Confined q) (freshInstance q first) actions) :
    Scrubbed q (run (Dynostatic.next q) (freshInstance q first) actions) := by
  have start : WellFormed q (freshInstance q first) ∧ Scrubbed q (freshInstance q first) := by
    rw [freshInstance_eq fresh]
    exact ⟨Layout.wellFormed _ _, scrubbed_zeroed rfl⟩
  have step : ∀ s action, Confined q s action → WellFormed q s ∧ Scrubbed q s →
      WellFormed q (Dynostatic.next q s action) ∧ Scrubbed q (Dynostatic.next q s action) :=
    fun s action confined holds =>
      ⟨holds.1.next action, holds.2.next zeroing holds.1 confined⟩
  exact (run_invariant step actions _ confined start).2

/-! ### What a client sees -/

section Blocks

variable {layout : Layout q.toConfig} {memory : Nat → UInt8} {r : Reply}

/-- Every byte of a block that is handed out is zero. -/
theorem Outcome.request_zeroed {op : Op} {p size zeroed : Nat}
    (outcome : Outcome q layout memory op r) (scrubbed : Scrubbed q (layout.encode memory))
    (requests : op.Requests p size zeroed) (ok : r.code = .ok) :
    ∃ a capacity, r.cell = some a ∧ LiveBlock q r.buffer a capacity ∧ size ≤ capacity ∧
      ∀ offset, a ≤ q.base + offset → q.base + offset < a + capacity →
        r.buffer.memory offset = 0 := by
  obtain ⟨positive, small, -, after, index, placed, rfl⟩ := outcome.of_requests requests ok
  obtain ⟨capacity, large, found⟩ := placed.getElem?_eq
  have bound : start after.blocks index + capacity ≤ q.bufferMemorySize := after.end_le found
  refine ⟨_, capacity, rfl, liveBlock_start found,
    (le_roundUp q.alignment_pos size).trans large, fun offset above below => fill_of_eq ?_⟩
  refine scrubbed.byte (by omega) ?_
  exact placed.not_covered found ⟨by omega, by omega⟩

/-- Every byte of a block that is given back is zero. -/
theorem Outcome.release_zeroed (zeroing : q.zeroOnFree = true) {op : Op} {p capacity : Nat}
    (outcome : Outcome q layout memory op r)
    (live : LiveBlock q (layout.encode memory) p capacity) (releases : op.Releases p)
    (ok : r.code = .ok) :
    ∀ offset, p ≤ q.base + offset → q.base + offset < p + capacity →
      r.buffer.memory offset = 0 := by
  obtain ⟨index, size, found, rfl, rfl⟩ := outcome.of_releases releases ok
  obtain rfl := live.unique (liveBlock_start found)
  intro offset above below
  show scrub q.toConfig memory _ _ offset = 0
  rw [scrub_eq zeroing]
  exact fill_inside ⟨by omega, by omega⟩

/-- A block grown in place is live at its new capacity, and the bytes it gains are zero. -/
theorem Scrubbed.grown_zeroed (scrubbed : Scrubbed q (layout.encode memory))
    {after : Layout q.toConfig} {front : List Block} {old size : Nat}
    (last : layout.blocks = front ++ [⟨old, true⟩])
    (grown : after.blocks = front ++ [⟨size, true⟩]) :
    LiveBlock q (after.encode memory) (q.base + start layout.blocks front.length) size ∧
      ∀ offset, start layout.blocks front.length + old ≤ offset →
        offset < start layout.blocks front.length + size → memory offset = 0 := by
  have begins := start_of_last last
  have begins' := start_of_last grown
  have top : extent layout.blocks = extent front + old := extent_of_last last
  have found := getElem?_of_last grown
  have bound : start after.blocks front.length + size ≤ q.bufferMemorySize := after.end_le found
  constructor
  · rw [begins, ← begins']
    exact liveBlock_start found
  · intro offset above below
    exact scrubbed.byte (by omega) (not_covered_of_extent_le (by omega))

/-- A block moved to keeps the bytes of the old block and holds zeros past them, and the old block
is zeroed. -/
theorem Scrubbed.moved_zeroed (zeroing : q.zeroOnFree = true)
    (scrubbed : Scrubbed q (layout.encode memory)) {after : Layout q.toConfig}
    {index old size target capacity : Nat}
    (found : layout.blocks[index]? = some ⟨old, true⟩)
    (placed : Placed layout.blocks size after.blocks target) (more : old < size)
    (taken : after.blocks[target]? = some ⟨capacity, true⟩) :
    (∀ i < old, relocate q.toConfig memory (start layout.blocks index) (start after.blocks target)
      old (start after.blocks target + i) = memory (start layout.blocks index + i)) ∧
    (∀ offset, start after.blocks target + old ≤ offset →
      offset < start after.blocks target + capacity →
      relocate q.toConfig memory (start layout.blocks index) (start after.blocks target) old
        offset = 0) ∧
    ∀ offset, start layout.blocks index ≤ offset → offset < start layout.blocks index + old →
      relocate q.toConfig memory (start layout.blocks index) (start after.blocks target) old
        offset = 0 := by
  have apart := placed.apart taken found
  have bound : start after.blocks target + capacity ≤ q.bufferMemorySize := after.end_le taken
  have large : size ≤ capacity := by
    obtain ⟨capacity', large, taken'⟩ := placed.getElem?_eq
    rw [taken] at taken'
    cases taken'
    exact large
  refine ⟨?_, ?_, ?_⟩
  · intro i inside
    exact relocate_target (by omega) inside
  · intro offset above below
    rw [relocate_outside (by omega) (by omega)]
    exact scrubbed.byte (by omega) (placed.not_covered taken ⟨by omega, below⟩)
  · intro offset above below
    unfold relocate
    rw [scrub_eq zeroing]
    exact fill_inside ⟨above, below⟩

/-- A resized block holds its old bytes and zeros, and the bytes it leaves behind are zero. -/
theorem Outcome.resize_zeroed (zeroing : q.zeroOnFree = true) {p old size : Nat}
    (outcome : Outcome q layout memory (.realloc .self (some p) size) r)
    (scrubbed : Scrubbed q (layout.encode memory))
    (live : LiveBlock q (layout.encode memory) p old) (positive : 0 < size) (ok : r.code = .ok) :
    ∃ a capacity, r.cell = some a ∧ LiveBlock q r.buffer a capacity ∧ size ≤ capacity ∧
      (∀ i < old, r.buffer.memory (a - q.base + i) = memory (p - q.base + i)) ∧
      (∀ offset, a + old ≤ q.base + offset → q.base + offset < a + capacity →
        r.buffer.memory offset = 0) ∧
      (a ≠ p → ∀ offset, p ≤ q.base + offset → q.base + offset < p + old →
        r.buffer.memory offset = 0) := by
  obtain ⟨index, found, rfl⟩ := live.index
  have rounded := le_roundUp q.alignment_pos size
  rcases outcome.of_resizes found positive ok with
    ⟨fit, rfl⟩ | ⟨after, front, last, rfl, more, grown, rfl⟩ | ⟨after, target, placed, more, rfl⟩
  · refine ⟨_, old, rfl, live, rounded.trans fit, fun i _ => rfl, ?_, fun moved => absurd rfl moved⟩
    intro offset above below
    omega
  · obtain ⟨live', gained⟩ := scrubbed.grown_zeroed last grown
    refine ⟨_, roundUp q.alignment size, rfl, live', rounded, fun i _ => rfl, ?_,
      fun moved => absurd rfl moved⟩
    intro offset above below
    exact gained offset (by omega) (by omega)
  · obtain ⟨capacity, large, taken⟩ := placed.getElem?_eq
    obtain ⟨copied, gained, left⟩ := scrubbed.moved_zeroed zeroing found placed more taken
    refine ⟨_, capacity, rfl,
      liveBlock_encode_iff.mpr (blockAt_moved_target found placed positive taken),
      rounded.trans large, ?_, ?_, ?_⟩
    · intro i inside
      simp only [Nat.add_sub_cancel_left]
      exact copied i inside
    · intro offset above below
      exact gained offset (by omega) (by omega)
    · intro _ offset above below
      exact left offset (by omega) (by omega)

end Blocks

/-- **Scrubbing.** With `DS_ZERO_ON_FREE` and clients that write only to live blocks, every byte
outside the live blocks is zero in every state `s` of the run. There, a block handed out by
`ds_malloc`, `ds_calloc` or `ds_realloc` is all zero; a block resized by `ds_realloc` holds its old
bytes and zeros, and leaves zeros behind where it moves; a block released leaves zeros behind. -/
theorem scrubbing (zeroing : q.zeroOnFree = true) {first s : DynostaticBuffer}
    (fresh : first.initMagic ≠ dsMagicNumber) (actions : List Action)
    (confined : Obeys (next q) (Confined q) (freshInstance q first) actions)
    (reached : run (next q) (freshInstance q first) actions = s) :
    (∀ offset < q.bufferMemorySize, ¬ Owned q s offset → s.memory offset = 0) ∧
    (∀ op p size zeroed, op.Requests p size zeroed → (reply q s op).code = .ok →
      ∃ a capacity, (reply q s op).cell = some a ∧ LiveBlock q (reply q s op).buffer a capacity ∧
        size ≤ capacity ∧ ∀ offset, a ≤ q.base + offset → q.base + offset < a + capacity →
          (reply q s op).buffer.memory offset = 0) ∧
    (∀ p old size, LiveBlock q s p old → 0 < size →
      (reply q s (.realloc .self (some p) size)).code = .ok →
      ∃ a capacity, (reply q s (.realloc .self (some p) size)).cell = some a ∧
        LiveBlock q (reply q s (.realloc .self (some p) size)).buffer a capacity ∧
        size ≤ capacity ∧
        (∀ i < old, (reply q s (.realloc .self (some p) size)).buffer.memory (a - q.base + i) =
          s.memory (p - q.base + i)) ∧
        (∀ offset, a + old ≤ q.base + offset → q.base + offset < a + capacity →
          (reply q s (.realloc .self (some p) size)).buffer.memory offset = 0) ∧
        (a ≠ p → ∀ offset, p ≤ q.base + offset → q.base + offset < p + old →
          (reply q s (.realloc .self (some p) size)).buffer.memory offset = 0)) ∧
    ∀ op p capacity, LiveBlock q s p capacity → op.Releases p → (reply q s op).code = .ok →
      ∀ offset, p ≤ q.base + offset → q.base + offset < p + capacity →
        (reply q s op).buffer.memory offset = 0 := by
  have scrubbed : Scrubbed q s := reached ▸ scrubbed_run zeroing fresh actions confined
  have reachable : Reachable q s := reached ▸ (Reachable.freshInstance fresh).run actions
  refine ⟨scrubbed, ?_, ?_, ?_⟩
  · intro op p size zeroed requests ok
    obtain ⟨layout, memory, rfl⟩ :=
      reachable.of_initialized (initialized_of_ok ok requests.ne_initialize)
    exact (reply_outcome layout memory op).request_zeroed scrubbed requests ok
  · intro p old size live positive ok
    obtain ⟨layout, memory, rfl⟩ := reachable.of_initialized live.1
    exact (reply_outcome layout memory _).resize_zeroed zeroing scrubbed live positive ok
  · intro op p capacity live releases ok
    obtain ⟨layout, memory, rfl⟩ := reachable.of_initialized live.1
    exact (reply_outcome layout memory op).release_zeroed zeroing live releases ok

/-- The default build, with `DS_ZERO_ON_FREE`. -/
def scrubbingPlacement : Placement := { defaultPlacement with zeroOnFree := true }

/-- A byte written to a block is zero again once the block is freed. -/
theorem scrubbing_written :
    (run (next scrubbingPlacement) (freshInstance scrubbingPlacement zeroBuffer)
      [.call (.malloc .self (some 0) 10), .store 3 7, .call (.free .self (some 4096))]).memory 3 =
      0 := by
  have confined : Obeys (next scrubbingPlacement) (Confined scrubbingPlacement)
      (freshInstance scrubbingPlacement zeroBuffer)
      [.call (.malloc .self (some 0) 10), .store 3 7, .call (.free .self (some 4096))] := by
    refine ⟨nofun, ?_, nofun, trivial⟩
    rintro offset byte ⟨rfl, rfl⟩
    exact ⟨4096, 12, ⟨rfl, 0, by decide⟩, by decide, by decide⟩
  refine (scrubbing rfl zeroBuffer_fresh _ confined rfl).1 3 (by decide) ?_
  rintro ⟨p, capacity, ⟨-, index, inside, status, -⟩, -⟩
  revert index
  decide

end Dynostatic
