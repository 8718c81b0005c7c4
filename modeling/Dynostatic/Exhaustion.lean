/-
**Free space and exhaustion.**

`largest` is what `ds_get_max_new_allocation_size` reports. Two results about it:

* a release only adds room, also where the cascade turns parked blocks back into space at the end,
  and a taken block only removes some (`free_helps`);
* it is `0` exactly when the records are exhausted or the memory is, the live blocks then filling
  the arena up to a tail smaller than the alignment (`exhaustion_diagnosis`).

And one about the two ends of the occupancy, where its product does not wrap: `100` is reported for
a full arena only, `0` also for live blocks of less than a percent of it (`usage_endpoints_iff`).
-/

import Dynostatic.FirstFit
import Dynostatic.Oracle
import Dynostatic.Usage

namespace Dynostatic

open Tracing Tracing.Traced Tiling Rounding Runs

variable {q : Placement}

/-! ### Room -/

section Room

variable {c : Config} {blocks : List Block} {size : Nat}

/-- A parked block that fits gives room, also once it is stripped. -/
theorem room_strip_of_fits (slots : blocks.length ≤ c.maxAllocationCount)
    (bounded : extent blocks ≤ c.bufferMemorySize) {index : Nat} {block : Block}
    (found : blocks[index]? = some block) (fit : fits size block = true) :
    Room c (strip blocks) size := by
  rcases strip_keeps_or_frees found with kept | ⟨dropped, freed⟩
  · exact .inl ⟨block, List.mem_of_getElem? kept, fit⟩
  · have inside := lt_length_of_getElem? found
    have large := (fits_iff.mp fit).2
    exact .inr ⟨by omega, by omega⟩

/-- Stripping loses no room. -/
theorem room_strip (slots : blocks.length ≤ c.maxAllocationCount)
    (bounded : extent blocks ≤ c.bufferMemorySize) (room : Room c blocks size) :
    Room c (strip blocks) size := by
  rcases room with ⟨block, member, fit⟩ | ⟨slot, room⟩
  · obtain ⟨index, found⟩ := List.mem_iff_getElem?.mp member
    exact room_strip_of_fits slots bounded found fit
  · have shorter := (prefix_strip blocks).length_le
    have lower := extent_strip_le blocks
    exact .inr ⟨by omega, by omega⟩

/-- Parking a block loses no room. -/
theorem room_mark_parked {index : Nat} (room : Room c blocks size) :
    Room c (mark blocks index false) size := by
  rcases room with ⟨block, member, fit⟩ | ⟨slot, room⟩
  · obtain ⟨other, found⟩ := List.mem_iff_getElem?.mp member
    by_cases here : index = other
    · subst here
      exact .inl ⟨_, List.mem_of_getElem? (getElem?_mark_self found false),
        fits_iff.mpr ⟨rfl, (fits_iff.mp fit).2⟩⟩
    · rw [← getElem?_mark_of_ne _ false here] at found
      exact .inl ⟨block, List.mem_of_getElem? found, fit⟩
  · exact .inr ⟨by rwa [length_mark], by rwa [extent_mark]⟩

/-- **Taking a block adds no room.** -/
theorem room_of_placed {after : List Block} {index wanted : Nat}
    (placed : Placed blocks wanted after index) (room : Room c after size) :
    Room c blocks size := by
  rcases room with ⟨block, member, fit⟩ | ⟨slot, room⟩
  · obtain ⟨other, found⟩ := List.mem_iff_getElem?.mp member
    have different : index ≠ other := by
      rintro rfl
      obtain ⟨capacity, -, taken⟩ := placed.getElem?_eq
      rw [taken] at found
      cases found
      cases (fits_iff.mp fit).1
    rw [placed.getElem?_of_ne different] at found
    exact .inl ⟨block, List.mem_of_getElem? found, fit⟩
  · have longer := placed.length_le
    have higher := placed.extent_le
    exact .inr ⟨by omega, by omega⟩

end Room

/-! ### The largest size -/

section Largest

variable {layout after : Layout q.toConfig}

/-- With more room the largest size is larger. -/
theorem largest_le_of_room
    (keeps : ∀ size, Room q.toConfig layout.blocks size → Room q.toConfig after.blocks size) :
    largest q.toConfig layout.blocks ≤ largest q.toConfig after.blocks := by
  rcases Nat.eq_zero_or_pos (largest q.toConfig layout.blocks) with zero | positive
  · exact zero.trans_le (Nat.zero_le _)
  · obtain ⟨small, room⟩ := (room_iff_le_largest layout positive).mpr le_rfl
    exact (room_iff_le_largest after positive).mp ⟨small, keeps _ room⟩

/-- **A release helps**: what could be allocated still can, and so can the block released. -/
theorem largest_release {index capacity : Nat}
    (found : layout.blocks[index]? = some ⟨capacity, true⟩) :
    max (largest q.toConfig layout.blocks) capacity ≤
      largest q.toConfig (layout.release index).blocks := by
  have slots : (mark layout.blocks index false).length ≤ q.maxAllocationCount :=
    (length_mark _ _ _).trans_le layout.length_le
  have bounded : extent (mark layout.blocks index false) ≤ q.bufferMemorySize :=
    (extent_mark _ _ _).trans_le layout.extent_le
  have good := layout.capacity_of_getElem? found
  refine max_le (largest_le_of_room fun size room => ?_) ?_
  · exact room_strip slots bounded (room_mark_parked room)
  · refine (room_iff_le_largest (layout.release index) good.positive).mp ⟨good.bounded, ?_⟩
    have exact : roundUp q.alignment capacity ≤ capacity :=
      roundUp_le q.alignment_pos good.multiple le_rfl
    exact room_strip_of_fits slots bounded (getElem?_mark_self found false)
      (fits_iff.mpr ⟨rfl, exact⟩)

/-- A parked block can be allocated. -/
theorem largest_pos_of_parked {block : Block} (member : block ∈ layout.blocks)
    (parked : block.live = false) : 0 < largest q.toConfig layout.blocks := by
  have positive := (layout.capacity block member).positive
  have below : block.size ≤ parkedMax layout.blocks :=
    (le_parkedMax_iff positive).mpr ⟨block, member, parked, le_rfl⟩
  unfold largest
  split <;> omega

/-- Where every block is live, there is only the space at the end. -/
theorem largest_of_all_live (all : ∀ block ∈ layout.blocks, block.live = true) :
    largest q.toConfig layout.blocks =
      if layout.blocks.length < q.maxAllocationCount then bumpRoom q.toConfig layout.blocks
      else 0 := by
  unfold largest
  rw [parkedMax_of_all_live all, Nat.zero_max]

/-- The space at the end is used up when the extent reaches the aligned arena. -/
theorem bumpRoom_eq_zero_iff :
    bumpRoom q.toConfig layout.blocks = 0 ↔
      extent layout.blocks = q.bufferMemorySize - q.bufferMemorySize % q.alignment := by
  have large := q.maxSize_pos
  obtain ⟨rest, split⟩ := Nat.exists_eq_add_of_le layout.extent_le
  obtain ⟨count, multiple⟩ := layout.dvd_extent
  -- the extent is a multiple of the alignment, so the tail is that of the rest
  have tail : q.bufferMemorySize % q.alignment = rest % q.alignment := by
    rw [split, multiple, Nat.mul_add_mod]
  have below := Nat.mod_le rest q.alignment
  unfold bumpRoom
  rw [tail, split, Nat.add_sub_cancel_left, Nat.min_eq_zero_iff]
  omega

/-- **Nothing can be allocated exactly when the records or the memory are exhausted.** -/
theorem largest_eq_zero_iff :
    largest q.toConfig layout.blocks = 0 ↔
      q.maxAllocationCount - liveCount layout.blocks = 0 ∨
        liveExtent layout.blocks = q.bufferMemorySize - q.bufferMemorySize % q.alignment := by
  have slots := layout.length_le
  by_cases all : ∀ block ∈ layout.blocks, block.live = true
  · rw [largest_of_all_live all, liveCount_eq_length_iff.mpr all, liveExtent_of_all_live all,
      ← bumpRoom_eq_zero_iff]
    split <;> omega
  · obtain ⟨block, member, live⟩ := not_forall₂.mp all
    have parked := Bool.eq_false_iff.mpr live
    obtain ⟨index, found⟩ := List.mem_iff_getElem?.mp member
    have counted := liveCount_lt_length found parked
    have covered := liveExtent_add_le member parked
    have positive := (layout.capacity block member).positive
    have aligned := (le_sub_mod_iff q.alignment_pos layout.dvd_extent).mpr layout.extent_le
    exact iff_of_false (largest_pos_of_parked member parked).ne' (by omega)

end Largest

/-! ### The getters -/

/-- The getter reports the value, whatever the caller's variable holds. -/
def Reports (q : Placement) (s : DynostaticBuffer) (getter : Option Nat → Op) (value : Nat) :
    Prop :=
  ∀ out, reply q s (getter (some out)) = ⟨.ok, s, some value⟩

section Getters

variable {layout : Layout q.toConfig} {memory : Nat → UInt8} {value : Nat}

/-- A getter reports one value. -/
theorem reports_iff {s : DynostaticBuffer} {getter : Option Nat → Op} {answer : Nat}
    (answered : Reports q s getter answer) : Reports q s getter value ↔ answer = value := by
  refine ⟨fun reports => ?_, fun same => same ▸ answered⟩
  exact Option.some.inj (congrArg Reply.cell ((answered 0).symm.trans (reports 0)))

theorem reports_max_iff :
    Reports q (layout.encode memory) (.getMaxNewAllocationSize .self) value ↔
      largest q.toConfig layout.blocks = value :=
  reports_iff fun out => (yields_dsGetMaxNewAllocationSize layout memory out).value

theorem reports_free_iff :
    Reports q (layout.encode memory) (.getFreeAllocatorCnt .self) value ↔
      q.maxAllocationCount - liveCount layout.blocks = value :=
  reports_iff fun out => (yields_dsGetFreeAllocatorCnt layout memory out).value

end Getters

/-- **Freeing helps, allocating costs.** In a reachable state: after the release of a live block of
capacity `c` the largest size reported is at least the one before and at least `c`, and a
`ds_malloc` up to `c`, or of a size that would have succeeded before, succeeds. After a block is
handed out it is at most the one before. -/
theorem free_helps {s : DynostaticBuffer} (reachable : Reachable q s) :
    (∀ op p c v, LiveBlock q s p c → op.Releases p → (reply q s op).code = .ok →
      Reports q s (.getMaxNewAllocationSize .self) v →
      (∃ v', Reports q (reply q s op).buffer (.getMaxNewAllocationSize .self) v' ∧
        max v c ≤ v') ∧
      ∀ size p', 1 ≤ size →
        size ≤ c ∨ (∃ p'', (reply q s (.malloc .self (some p'') size)).code = .ok) →
        (∀ capacity, ¬ LiveBlock q (reply q s op).buffer p' capacity) →
        (reply q (reply q s op).buffer (.malloc .self (some p') size)).code = .ok) ∧
    ∀ op p size zeroed v, op.Requests p size zeroed → (reply q s op).code = .ok →
      Reports q s (.getMaxNewAllocationSize .self) v →
      ∃ v', Reports q (reply q s op).buffer (.getMaxNewAllocationSize .self) v' ∧ v' ≤ v := by
  constructor
  · intro op p c v live releases ok reports
    obtain ⟨layout, memory, rfl⟩ := reachable.of_initialized live.1
    obtain ⟨index, capacity, found, rfl, released⟩ :=
      (reply_outcome layout memory op).of_releases releases ok
    obtain rfl := live.unique (liveBlock_start found)
    obtain rfl := reports_max_iff.mp reports
    have more := largest_release found
    rw [released]
    refine ⟨⟨_, reports_max_iff.mpr rfl, more⟩, fun size p' positive small fresh => ?_⟩
    refine (malloc_ok_iff _ _ positive (not_liveBlock_encode_iff.mp fresh)).mpr ?_
    rcases small with small | ⟨p'', succeeds⟩
    · exact small.trans ((le_max_right _ _).trans more)
    · exact (le_largest_of_malloc_ok layout memory succeeds).trans ((le_max_left _ _).trans more)
  · intro op p size zeroed v requests ok reports
    obtain ⟨layout, memory, rfl⟩ :=
      reachable.of_initialized (initialized_of_ok ok requests.ne_initialize)
    obtain ⟨-, -, -, after, index, placed, taken⟩ :=
      (reply_outcome layout memory op).of_requests requests ok
    obtain rfl := reports_max_iff.mp reports
    rw [taken]
    exact ⟨_, reports_max_iff.mpr rfl, largest_le_of_room fun size => room_of_placed placed⟩

/-- **Exhaustion diagnosis.** In a reachable initialized instance the largest size reported is `0`
exactly when no record is free or the live blocks fill the aligned arena. With a parked block it is
positive. -/
theorem exhaustion_diagnosis {s : DynostaticBuffer} (reachable : Reachable q s)
    (initialized : s.initMagic = dsMagicNumber) :
    (Reports q s (.getMaxNewAllocationSize .self) 0 ↔
      Reports q s (.getFreeAllocatorCnt .self) 0 ∨
        liveSum q.toConfig s = q.bufferMemorySize - q.bufferMemorySize % q.alignment) ∧
    ((∃ index < q.maxAllocationCount, (s.allocators index).allocationStatus = .free) →
      ∃ value, Reports q s (.getMaxNewAllocationSize .self) value ∧ 0 < value) := by
  obtain ⟨layout, memory, rfl⟩ := reachable.of_initialized initialized
  rw [reports_max_iff, reports_free_iff, liveSum_encode]
  refine ⟨largest_eq_zero_iff, ?_⟩
  rintro ⟨index, -, status⟩
  obtain ⟨size, found⟩ := records_free_iff.mp status
  exact ⟨_, reports_max_iff.mpr rfl, largest_pos_of_parked (List.mem_of_getElem? found) rfl⟩

/-- In the default build, freeing the first of two blocks leaves as much to allocate as before. -/
theorem free_helps_first :
    ∃ value, Reports defaultPlacement
        (reply defaultPlacement twoLive (.free .self (some 4096))).buffer
        (.getMaxNewAllocationSize .self) value ∧ max 256 12 ≤ value :=
  ((free_helps twoLive_reachable).1 (.free .self (some 4096)) 4096 12 256
    ⟨rfl, 0, by decide, rfl, rfl, rfl⟩ (.free 4096) (by decide) fun _ => rfl).1

theorem exhaustion_diagnosis_parked :
    ∃ value, Reports defaultPlacement parkedBelow (.getMaxNewAllocationSize .self) value ∧
      0 < value :=
  (exhaustion_diagnosis parkedBelow_reachable rfl).2 ⟨0, by decide, by decide⟩

/-! ### The ends of the occupancy -/

section Endpoints

variable {s : DynostaticBuffer}

/-- There is no live block exactly when their capacities sum to `0`, as none is empty. -/
theorem liveSum_eq_zero_iff (reachable : Reachable q s)
    (initialized : s.initMagic = dsMagicNumber) :
    liveSum q.toConfig s = 0 ↔ ∀ p capacity, ¬ LiveBlock q s p capacity := by
  obtain ⟨layout, memory, rfl⟩ := reachable.of_initialized initialized
  rw [liveSum_encode,
    liveExtent_eq_zero_iff fun block member => (layout.capacity block member).positive]
  constructor
  · intro none p capacity live
    obtain ⟨index, found, -⟩ := live.index
    cases none _ (List.mem_of_getElem? found)
  · rintro none ⟨size, _ | _⟩ member
    · rfl
    · obtain ⟨index, found⟩ := List.mem_iff_getElem?.mp member
      exact absurd (liveBlock_start found) (none _ _)

variable (reachable : Reachable q s) (initialized : s.initMagic = dsMagicNumber)
  (exact : 100 * q.bufferMemorySize < 2 ^ q.sizeBits)

include reachable initialized exact

theorem reports_usage_iff {value : Nat} :
    Reports q s (.getMemoryUsage .self) value ↔
      100 * liveSum q.toConfig s / q.bufferMemorySize = value := by
  have below := liveSum_le reachable initialized
  exact reports_iff (reply_getMemoryUsage_exact reachable initialized (by omega))

/-- Live blocks of less than a percent of the arena are rounded down to `0`. -/
theorem reports_usage_zero_iff :
    Reports q s (.getMemoryUsage .self) 0 ↔ 100 * liveSum q.toConfig s < q.bufferMemorySize := by
  have positive := bufferMemorySize_pos q.toConfig
  rw [reports_usage_iff reachable initialized exact, Nat.div_eq_zero_iff]
  omega

/-- A full arena is `100` percent, and no other is rounded to it. -/
theorem reports_usage_hundred_iff :
    Reports q s (.getMemoryUsage .self) 100 ↔ liveSum q.toConfig s = q.bufferMemorySize := by
  have positive := bufferMemorySize_pos q.toConfig
  have below := liveSum_le reachable initialized
  rw [reports_usage_iff reachable initialized exact, Nat.div_eq_iff positive]
  omega

end Endpoints

/-- **When the ends of the occupancy mean what they say.** In a reachable state, where `100` times
the arena is a `size_t`: `0` is reported exactly without live blocks and `100` exactly when their
capacities sum to the arena, if and only if the instance is initialized and has no live block or
enough of them for one percent. -/
theorem usage_endpoints_iff (q : Placement) (exact : 100 * q.bufferMemorySize < 2 ^ q.sizeBits)
    {s : DynostaticBuffer} (reachable : Reachable q s) :
    ((Reports q s (.getMemoryUsage .self) 0 ↔ ∀ p capacity, ¬ LiveBlock q s p capacity) ∧
      (Reports q s (.getMemoryUsage .self) 100 ↔
        liveSum q.toConfig s = q.bufferMemorySize)) ↔
      s.initMagic = dsMagicNumber ∧ ((∀ p capacity, ¬ LiveBlock q s p capacity) ∨
        q.bufferMemorySize ≤ 100 * liveSum q.toConfig s) := by
  by_cases initialized : s.initMagic = dsMagicNumber
  · have positive := bufferMemorySize_pos q.toConfig
    rw [reports_usage_zero_iff reachable initialized exact,
      reports_usage_hundred_iff reachable initialized exact,
      ← liveSum_eq_zero_iff reachable initialized, and_iff_left Iff.rfl, and_iff_right initialized]
    omega
  · -- nothing is reported, although there is no live block
    refine iff_of_false (fun both => initialized ?_) fun both => initialized both.1
    have reports := both.1.mpr fun p capacity live => initialized live.1
    exact initialized_of_ok (congrArg Reply.code (reports 0)) nofun

/-- Two blocks of 12 bytes are more than one percent of the default arena. -/
theorem usage_endpoints_twoLive :
    Reports defaultPlacement twoLive (.getMemoryUsage .self) 0 ↔
      ∀ p capacity, ¬ LiveBlock defaultPlacement twoLive p capacity :=
  ((usage_endpoints_iff defaultPlacement (by decide) twoLive_reachable).mpr
    ⟨rfl, .inr (by decide)⟩).1

/-- An instance with one live block of four bytes. -/
def smallLive : DynostaticBuffer :=
  run (next defaultPlacement) (freshInstance defaultPlacement zeroBuffer)
    [.call (.malloc .self (some 0) 4)]

theorem smallLive_reachable : Reachable defaultPlacement smallLive :=
  (Reachable.freshInstance zeroBuffer_fresh).run _

/-- **`0` is reported with a live block**: four bytes of 1024 are less than one percent. -/
theorem usage_zero_with_block :
    100 * defaultPlacement.bufferMemorySize < 2 ^ defaultPlacement.sizeBits ∧
      Reachable defaultPlacement smallLive ∧ smallLive.initMagic = dsMagicNumber ∧
      LiveBlock defaultPlacement smallLive 4096 4 ∧
      Reports defaultPlacement smallLive (.getMemoryUsage .self) 0 ∧
      ¬ (Reports defaultPlacement smallLive (.getMemoryUsage .self) 0 ↔
        ∀ p capacity, ¬ LiveBlock defaultPlacement smallLive p capacity) := by
  have live : LiveBlock defaultPlacement smallLive 4096 4 := ⟨rfl, 0, by decide, rfl, rfl, rfl⟩
  have reports : Reports defaultPlacement smallLive (.getMemoryUsage .self) 0 := fun _ => rfl
  exact ⟨by decide, smallLive_reachable, rfl, live, reports,
    fun same => same.mp reports 4096 4 live⟩

end Dynostatic
