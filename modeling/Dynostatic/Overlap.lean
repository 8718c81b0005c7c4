/-
**The precondition of `ds_memcpy`.**

The source says that the callers of `ds_memcpy` guarantee that its two ranges do not overlap.
`ds_realloc` does: the block it copies to is apart from the block it copies from, which is still
live, and the scrubbing that follows stays in the old block (`realloc_exact`).
`ds_safe_memory_copy` looks up the destination only, so nothing there keeps the source away from it:
it calls `memcpy` on whatever ranges pass the check of the destination (`copy_exact_iff`). A call
meets the precondition exactly when it is no such copy (`memcpy_defined_iff`), and
`memcpy_overlaps` is one that is.
-/

import Dynostatic.Events
import Dynostatic.Writes

namespace Dynostatic

open Tracing Tracing.Traced Tiling Rounding Bytes Runs

variable {q : Placement}

/-- The memory outside the arena, for a call that reads it. -/
def Op.outside : Op → Nat → UInt8
  | .safeMemoryCopy _ outside _ _ _ => outside
  | _ => fun _ => 0

/-- Two ranges of one length share no byte. -/
def RangesApart (dest src count : Nat) : Prop := dest + count ≤ src ∨ src + count ≤ dest

/-- **A `memcpy` is defined and copies**: its ranges are apart, and the destination ends up with the
bytes the source range held before the call. -/
def Event.Exact (q : Placement) (s : DynostaticBuffer) (op : Op) : Event → Prop
  | .copy dest src count => RangesApart dest src count ∧ ∀ i < count,
      byteAt q (reply q s op).buffer op.outside (dest + i) = byteAt q s op.outside (src + i)
  | _ => True

/-- Every `memcpy` of the call is defined and copies. -/
def CopiesExactly (q : Placement) (s : DynostaticBuffer) (op : Op) : Prop :=
  Every (Event.Exact q s op) (call q s op)

/-- A safe copy whose destination passes the check has its source apart from the destination. -/
def SourceApart (q : Placement) (s : DynostaticBuffer) (op : Op) : Prop :=
  ∀ outside dst src count, op = .safeMemoryCopy .self outside dst src count → src ≠ 0 →
    InsideBlock q s dst count → RangesApart dst src count

/-- The same of an action, if it is a call. -/
def OnCalls (holds : DynostaticBuffer → Op → Prop) (s : DynostaticBuffer) (action : Action) :
    Prop :=
  ∀ op, action = .call op → holds s op

theorem Event.Plain.exact {s : DynostaticBuffer} {op : Op} (event : Event) (plain : event.Plain) :
    event.Exact q s op := by
  cases event with
  | copy => exact plain.elim
  | _ => trivial

/-! ### `ds_realloc` -/

section Realloc

variable {layout : Layout q.toConfig} {memory : Nat → UInt8}

/-- The lookup of `ds_free` and `ds_realloc` succeeds at the start of a live block only. -/
theorem live_of_forMemory_ok {p : Nat}
    (ok : (dsFindAllocatorForMemory q (layout.encode memory) p 0).value.code = .ok) :
    ∃ index capacity, layout.blocks[index]? = some ⟨capacity, true⟩ ∧
      p = q.base + start layout.blocks index ∧
      (dsFindAllocatorForMemory q (layout.encode memory) p 0).value.allocIdx = index := by
  rcases starts : blockAt q layout.blocks p with _ | capacity
  · obtain ⟨found, code, looked⟩ := yields_forMemory_dead layout memory starts 0
    rw [looked.value, code] at ok
    exact absurd ok (deadCode_ne_ok p)
  · obtain ⟨index, found, rfl⟩ := exists_index_of_blockAt starts
    rw [(yields_forMemory_live layout memory found 0).value]
    exact ⟨index, capacity, found, rfl, rfl⟩

/-- **A move copies exactly.** -/
theorem exact_of_moved {index capacity target size : Nat} {after : Layout q.toConfig} {op : Op}
    (found : layout.blocks[index]? = some ⟨capacity, true⟩)
    (placed : Placed layout.blocks (roundUp q.alignment size) after.blocks target)
    (more : capacity < roundUp q.alignment size)
    (moved : (reply q (layout.encode memory) op).buffer =
      (after.release index).encode (relocate q.toConfig memory (start layout.blocks index)
        (start after.blocks target) capacity)) :
    Event.Exact q (layout.encode memory) op
      (.copy (q.base + start after.blocks target) (q.base + start layout.blocks index)
        capacity) := by
  obtain ⟨capacity', large, taken⟩ := placed.getElem?_eq
  have apart := placed.apart taken found
  have bound : start layout.blocks index + capacity ≤ q.bufferMemorySize := layout.end_le found
  have bound' : start after.blocks target + capacity' ≤ q.bufferMemorySize := after.end_le taken
  refine ⟨?_, fun i inside => ?_⟩
  · unfold RangesApart
    omega
  · rw [moved, Nat.add_assoc, Nat.add_assoc, byteAt_inside _ _ (by omega),
      byteAt_inside _ _ (by omega)]
    exact relocate_target (by omega) inside

/-- **`ds_realloc` meets the precondition.** -/
theorem realloc_exact {s : DynostaticBuffer} (formed : WellFormed q s) (p size : Nat) :
    CopiesExactly q s (.realloc .self (some p) size) := by
  refine every_dsRealloc Event.Plain.exact (fun _ => trivial)
    fun nonZero live room ok handed => ?_
  have answered : (reply q s (.realloc .self (some p) size)).code = .ok := ok
  have initialized := initialized_of_ok answered nofun
  obtain ⟨layout, memory, rfl⟩ := formed.encoded initialized
  obtain ⟨index, capacity, found, rfl, same⟩ := live_of_forMemory_ok live
  have fresh : reply q (layout.encode memory) (.malloc .self (some 0) size) =
      (dsMalloc q (layout.encode memory) .self (some 0) size).value := rfl
  obtain ⟨-, -, -, after, target, placed, taken⟩ :=
    (reply_outcome layout memory _).of_requests (.malloc 0 size) room
  rw [fresh] at taken
  rw [taken, Option.getD_some] at handed ⊢
  rw [same, layout.encode_live memory found]
  -- the block handed out is not the one that was live, so it was moved
  have different := start_ne_of_placed found placed (Nat.pos_of_ne_zero nonZero)
  have outcome := reply_outcome layout memory
    (.realloc .self (some (q.base + start layout.blocks index)) size)
  have target_eq : (reply q (layout.encode memory)
      (.realloc .self (some (q.base + start layout.blocks index)) size)).cell =
      some (q.base + start after.blocks target) := handed
  rcases outcome.of_resizes found (Nat.pos_of_ne_zero nonZero) ok with
    ⟨-, kept⟩ | ⟨_, _, -, -, -, -, grown⟩ | ⟨other, target', placed', more, moved⟩
  · rw [kept, Option.some.injEq, Nat.add_left_cancel_iff] at target_eq
    exact absurd target_eq.symm different
  · rw [grown, Option.some.injEq, Nat.add_left_cancel_iff] at target_eq
    exact absurd target_eq.symm different
  · rw [moved, Option.some.injEq, Nat.add_left_cancel_iff] at target_eq
    show Event.Exact q _ _ (.copy (q.base + start after.blocks target) _ capacity)
    rw [← target_eq]
    exact exact_of_moved found placed' more (congrArg Reply.buffer moved)

end Realloc

/-! ### `ds_safe_memory_copy` -/

/-- A byte just written, at its address. -/
theorem byteAt_storeBytes {s : DynostaticBuffer} {outside source : Nat → UInt8} {dst count i : Nat}
    (above : q.base ≤ dst) (below : dst + count ≤ q.base + q.bufferMemorySize)
    (inside : i < count) :
    byteAt q (storeBytes q s dst count source) outside (dst + i) = source i := by
  obtain ⟨low, rfl⟩ := Nat.exists_eq_add_of_le above
  rw [storeBytes_base, Nat.add_assoc, byteAt_inside _ _ (by omega)]
  show blit s.memory low count source (low + i) = source i
  rw [blit_inside ⟨by omega, by omega⟩, Nat.add_sub_cancel_left]

/-- **A safe copy meets the precondition exactly when its source is apart from its destination.** -/
theorem copy_exact_iff {s : DynostaticBuffer} (formed : WellFormed q s) (outside : Nat → UInt8)
    (dst src count : Nat) :
    CopiesExactly q s (.safeMemoryCopy .self outside dst src count) ↔
      SourceApart q s (.safeMemoryCopy .self outside dst src count) := by
  constructor
  · rintro exact _ _ _ _ ⟨⟩ nonNull inside
    rcases Nat.eq_zero_or_pos count with rfl | positive
    · unfold RangesApart
      omega
    · obtain ⟨p, capacity, live, -⟩ := id inside
      obtain ⟨layout, memory, rfl⟩ := formed.encoded live.1
      have answer := reply_copy positive outside nonNull inside
      exact (exact _ (copy_mem_dsSafeMemoryCopy (congrArg Reply.code answer))).1
  · intro apart
    refine every_dsSafeMemoryCopy Event.Plain.exact fun ok => ?_
    have answered : (reply q s (.safeMemoryCopy .self outside dst src count)).code = .ok := ok
    have initialized := initialized_of_ok answered nofun
    obtain ⟨layout, memory, rfl⟩ := formed.encoded initialized
    rcases dsSafeMemoryCopy_cases layout memory outside dst src count with
      fails | ⟨positive, nonNull, index, size, distance, found, fits, rfl⟩
    · exact absurd ok fails.code_ne_ok
    · have bound : start layout.blocks index + size ≤ q.bufferMemorySize := layout.end_le found
      have block : InsideBlock q (layout.encode memory) _ count :=
        insideBlock_encode_iff.mpr ⟨index, size, distance, found, fits, rfl⟩
      refine ⟨apart _ _ _ _ rfl nonNull block, fun i inside => ?_⟩
      have answer := reply_copy positive outside nonNull block
      rw [congrArg Reply.buffer answer, byteAt_storeBytes (by omega) (by omega) inside]
      rfl

/-! ### Every call -/

/-- Only a safe copy needs its source to be apart. -/
theorem sourceApart_of_ne {s : DynostaticBuffer} {op : Op}
    (other : ∀ outside dst src count, op ≠ .safeMemoryCopy .self outside dst src count) :
    SourceApart q s op :=
  fun outside dst src count same => absurd same (other outside dst src count)

/-- **A call meets the precondition exactly when it is no overlapping copy.** -/
theorem exact_iff {s : DynostaticBuffer} (formed : WellFormed q s) (op : Op) :
    CopiesExactly q s op ↔ SourceApart q s op := by
  have plain : ∀ event : Event, event.Plain → event.Exact q s op := Event.Plain.exact
  have reports := every_reports plain q s
  cases op with
  | initializeAllocation p => exact iff_of_true (reports p none).2.2.2.1 (sourceApart_of_ne nofun)
  | malloc p pMemory size =>
    exact iff_of_true (every_dsMalloc plain q s p pMemory fun _ => trivial)
      (sourceApart_of_ne nofun)
  | free p pMemory => exact iff_of_true (every_dsFree plain q s p pMemory) (sourceApart_of_ne nofun)
  | calloc p pMemory len sizeOfElem =>
    exact iff_of_true (every_dsCalloc plain q s p pMemory len sizeOfElem fun _ _ => trivial)
      (sourceApart_of_ne nofun)
  | realloc p pMemory size =>
    refine iff_of_true ?_ (sourceApart_of_ne nofun)
    cases pMemory with
    | none => exact every_pure _ _
    | some memory =>
      cases p with
      | null => exact every_pure _ _
      | self => exact realloc_exact formed memory size
  | getMemoryUsage p out => exact iff_of_true (reports p out).1 (sourceApart_of_ne nofun)
  | getMaxNewAllocationSize p out => exact iff_of_true (reports p out).2.1 (sourceApart_of_ne nofun)
  | getFreeAllocatorCnt p out => exact iff_of_true (reports p out).2.2.1 (sourceApart_of_ne nofun)
  | deinitAllocation p => exact iff_of_true (reports p none).2.2.2.2 (sourceApart_of_ne nofun)
  | safeMemoryCopy p outside dst src count =>
    cases p with
    | null => exact iff_of_true (every_pure _ _) (sourceApart_of_ne nofun)
    | self => exact copy_exact_iff formed outside dst src count
  | safeMemorySet p dst value count =>
    exact iff_of_true (every_dsSafeMemorySet plain q s p dst value count) (sourceApart_of_ne nofun)

/-- **The precondition of `ds_memcpy` holds, but for overlapping safe copies.** In every reachable
state a call meets it exactly when it is not a `ds_safe_memory_copy` that passes its checks with a
source that overlaps the destination; and so does every call of a run of such calls. -/
theorem memcpy_defined_iff {s : DynostaticBuffer} (reachable : Reachable q s) :
    (∀ op, CopiesExactly q s op ↔ SourceApart q s op) ∧
    ∀ actions,
      Obeys (next q) (OnCalls (CopiesExactly q)) s actions ↔
        Obeys (next q) (OnCalls (SourceApart q)) s actions := by
  refine ⟨exact_iff reachable.wellFormed, fun actions => ?_⟩
  refine obeys_congr (fun t action formed => ?_) (fun t action formed => formed.next action)
    reachable.wellFormed
  exact forall₂_congr fun op _ => exact_iff formed op

/-- A copy of the first block over the second one. -/
theorem memcpy_defined_iff_blocks :
    CopiesExactly defaultPlacement twoLive
      (.safeMemoryCopy .self (fun _ => 0) 4108 4096 12) := by
  refine ((memcpy_defined_iff twoLive_reachable).1 _).mpr ?_
  rintro _ _ _ _ ⟨⟩ _ _
  exact .inr (by decide)

/-- **Four bytes of a block are copied one byte up**: the source overlaps the destination. -/
theorem memcpy_overlaps :
    Reachable defaultPlacement twoLive ∧
      .copy 4097 4096 4 ∈ (call defaultPlacement twoLive
        (.safeMemoryCopy .self (fun _ => 0) 4097 4096 4)).events ∧
      ¬ RangesApart 4097 4096 4 :=
  ⟨twoLive_reachable, by decide, by unfold RangesApart; decide⟩

end Dynostatic
