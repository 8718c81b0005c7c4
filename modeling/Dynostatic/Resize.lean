/-
**The complete outcome of `ds_realloc` on a live block.**

A live block is kept, grown or moved, or the call is refused with the code of a `ds_malloc`. The
first part of the file is one theorem for each, on the instance of a layout; the second reads them
off the records (`realloc_complete`).

A block that moves is a block taken, a copy, and a release. So the other live blocks are those that
the taking and the release both leave alone (`record_of_moved`), and their bytes lie apart from both
ranges written (`memory_of_moved`).
-/

import Dynostatic.Outcome

namespace Dynostatic

open Tracing Tracing.Traced Tiling Rounding

variable {q : Placement}

/-! ### The four answers -/

/-- A block can grow in place: it is the last, and the arena has the space. -/
def GrowsInPlace (c : Config) (s : DynostaticBuffer) (head capacity size : Nat) : Prop :=
  head + capacity = s.dataHead ∧ size ≤ c.bufferMemorySize - head

theorem growsInPlace_encode_iff {layout : Layout q.toConfig} {memory : Nat → UInt8}
    {index capacity size : Nat} (found : layout.blocks[index]? = some ⟨capacity, true⟩) :
    GrowsInPlace q.toConfig (layout.encode memory) (start layout.blocks index) capacity size ↔
      start layout.blocks index + capacity = extent layout.blocks ∧
        start layout.blocks index + size ≤ q.bufferMemorySize := by
  have bound := layout.end_le found
  unfold GrowsInPlace
  refine and_congr_right fun _ => ?_
  omega

section Answers

variable {layout : Layout q.toConfig} {memory : Nat → UInt8} {index capacity n : Nat}

theorem realloc_keeps (found : layout.blocks[index]? = some ⟨capacity, true⟩) (positive : 0 < n)
    (small : n ≤ q.maxAllocationSize) (fit : roundUp q.alignment n ≤ capacity) :
    reply q (layout.encode memory)
        (.realloc .self (some (q.base + start layout.blocks index)) n) =
      ⟨.ok, layout.encode memory, some (q.base + start layout.blocks index)⟩ :=
  (yields_dsRealloc_kept layout memory found positive small fit).value

theorem realloc_grows (found : layout.blocks[index]? = some ⟨capacity, true⟩) (positive : 0 < n)
    (small : n ≤ q.maxAllocationSize) (more : capacity < roundUp q.alignment n)
    (grows : GrowsInPlace q.toConfig (layout.encode memory) (start layout.blocks index) capacity
      (roundUp q.alignment n)) :
    reply q (layout.encode memory)
        (.realloc .self (some (q.base + start layout.blocks index)) n) =
      ⟨.ok, { layout.encode memory with
          dataHead := start layout.blocks index + roundUp q.alignment n
          allocators := Function.update (layout.encode memory).allocators index
            ⟨start layout.blocks index, roundUp q.alignment n, .allocated⟩ },
        some (q.base + start layout.blocks index)⟩ := by
  obtain ⟨top, room⟩ := (growsInPlace_encode_iff found).mp grows
  obtain ⟨front, last, rfl⟩ := layout.exists_front found top
  rw [start_of_last last] at room ⊢
  refine (yields_dsRealloc_grown layout memory last positive small more room).value.trans ?_
  rw [layout.encode_grow]
  rfl

variable (blocked : ¬ GrowsInPlace q.toConfig (layout.encode memory) (start layout.blocks index)
  capacity (roundUp q.alignment n))

include blocked

/-- The block at the end has no space above it. -/
theorem stuck_of_blocked (found : layout.blocks[index]? = some ⟨capacity, true⟩)
    (top : start layout.blocks index + capacity = extent layout.blocks) :
    q.bufferMemorySize < start layout.blocks index + roundUp q.alignment n :=
  Nat.lt_of_not_le fun room => blocked ((growsInPlace_encode_iff found).mpr ⟨top, room⟩)

theorem realloc_moves (found : layout.blocks[index]? = some ⟨capacity, true⟩) (positive : 0 < n)
    (small : n ≤ q.maxAllocationSize) (more : capacity < roundUp q.alignment n)
    (ok : (reply q (layout.encode memory) (.malloc .self (some 0) n)).code = .ok) :
    ∃ (after : Layout q.toConfig) (target : Nat),
      Placed layout.blocks (roundUp q.alignment n) after.blocks target ∧
      reply q (layout.encode memory)
          (.realloc .self (some (q.base + start layout.blocks index)) n) =
        ⟨.ok, (after.release index).encode
          (relocate q.toConfig memory (start layout.blocks index) (start after.blocks target)
            capacity),
          some (q.base + start after.blocks target)⟩ := by
  have room := (malloc_ok_iff_room layout memory (blockAt_null _) positive small).mp ok
  obtain ⟨after, target, placed, yields⟩ := yields_dsRealloc_moved layout memory found positive
    small more (stuck_of_blocked blocked found) room
  exact ⟨after, target, placed, yields.value⟩

/-- Both are refused for want of room, so with the same code. -/
theorem realloc_refuses (found : layout.blocks[index]? = some ⟨capacity, true⟩)
    (positive : 0 < n) (small : n ≤ q.maxAllocationSize)
    (more : capacity < roundUp q.alignment n)
    (fails : (reply q (layout.encode memory) (.malloc .self (some 0) n)).code ≠ .ok) :
    reply q (layout.encode memory)
        (.realloc .self (some (q.base + start layout.blocks index)) n) =
      ⟨(reply q (layout.encode memory) (.malloc .self (some 0) n)).code, layout.encode memory,
        some (q.base + start layout.blocks index)⟩ := by
  have full := fun room => fails
    ((malloc_ok_iff_room layout memory (blockAt_null _) positive small).mpr room)
  have refused : reply q (layout.encode memory) (.malloc .self (some 0) n) = _ :=
    (yields_dsMalloc_full layout memory (blockAt_null _) positive small full).value
  rw [refused]
  exact (yields_dsRealloc_full layout memory found positive small more
    (stuck_of_blocked blocked found) full).value

omit blocked

/-- **The call succeeds when the block can be kept, grown or moved.** -/
theorem realloc_ok_iff (found : layout.blocks[index]? = some ⟨capacity, true⟩) (positive : 0 < n)
    (small : n ≤ q.maxAllocationSize) :
    (reply q (layout.encode memory)
        (.realloc .self (some (q.base + start layout.blocks index)) n)).code = .ok ↔
      roundUp q.alignment n ≤ capacity ∨
        GrowsInPlace q.toConfig (layout.encode memory) (start layout.blocks index) capacity
          (roundUp q.alignment n) ∨
        (reply q (layout.encode memory) (.malloc .self (some 0) n)).code = .ok := by
  constructor
  · intro ok
    by_contra none
    obtain ⟨unfit, blocked, fails⟩ := not_or.mp none |>.imp_right not_or.mp
    rw [realloc_refuses blocked found positive small (Nat.lt_of_not_le unfit) fails] at ok
    exact fails ok
  · intro some
    by_cases fit : roundUp q.alignment n ≤ capacity
    · exact congrArg Reply.code (realloc_keeps found positive small fit)
    · have more := Nat.lt_of_not_le fit
      by_cases grows : GrowsInPlace q.toConfig (layout.encode memory) (start layout.blocks index)
          capacity (roundUp q.alignment n)
      · exact congrArg Reply.code (realloc_grows found positive small more grows)
      · obtain ⟨after, target, -, answer⟩ := realloc_moves grows found positive small more
          ((some.resolve_left fit).resolve_left grows)
        exact congrArg Reply.code answer

/-- **It fails as a `ds_malloc` fails.** -/
theorem realloc_fails (found : layout.blocks[index]? = some ⟨capacity, true⟩) (positive : 0 < n)
    (small : n ≤ q.maxAllocationSize)
    (fails : (reply q (layout.encode memory)
      (.realloc .self (some (q.base + start layout.blocks index)) n)).code ≠ .ok) :
    reply q (layout.encode memory)
        (.realloc .self (some (q.base + start layout.blocks index)) n) =
      ⟨(reply q (layout.encode memory) (.malloc .self (some 0) n)).code, layout.encode memory,
        some (q.base + start layout.blocks index)⟩ := by
  rw [Ne, realloc_ok_iff found positive small, not_or, not_or, not_le] at fails
  obtain ⟨more, blocked, refused⟩ := fails
  exact realloc_refuses blocked found positive small more refused

end Answers

/-! ### What a move leaves -/

section Moved

variable {layout after : Layout q.toConfig} {memory : Nat → UInt8} {index capacity target n : Nat}
  (found : layout.blocks[index]? = some ⟨capacity, true⟩)
  (placed : Placed layout.blocks (roundUp q.alignment n) after.blocks target)

include found placed

/-- The number of live blocks stays. -/
theorem liveCount_of_moved : liveCount (after.release index).blocks = liveCount layout.blocks := by
  have released : liveCount (after.release index).blocks + 1 = liveCount after.blocks :=
    liveCount_release (placed.getElem?_of_live found) rfl
  have taken := placed.liveCount_eq
  omega

/-- The new block. -/
theorem record_of_target {capacity' : Nat}
    (taken : after.blocks[target]? = some ⟨capacity', true⟩) :
    records (after.release index).blocks target =
      ⟨start after.blocks target, capacity', .allocated⟩ := by
  have different := (placed.ne_of_live found).symm
  refine (records_live (getElem?_release_of_live taken rfl different)).trans ?_
  exact congrArg (DsAllocator.mk · _ _) (start_release_of_live taken rfl different)

omit found in
/-- **Every other live block stays where it was.** -/
theorem record_of_moved {other size : Nat} (live : layout.blocks[other]? = some ⟨size, true⟩)
    (different : other ≠ index) :
    records (after.release index).blocks other = records layout.blocks other := by
  have kept := placed.getElem?_of_live live
  rw [records_live live]
  refine (records_live (getElem?_release_of_live kept rfl different.symm)).trans ?_
  refine congrArg (DsAllocator.mk · _ _) ?_
  exact (start_release_of_live kept rfl different.symm).trans
    (placed.start_of_le (lt_length_of_getElem? live).le)

/-- **Its bytes stay what they were.** -/
theorem memory_of_moved (more : capacity < roundUp q.alignment n) {other size offset : Nat}
    (live : layout.blocks[other]? = some ⟨size, true⟩) (different : other ≠ index)
    (inside : start layout.blocks other ≤ offset ∧ offset < start layout.blocks other + size) :
    relocate q.toConfig memory (start layout.blocks index) (start after.blocks target) capacity
      offset = memory offset := by
  obtain ⟨capacity', large, taken⟩ := placed.getElem?_eq
  have fromTarget := placed.apart taken live
  have fromSource : start layout.blocks other + size ≤ start layout.blocks index ∨
      start layout.blocks index + capacity ≤ start layout.blocks other :=
    apart_of_ne live found different
  exact relocate_outside (by omega) (by omega)

/-- The old block is gone. -/
theorem blockAt_of_moved :
    blockAt q (after.release index).blocks (q.base + start layout.blocks index) = none := by
  rw [← start_of_placed found placed, blockAt_release (placed.getElem?_of_live found),
    Function.update_self]

end Moved

/-! ### The other live blocks -/

section Others

variable {layout : Layout q.toConfig} {memory : Nat → UInt8} {index capacity n : Nat} {r : Reply}

/-- **A successful resize leaves every other live block, and their number, as they were.** -/
theorem realloc_frame (found : layout.blocks[index]? = some ⟨capacity, true⟩) (positive : 0 < n)
    (outcome : Outcome q layout memory
      (.realloc .self (some (q.base + start layout.blocks index)) n) r) (ok : r.code = .ok) :
    r.buffer.usedAllocators = liveCount layout.blocks ∧
      ∀ other size, other ≠ index → layout.blocks[other]? = some ⟨size, true⟩ →
        r.buffer.allocators other = records layout.blocks other ∧
        ∀ b < size, r.buffer.memory (start layout.blocks other + b) =
          memory (start layout.blocks other + b) := by
  rcases outcome.of_resizes found positive ok with
    ⟨-, rfl⟩ | ⟨after, front, last, rfl, -, grown, rfl⟩ | ⟨after, target, placed, more, rfl⟩
  · exact ⟨rfl, fun other size _ _ => ⟨rfl, fun b _ => rfl⟩⟩
  · refine ⟨?_, fun other size different _ => ⟨?_, fun b _ => rfl⟩⟩
    · show liveCount after.blocks = liveCount layout.blocks
      rw [grown, last, liveCount_append, liveCount_append]
      rfl
    · show records after.blocks other = records layout.blocks other
      rw [grown, last, records_concat, records_concat, Function.update_of_ne different,
        Function.update_of_ne different]
  · refine ⟨liveCount_of_moved found placed, fun other size different live => ⟨?_, ?_⟩⟩
    · exact record_of_moved placed live different
    · exact fun b inside =>
        memory_of_moved found placed more live different ⟨by omega, by omega⟩

end Others

/-! ### The records -/

/-- **A block moved** from offset `h` to record `j`: the block there is apart from every block that
was live, and holds the old bytes. -/
structure Moved (q : Placement) (s s' : DynostaticBuffer) (h c a j h' c' : Nat) : Prop where
  inside : j < q.maxAllocationCount
  record : s'.allocators j = ⟨h', c', .allocated⟩
  large : a ≤ c'
  apart : ∀ k < q.maxAllocationCount, (s.allocators k).allocationStatus = .allocated →
    h' + c' ≤ (s.allocators k).head ∨ (s.allocators k).head + (s.allocators k).size ≤ h'
  bytes : ∀ b < c, s'.memory (h' + b) = s.memory (h + b)
  /-- The old block is no longer live. -/
  gone : ∀ capacity, ¬ LiveBlock q s' (q.base + h) capacity

theorem moved_of_placed {layout after : Layout q.toConfig} (memory : Nat → UInt8)
    {index capacity target n : Nat} (found : layout.blocks[index]? = some ⟨capacity, true⟩)
    (placed : Placed layout.blocks (roundUp q.alignment n) after.blocks target)
    (more : capacity < roundUp q.alignment n) :
    ∃ capacity', Moved q (layout.encode memory)
      ((after.release index).encode (relocate q.toConfig memory (start layout.blocks index)
        (start after.blocks target) capacity))
      (start layout.blocks index) capacity (roundUp q.alignment n) target
      (start after.blocks target) capacity' := by
  obtain ⟨capacity', large, taken⟩ := placed.getElem?_eq
  have apart := placed.apart taken found
  refine ⟨capacity', after.lt_maxCount taken, record_of_target found placed taken, large, ?_, ?_,
    not_liveBlock_encode_iff.mpr (blockAt_of_moved found placed)⟩
  · intro k _ status
    obtain ⟨size, live⟩ := records_allocated_iff.mp status
    rw [layout.encode_live memory live]
    exact placed.apart taken live
  · exact fun b inside => relocate_target (by omega) inside

/-- **The complete outcome of `ds_realloc` on a live block.** In a reachable initialized instance,
for the block of record `i` and a size `n` whose least multiple of the alignment is `a`: the call
succeeds exactly when the block can be kept, grown in place or moved, in this order of preference.
A success changes no other live block. A failure has the code of a `ds_malloc` into a `NULL`
variable, and changes nothing. -/
theorem realloc_complete {s : DynostaticBuffer} (reachable : Reachable q s)
    (initialized : s.initMagic = dsMagicNumber) {i h c n a : Nat}
    (record : s.allocators i = ⟨h, c, .allocated⟩) (positive : 0 < n)
    (small : n ≤ q.maxAllocationSize)
    (least : IsLeast {bound | q.alignment ∣ bound ∧ n ≤ bound} a) :
    ((reply q s (.realloc .self (some (q.base + h)) n)).code = .ok ↔
      a ≤ c ∨ GrowsInPlace q.toConfig s h c a ∨
        (reply q s (.malloc .self (some 0) n)).code = .ok) ∧
    (a ≤ c →
      reply q s (.realloc .self (some (q.base + h)) n) = ⟨.ok, s, some (q.base + h)⟩) ∧
    (c < a → GrowsInPlace q.toConfig s h c a →
      reply q s (.realloc .self (some (q.base + h)) n) =
        ⟨.ok, { s with dataHead := h + a
                       allocators := Function.update s.allocators i ⟨h, a, .allocated⟩ },
          some (q.base + h)⟩) ∧
    (c < a → ¬ GrowsInPlace q.toConfig s h c a →
      (reply q s (.malloc .self (some 0) n)).code = .ok →
      ∃ s' j h' c', reply q s (.realloc .self (some (q.base + h)) n) =
        ⟨.ok, s', some (q.base + h')⟩ ∧ Moved q s s' h c a j h' c') ∧
    ((reply q s (.realloc .self (some (q.base + h)) n)).code = .ok →
      (reply q s (.realloc .self (some (q.base + h)) n)).buffer.usedAllocators =
          s.usedAllocators ∧
      ∀ k < q.maxAllocationCount, k ≠ i → (s.allocators k).allocationStatus = .allocated →
        (reply q s (.realloc .self (some (q.base + h)) n)).buffer.allocators k =
            s.allocators k ∧
        ∀ b < (s.allocators k).size,
          (reply q s (.realloc .self (some (q.base + h)) n)).buffer.memory
              ((s.allocators k).head + b) = s.memory ((s.allocators k).head + b)) ∧
    ((reply q s (.realloc .self (some (q.base + h)) n)).code ≠ .ok →
      reply q s (.realloc .self (some (q.base + h)) n) =
        ⟨(reply q s (.malloc .self (some 0) n)).code, s, some (q.base + h)⟩) := by
  obtain ⟨layout, memory, rfl⟩ := reachable.of_initialized initialized
  obtain rfl := eq_roundUp_of_isLeast q.alignment_pos least
  obtain ⟨found, rfl⟩ := getElem?_of_record record
  refine ⟨realloc_ok_iff found positive small, realloc_keeps found positive small,
    realloc_grows found positive small, ?_, ?_, realloc_fails found positive small⟩
  · intro more blocked ok
    obtain ⟨after, target, placed, answer⟩ := realloc_moves blocked found positive small more ok
    obtain ⟨capacity', moves⟩ := moved_of_placed memory found placed more
    exact ⟨_, target, _, capacity', answer, moves⟩
  · intro ok
    obtain ⟨used, others⟩ := realloc_frame found positive (reply_outcome layout memory _) ok
    refine ⟨used, fun k _ different status => ?_⟩
    obtain ⟨size, live⟩ := records_allocated_iff.mp status
    have frame := others k size different live
    rw [layout.encode_live memory live]
    rw [records_live live] at frame
    exact frame

/-- The lower of two blocks moves above the other one, as there is room for a new block. -/
theorem realloc_complete_moved :
    (reply defaultPlacement twoLive (.realloc .self (some 4096) 40)).code = .ok :=
  (realloc_complete twoLive_reachable rfl (i := 0) (h := 0) (c := 12) rfl (by decide) (by decide)
    (roundUp_isLeast defaultPlacement.alignment_pos 40)).1.mpr (.inr (.inr (by decide)))

end Dynostatic
