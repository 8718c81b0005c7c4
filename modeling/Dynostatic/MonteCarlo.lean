/-
**The randomized tests.**

`utests-monte-carlo-malloc.cpp` and `utests-monte-carlo-realloc.cpp` run a storm of calls that a
random generator picks, beside a model of the live blocks, and assert after every call what the
model promises. Here they are `Checked` programs over the instance and the model; the draws of the
generator, and so the seed and the number of operations, are an argument.

The model is a `Ledger` of the heap that the instance stands for (`Sound`). Every operation keeps it
and passes its assertions (`passes_mallocOnce`, `passes_verifyAndRelease`, `passes_reallocOnce`),
and so does the drain. What is left is the loop that refills the arena at the end: a test passes
exactly in the builds which that loop is meant for (`random_alloc_free_storm_passes_iff`,
`random_malloc_free_realloc_storm_passes_iff`).
-/

import Dynostatic.Lib.Checked
import Dynostatic.Lib.Ledger
import Dynostatic.Atomicity
import Dynostatic.Bump
import Dynostatic.Heap
import Dynostatic.Invariant
import Dynostatic.Oracle
import Dynostatic.Retention
import Dynostatic.Scrub
import Dynostatic.Usage

namespace Dynostatic.MonteCarlo

open Tracing Tracing.Traced Tiling Rounding Bytes Heaps Checking

/-! ### The fixture -/

/-- `LiveBlock`. The test of `ds_malloc` and `ds_free` alone has no `cap_lower`, and writes
`AlignUp(requested)` where the other one reads it. -/
structure LiveBlock where
  ptr : Nat
  requested : Nat
  capLower : Nat
  pattern : UInt8

/-- The fixture: `buf_`, `live_` and `next_pattern_`. -/
structure Fixture where
  buf : DynostaticBuffer
  live : List LiveBlock
  nextPattern : UInt8

abbrev Test := Checked Fixture

/-- What a call leaves besides the instance: its code, and the caller's variable. -/
structure Returned where
  code : DsErrCode
  cell : Nat

/-- What the generator draws for one operation. -/
structure Draw where
  roll : Nat
  size : Nat
  victim : Nat

/-- `std::uniform_int_distribution` over `[low, high]`. -/
def uniform (low high drawn : Nat) : Nat := low + drawn % (high - low + 1)

section Helpers

variable (c : Config)

/-- `dstest::AlignUp`. -/
def alignUp (v : Nat) : Nat :=
  (BitVec.ofNat c.sizeBits (v + (c.alignment - 1)) &&&
    ~~~ BitVec.ofNat c.sizeBits (c.alignment - 1)).toNat

/-- `dstest::IsAligned`. -/
def IsAligned (p : Nat) : Prop := p % c.alignment = 0

instance (p : Nat) : Decidable (IsAligned c p) := inferInstanceAs (Decidable (_ = _))

/-- `dstest::ExpectedUsage`. -/
def expectedUsage (totalAlignedBytes : Nat) : Nat :=
  sizeMul c 100 totalAlignedBytes / c.bufferMemorySize % 2 ^ 8

end Helpers

/-- `NextPattern`. -/
def nextPattern : Test UInt8 := do
  let t ← get
  modify fun t => { t with nextPattern := t.nextPattern % 250 + 1 }
  pure t.nextPattern

section Program

variable (q : Placement) (outside : Nat → UInt8)

/-- A call on `buf_`. -/
def ds (op : Op) : Test Returned := do
  let t ← get
  modify fun t => { t with buf := (reply q t.buf op).buffer }
  pure ⟨(reply q t.buf op).code, (reply q t.buf op).cell.getD 0⟩

/-- `std::memset`, on a block. -/
def memset (p : Nat) (pattern : UInt8) (count : Nat) : Test Unit :=
  modify fun t => { t with buf := storeBytes q t.buf p count fun _ => pattern }

/-- A loop that asserts that `span` bytes have one value. -/
def verifyBytes (p : Nat) (pattern : UInt8) (span : Nat) : Test Unit := do
  let t ← get
  (List.range span).forM fun i => check (byteAt q t.buf outside (p + i) = pattern)

/-- `VerifyPattern`. -/
def verifyPattern (b : LiveBlock) (span : Nat) : Test Unit :=
  verifyBytes q outside b.ptr b.pattern span

/-- `AssertGlobalInvariants`. -/
def assertGlobalInvariants : Test Unit := do
  let t ← get
  let totalLower := t.live.foldl (fun acc b => (acc + b.capLower) % 2 ^ q.sizeBits) 0
  let usage ← ds q (.getMemoryUsage .self (some 0xFF))
  check (usage.code = .ok)
  check (expectedUsage q.toConfig totalLower ≤ usage.cell)
  let cnt ← ds q (.getFreeAllocatorCnt .self (some 0xFF))
  check (cnt.code = .ok)
  check (cnt.cell = (sizeSub q.toConfig q.maxAllocationCount t.live.length).value)

/-- `AssertNoOverlapWithLive`. -/
def assertNoOverlapWithLive (p span skipIdx : Nat) : Test Unit := do
  let t ← get
  t.live.zipIdx.forM fun entry =>
    if entry.2 = skipIdx then pure ()
    else check ((p + span) % 2 ^ q.ptrBits ≤ entry.1.ptr ∨
      (entry.1.ptr + entry.1.capLower) % 2 ^ q.ptrBits ≤ p)

/-- A victim is verified, released by `ds_free` or by `ds_realloc` to the size `0`, and struck. -/
def verifyAndRelease (release : Nat → Op) (victim : Nat) : Test Unit := do
  let t ← get
  match t.live[victim]? with
  | none => failure
  | some b =>
    verifyPattern q outside b b.requested
    let ret ← ds q (release b.ptr)
    check (ret.code = .ok)
    check (ret.cell = 0)
    modify fun t => { t with live := t.live.eraseIdx victim }

/-- `VerifyAndFree`. -/
def verifyAndFree (victim : Nat) : Test Unit :=
  verifyAndRelease q outside (fun p => .free .self (some p)) victim

/-- `realloc(p, 0) == free`. -/
def verifyAndReallocZero (victim : Nat) : Test Unit :=
  verifyAndRelease q outside (fun p => .realloc .self (some p) 0) victim

/-- The `#if DS_ZERO_ON_FREE` block of the first test: every delivered block arrives clean. -/
def assertClean (clean : Bool) (p req : Nat) : Test Unit :=
  if clean then verifyBytes q outside p 0 req else pure ()

/-- The `malloc` branch of a storm. -/
def mallocOnce (clean : Bool) (req : Nat) : Test Unit := do
  let oracle ← ds q (.getMaxNewAllocationSize .self (some 0))
  check (oracle.code = .ok)
  let ret ← ds q (.malloc .self (some 0) req)
  if req ≤ oracle.cell then do
    check (ret.code = .ok)
    check (IsAligned q.toConfig ret.cell)
    let t ← get
    assertNoOverlapWithLive q ret.cell (alignUp q.toConfig req) t.live.length
    assertClean q outside clean ret.cell req
    let pattern ← nextPattern
    memset q ret.cell pattern req
    modify fun t =>
      { t with live := t.live ++ [⟨ret.cell, req, alignUp q.toConfig req, pattern⟩] }
  else do
    check (ret.code ≠ .ok)
    check (ret.cell = 0)

/-- The buckets of a `ds_realloc`: a guaranteed fit, a success that the oracle guarantees, and
neither. -/
def assertBucket (b : LiveBlock) (newReq oracle : Nat) (ret : Returned) : Test Unit :=
  if alignUp q.toConfig newReq ≤ b.capLower then do
    check (ret.code = .ok)
    check (ret.cell = b.ptr)
  else if newReq ≤ oracle then
    check (ret.code = .ok)
  else
    pure ()

/-- The lower bound of the capacity after a `ds_realloc`, by the observed movement. -/
def newCapLower (b : LiveBlock) (newReq np : Nat) : Nat :=
  if np = b.ptr then max b.capLower (alignUp q.toConfig newReq) else alignUp q.toConfig newReq

/-- The `realloc(p, new_req)` branch of the storm. -/
def reallocOnce (victim newReq : Nat) : Test Unit := do
  let t ← get
  match t.live[victim]? with
  | none => failure
  | some b =>
    verifyPattern q outside b b.requested
    let oracle ← ds q (.getMaxNewAllocationSize .self (some 0))
    check (oracle.code = .ok)
    let ret ← ds q (.realloc .self (some b.ptr) newReq)
    assertBucket q b newReq oracle.cell ret
    if ret.code = .ok then do
      check (IsAligned q.toConfig ret.cell)
      verifyBytes q outside ret.cell b.pattern (min b.requested newReq)
      let pattern ← nextPattern
      modify fun t => { t with
        live := t.live.set victim ⟨ret.cell, newReq, newCapLower q b newReq ret.cell, pattern⟩ }
      memset q ret.cell pattern newReq
      assertNoOverlapWithLive q ret.cell (newCapLower q b newReq ret.cell) victim
    else do
      check (ret.cell = b.ptr)
      verifyPattern q outside b b.requested

/-- One operation of the first test. -/
def allocFree (draw : Draw) : Test Unit := do
  let t ← get
  if t.live.isEmpty ∨ draw.roll % 100 < 55 then
    mallocOnce q outside q.zeroOnFree (uniform 1 q.maxAllocationSize draw.size)
  else
    verifyAndFree q outside (uniform 0 (t.live.length - 1) draw.victim)

/-- One operation of the second test. -/
def mallocFreeRealloc (draw : Draw) : Test Unit := do
  let t ← get
  if t.live.isEmpty ∨ draw.roll % 100 < 40 then
    mallocOnce q outside false (uniform 1 q.maxAllocationSize draw.size)
  else if draw.roll % 100 < 65 then
    verifyAndFree q outside (uniform 0 (t.live.length - 1) draw.victim)
  else if draw.roll % 100 < 70 then
    verifyAndReallocZero q outside (uniform 0 (t.live.length - 1) draw.victim)
  else
    reallocOnce q outside (uniform 0 (t.live.length - 1) draw.victim)
      (uniform 1 q.maxAllocationSize draw.size)

/-- `while (!live_.empty())`, for at most `rounds` rounds. -/
def drain : Nat → Test Unit
  | 0 => failure
  | rounds + 1 => do
    let t ← get
    if t.live.isEmpty then
      pure ()
    else do
      verifyAndFree q outside (t.live.length - 1)
      drain rounds

/-- The instance is as if fresh. -/
def assertDrained : Test Unit := do
  let usage ← ds q (.getMemoryUsage .self (some 0xFF))
  check (usage.code = .ok)
  check (usage.cell = 0)
  let cnt ← ds q (.getFreeAllocatorCnt .self (some 0))
  check (cnt.code = .ok)
  check (cnt.cell = q.maxAllocationCount)
  let maxAlloc ← ds q (.getMaxNewAllocationSize .self (some 0))
  check (maxAlloc.code = .ok)
  check (maxAlloc.cell = q.maxAllocationSize)

/-- `while (refilled < DS_BUFFER_MEMORY_SIZE)`, for at most `rounds` rounds. -/
def refill : Nat → (refilled : Nat) → Test Unit
  | 0, _ => failure
  | rounds + 1, refilled =>
    if refilled < q.bufferMemorySize then do
      let chunk := if q.maxAllocationSize < q.bufferMemorySize - refilled then q.maxAllocationSize
        else q.bufferMemorySize - refilled
      check (alignUp q.toConfig chunk = chunk)
      let ret ← ds q (.malloc .self (some 0) chunk)
      check (ret.code = .ok)
      refill rounds (refilled + chunk)
    else
      pure ()

variable (shuffle : List LiveBlock → List LiveBlock) (operation : Draw → Test Unit)

/-- The body of a test up to its refill: the set-up, the storm, and the drain in random order. -/
def stormAndDrain (draws : List Draw) : Test Unit := do
  let ret ← ds q (.initializeAllocation .self)
  check (ret.code = .ok)
  draws.forM fun draw => do
    operation draw
    assertGlobalInvariants q
  modify fun t => { t with live := shuffle t.live }
  let t ← get
  drain q outside (t.live.length + 1)
  assertDrained q

/-- The body of a test. -/
def storm (draws : List Draw) : Test Unit := do
  stormAndDrain q outside shuffle operation draws
  refill q (q.bufferMemorySize + 1) 0

/-- `Random_Alloc_Free_Storm`. -/
def randomAllocFreeStorm (draws : List Draw) : Test Unit :=
  storm q outside shuffle (allocFree q outside) draws

/-- `Random_Malloc_Free_Realloc_Storm`. -/
def randomMallocFreeReallocStorm (draws : List Draw) : Test Unit :=
  storm q outside shuffle (mallocFreeRealloc q outside) draws

end Program

/-- The fixture before the test: a zeroed structure and an empty model. -/
def zeroFixture : Fixture := ⟨zeroBuffer, [], 1⟩

/-! ### The model and the heap -/

section Totals

variable {q : Placement} (layout : Layout q.toConfig) (memory : Nat → UInt8)

/-- The live records. -/
def liveIndices (q : Placement) (s : DynostaticBuffer) : Finset Nat :=
  (Finset.range q.maxAllocationCount).filter fun index =>
    (s.allocators index).allocationStatus = .allocated

theorem mem_liveIndices {index : Nat} :
    index ∈ liveIndices q (layout.encode memory) ↔
      ∃ size, layout.blocks[index]? = some ⟨size, true⟩ := by
  unfold liveIndices
  rw [Finset.mem_filter, Finset.mem_range]
  constructor
  · rintro ⟨-, live⟩
    exact records_allocated_iff.mp live
  · rintro ⟨size, found⟩
    exact ⟨layout.lt_maxCount found, records_allocated_iff.mpr ⟨size, found⟩⟩

/-- Live records start at different addresses. -/
theorem head_injOn :
    Set.InjOn (fun index => q.base + ((layout.encode memory).allocators index).head)
      (liveIndices q (layout.encode memory)) := by
  intro first member second member' same
  obtain ⟨size, found⟩ := (mem_liveIndices layout memory).mp member
  obtain ⟨size', found'⟩ := (mem_liveIndices layout memory).mp member'
  simp only [layout.encode_live memory found, layout.encode_live memory found'] at same
  exact start_injective found found' (layout.capacity_of_getElem? found).positive
    (layout.capacity_of_getElem? found').positive (Nat.add_left_cancel same)

/-- The addresses of the heap are the starts of the live records. -/
theorem keys_heapOf : (heapOf q (layout.encode memory)).keys =
    (liveIndices q (layout.encode memory)).image
      fun index => q.base + ((layout.encode memory).allocators index).head := by
  ext address
  rw [Finmap.mem_keys, mem_heapOf_iff, Finset.mem_image]
  constructor
  · rintro ⟨size, live⟩
    obtain ⟨index, found, rfl⟩ := exists_index_of_blockAt live
    refine ⟨index, (mem_liveIndices layout memory).mpr ⟨size, found⟩, ?_⟩
    rw [layout.encode_live memory found]
  · rintro ⟨index, member, rfl⟩
    obtain ⟨size, found⟩ := (mem_liveIndices layout memory).mp member
    rw [layout.encode_live memory found]
    exact ⟨size, blockAt_start found⟩

theorem card_keys_heapOf :
    (heapOf q (layout.encode memory)).keys.card = liveCount layout.blocks := by
  rw [keys_heapOf, Finset.card_image_of_injOn (head_injOn layout memory)]
  refine Eq.trans ?_ (layout.repInv memory).used.symm
  rw [List.countP_eq_length_filter]
  rfl

theorem footprint_heapOf :
    footprint (heapOf q (layout.encode memory)) = liveExtent layout.blocks := by
  unfold footprint
  rw [keys_heapOf, Finset.sum_image (head_injOn layout memory), ← liveSum_encode layout memory]
  unfold liveIndices liveSum
  rw [Finset.sum_filter]
  refine Finset.sum_congr rfl fun index _ => ?_
  by_cases live : ((layout.encode memory).allocators index).allocationStatus = .allocated
  · obtain ⟨size, found⟩ := records_allocated_iff.mp live
    rw [if_pos live, if_pos live, layout.encode_live memory found, length_lookup_heapOf,
      blockAt_start found]
    rfl
  · rw [if_neg live, if_neg live]

end Totals

/-- What an entry of the model says of the bytes of its block. -/
structure Describes (b : LiveBlock) (bytes : List UInt8) : Prop where
  capLower_le : b.capLower ≤ bytes.length
  filled : ∀ i < b.requested, bytes[i]? = some b.pattern

/-- **The model is a ledger of the heap.** -/
structure Sound (q : Placement) (t : Fixture) : Prop where
  encoded : Encoded q t.buf
  ledger : Ledger LiveBlock.ptr Describes t.live (heapOf q t.buf)
  scrubbed : q.zeroOnFree = true → Scrubbed q t.buf

/-! ### Helpers -/

section Helpers

variable {q : Placement}

theorem alignUp_eq {v : Nat} (small : v ≤ q.maxAllocationSize) :
    alignUp q.toConfig v = roundUp q.alignment v := by
  have exact := q.add_mask_lt small
  obtain ⟨shift, power⟩ := q.exists_alignment
  unfold alignUp roundUp
  rw [power] at exact ⊢
  exact and_not_mask_toNat exact

theorem le_uniform {low high : Nat} (drawn : Nat) : low ≤ uniform low high drawn :=
  Nat.le_add_right _ _

theorem uniform_le {low high : Nat} (ordered : low ≤ high) (drawn : Nat) :
    uniform low high drawn ≤ high := by
  have drawn_lt : drawn % (high - low + 1) < high - low + 1 := Nat.mod_lt _ (Nat.succ_pos _)
  unfold uniform
  omega

/-- `std::accumulate` in `size_t`. -/
theorem foldl_mod (modulus : Nat) (live : List LiveBlock) (total : Nat) :
    live.foldl (fun acc b => (acc + b.capLower) % modulus) (total % modulus) =
      (total + (live.map LiveBlock.capLower).sum) % modulus := by
  induction live generalizing total with
  | nil => rfl
  | cons b live ih =>
    rw [List.foldl_cons, Nat.mod_add_mod, ih, List.map_cons, List.sum_cons, Nat.add_assoc]

/-- A percentage that is exact. -/
theorem expectedUsage_eq {total : Nat} (bounded : total ≤ q.bufferMemorySize)
    (exact : 100 * q.bufferMemorySize < 2 ^ q.sizeBits) :
    expectedUsage q.toConfig total = 100 * total / q.bufferMemorySize := by
  have scaled := Nat.mul_le_mul_left 100 bounded
  have percent := percentage_le bounded
  unfold expectedUsage sizeMul
  rw [Nat.mod_eq_of_lt (show 100 * total < _ by omega), Nat.mod_eq_of_lt (by omega)]

/-- A live block of the heap, in the layout. -/
theorem exists_index_of_lookup {layout : Layout q.toConfig} {memory : Nat → UInt8} {p : Nat}
    {bytes : List UInt8} (found : (heapOf q (layout.encode memory)).lookup p = some bytes) :
    ∃ index size, layout.blocks[index]? = some ⟨size, true⟩ ∧
      p = q.base + start layout.blocks index ∧
      bytes = slice memory (start layout.blocks index) size := by
  rw [lookup_heapOf, Option.map_eq_some_iff] at found
  obtain ⟨size, live, rfl⟩ := found
  obtain ⟨index, placed, rfl⟩ := exists_index_of_blockAt live
  refine ⟨index, size, placed, rfl, ?_⟩
  rw [Nat.add_sub_cancel_left]

/-- The bytes of a block, as the client reads them. -/
theorem byteAt_of_lookup {s : DynostaticBuffer} (encoded : Encoded q s) (outside : Nat → UInt8)
    {p i : Nat} {bytes : List UInt8} {byte : UInt8} (found : (heapOf q s).lookup p = some bytes)
    (here : bytes[i]? = some byte) : byteAt q s outside (p + i) = byte := by
  obtain ⟨layout, memory, rfl⟩ := encoded
  obtain ⟨index, size, placed, rfl, rfl⟩ := exists_index_of_lookup found
  have inside : i < size := by
    rw [← length_slice memory (start layout.blocks index) size]
    exact (List.getElem?_eq_some_iff.mp here).1
  have bound : start layout.blocks index + size ≤ q.bufferMemorySize := layout.end_le placed
  rw [getElem?_slice memory inside] at here
  rw [Nat.add_assoc, byteAt_inside _ _ (by omega)]
  exact Option.some.inj here

/-- Blocks start at aligned addresses, and have aligned sizes. -/
theorem dvd_of_lookup {s : DynostaticBuffer} (encoded : Encoded q s) {p : Nat} {bytes : List UInt8}
    (found : (heapOf q s).lookup p = some bytes) :
    q.alignment ∣ p ∧ q.alignment ∣ bytes.length := by
  obtain ⟨layout, memory, rfl⟩ := encoded
  obtain ⟨index, size, placed, rfl, rfl⟩ := exists_index_of_lookup found
  rw [length_slice]
  exact ⟨dvd_add q.base_aligned (layout.dvd_start index),
    (layout.capacity_of_getElem? placed).multiple⟩

/-- **A client that fills the front of its block** changes that block only. -/
theorem heapOf_memset {s : DynostaticBuffer} (encoded : Encoded q s) {p count : Nat}
    {bytes : List UInt8} (found : (heapOf q s).lookup p = some bytes)
    (fits : count ≤ bytes.length) (pattern : UInt8) :
    Encoded q (storeBytes q s p count fun _ => pattern) ∧
    (Scrubbed q s → Scrubbed q (storeBytes q s p count fun _ => pattern)) ∧
    ∃ filled, heapOf q (storeBytes q s p count fun _ => pattern) = (heapOf q s).insert p filled ∧
      filled.length = bytes.length ∧ ∀ i < count, filled[i]? = some pattern := by
  obtain ⟨layout, memory, rfl⟩ := encoded
  obtain ⟨index, size, placed, rfl, rfl⟩ := exists_index_of_lookup found
  rw [length_slice] at fits ⊢
  have stored : storeBytes q (layout.encode memory) (q.base + start layout.blocks index) count
      (fun _ => pattern) = layout.encode (fill memory (start layout.blocks index) count pattern) :=
    storeBytes_base _ _ _ _
  rw [stored]
  refine ⟨layout.encoded _, fun scrubbed => scrubbed.written placed le_rfl (by omega) _, _,
    heapOf_insert (blockAt_eq_update (blockAt_start placed)) fun offset apart =>
      fill_outside (by omega), length_slice _ _ _, fun i inside => ?_⟩
  rw [getElem?_slice _ (by omega), Nat.add_sub_cancel_left, fill_inside ⟨by omega, by omega⟩]

end Helpers

/-! ### Parts of an operation -/

section Parts

variable {q : Placement} {outside : Nat → UInt8} {t : Fixture}

/-- A call, and the program after it. -/
theorem passes_ds_bind_iff {Value : Type} {rest : Returned → Test Value}
    {post : Value → Fixture → Prop} {op : Op} {r : Reply} (replied : reply q t.buf op = r) :
    Passes (ds q op >>= rest) t post ↔
      Passes (rest ⟨r.code, r.cell.getD 0⟩) { t with buf := r.buffer } post := by
  subst replied
  exact Iff.rfl

theorem passes_ds_bind {Value : Type} {rest : Returned → Test Value}
    {post : Value → Fixture → Prop} {op : Op} {r : Reply} (replied : reply q t.buf op = r)
    (passes : Passes (rest ⟨r.code, r.cell.getD 0⟩) { t with buf := r.buffer } post) :
    Passes (ds q op >>= rest) t post :=
  (passes_ds_bind_iff replied).mpr passes

/-- A fresh pattern, and the program after it. -/
theorem passes_nextPattern_bind {Value : Type} {rest : UInt8 → Test Value}
    {post : Value → Fixture → Prop}
    (passes : Passes (rest t.nextPattern) { t with nextPattern := t.nextPattern % 250 + 1 } post) :
    Passes (nextPattern >>= rest) t post :=
  passes

theorem asserts_verifyBytes (encoded : Encoded q t.buf) {p span : Nat} {bytes : List UInt8}
    {pattern : UInt8} (found : (heapOf q t.buf).lookup p = some bytes)
    (filled : ∀ i < span, bytes[i]? = some pattern) :
    Asserts (verifyBytes q outside p pattern span) t :=
  passes_get_bind <| asserts_forM fun i member =>
    asserts_check (byteAt_of_lookup encoded outside found (filled i (List.mem_range.mp member)))

theorem asserts_assertNoOverlapWithLive {p span skipIdx : Nat}
    (apart : ∀ i b, t.live[i]? = some b → i ≠ skipIdx →
      p + span ≤ b.ptr ∨ b.ptr + b.capLower ≤ p) :
    Asserts (assertNoOverlapWithLive q p span skipIdx) t := by
  refine passes_get_bind <| asserts_forM fun entry member => ?_
  have found := List.mem_zipIdx_iff_getElem?.mp member
  by_cases skipped : entry.2 = skipIdx
  · rw [if_pos skipped]
    exact asserts_pure
  · rw [if_neg skipped]
    -- an end that wraps makes the comparison easier
    exact asserts_check ((apart entry.2 entry.1 found skipped).imp
      (Nat.mod_le _ _).trans (Nat.mod_le _ _).trans)

variable (sound : Sound q t)

include sound

/-- The victim's pattern is intact. -/
theorem asserts_verifyPattern {b : LiveBlock} (member : b ∈ t.live) :
    Asserts (verifyPattern q outside b b.requested) t := by
  obtain ⟨bytes, found, describes⟩ := sound.ledger.lookup member
  exact asserts_verifyBytes sound.encoded found describes.filled

/-- The model's blocks do not overlap. -/
theorem Sound.apart {i j : Nat} {b other : LiveBlock} (found : t.live[i]? = some b)
    (found' : t.live[j]? = some other) (different : j ≠ i) :
    b.ptr + b.capLower ≤ other.ptr ∨ other.ptr + other.capLower ≤ b.ptr := by
  obtain ⟨bytes, block, describes⟩ := sound.ledger.lookup (List.mem_of_getElem? found)
  obtain ⟨bytes', block', describes'⟩ := sound.ledger.lookup (List.mem_of_getElem? found')
  have below := describes.capLower_le
  have below' := describes'.capLower_le
  have separated : Separated (heapOf q t.buf) := by
    obtain ⟨layout, memory, same⟩ := sound.encoded
    rw [same]
    exact separated_heapOf memory
  have apart := sound.ledger.apart separated found found' different block block'
  omega

/-- **The model agrees with the getters.** -/
theorem asserts_assertGlobalInvariants (exact : 100 * q.bufferMemorySize < 2 ^ q.sizeBits) :
    Asserts (assertGlobalInvariants q) t := by
  obtain ⟨buf, live, next⟩ := t
  obtain ⟨⟨layout, memory, rfl : buf = _⟩, ledger, -⟩ := sound
  have bounded := (liveExtent_le layout.blocks).trans layout.extent_le
  have promised : (live.map LiveBlock.capLower).sum ≤ liveExtent layout.blocks := by
    rw [← footprint_heapOf layout memory]
    exact ledger.sum_le fun b _ bytes describes => describes.capLower_le
  have counted : live.length = liveCount layout.blocks := by
    rw [← card_keys_heapOf layout memory]
    exact ledger.length_eq
  have slots := (liveCount_le_length layout.blocks).trans layout.length_le
  have total : live.foldl (fun acc b => (acc + b.capLower) % 2 ^ q.sizeBits) 0 =
      (live.map LiveBlock.capLower).sum := by
    have summed := foldl_mod (2 ^ q.sizeBits) live 0
    rwa [Nat.zero_mod, Nat.zero_add, Nat.mod_eq_of_lt (by omega)] at summed
  refine passes_get_bind ?_
  refine passes_ds_bind (yields_dsGetMemoryUsage layout memory _).value ?_
  refine passes_check_bind rfl ?_
  refine passes_check_bind ?_ ?_
  · show expectedUsage q.toConfig (live.foldl _ 0) ≤ expectedUsage q.toConfig _
    rw [total, expectedUsage_eq (promised.trans bounded) exact, expectedUsage_eq bounded exact]
    exact Nat.div_le_div_right (Nat.mul_le_mul_left 100 promised)
  refine passes_ds_bind (yields_dsGetFreeAllocatorCnt layout memory _).value ?_
  refine passes_check_bind rfl ?_
  refine asserts_check ?_
  show q.maxAllocationCount - liveCount layout.blocks = _
  rw [counted, (yields_sizeSub slots q.maxCount_lt).value]

end Parts

/-! ### The operations -/

section Operations

variable {q : Placement} {outside : Nat → UInt8} {t : Fixture}

/-- What a call does to the heap, and what it keeps. -/
theorem after_call (sound : Sound q t) {op : Op} (continues : Continues (.call op)) :
    Encoded q (reply q t.buf op).buffer ∧
      (q.zeroOnFree = true → Scrubbed q (reply q t.buf op).buffer) ∧
      Step 0 (heapOf q t.buf) (op.label q t.buf (reply q t.buf op))
        (heapOf q (reply q t.buf op).buffer) := by
  obtain ⟨⟨layout, memory, same⟩, -, scrubbed⟩ := sound
  rw [same] at scrubbed ⊢
  have outcome := reply_outcome layout memory op
  exact ⟨outcome.encode continues, fun zeroing => outcome.scrubbed zeroing (scrubbed zeroing),
    outcome.step continues⟩

/-- The oracle's answer. -/
theorem passes_oracle_bind {Value : Type} {rest : Returned → Test Value}
    {post : Value → Fixture → Prop} {layout : Layout q.toConfig} {memory : Nat → UInt8}
    (same : t.buf = layout.encode memory)
    (passes : Passes (rest ⟨.ok, largest q.toConfig layout.blocks⟩) t post) :
    Passes (ds q (.getMaxNewAllocationSize .self (some 0)) >>= rest) t post := by
  obtain ⟨buf, live, next⟩ := t
  obtain rfl : buf = _ := same
  exact passes_ds_bind (yields_dsGetMaxNewAllocationSize layout memory _).value passes

/-- A release of a live block succeeds. -/
theorem reply_releases {layout : Layout q.toConfig} {memory : Nat → UInt8} {op : Op}
    {index size : Nat} (found : layout.blocks[index]? = some ⟨size, true⟩)
    (releases : op.Releases (q.base + start layout.blocks index)) :
    reply q (layout.encode memory) op =
      ⟨.ok, (layout.release index).encode
        (scrub q.toConfig memory (start layout.blocks index) size), some 0⟩ := by
  have freed := (yields_dsFree_live layout memory found).value
  cases releases with
  | free => exact freed
  | realloc =>
    show (dsRealloc q (layout.encode memory) .self _ 0).value = _
    rw [dsRealloc_zero]
    exact freed

/-- **A victim is released.** -/
theorem passes_verifyAndRelease (sound : Sound q t) {release : Nat → Op}
    (releases : ∀ p, (release p).Releases p) {victim : Nat} (inside : victim < t.live.length) :
    Passes (verifyAndRelease q outside release victim) t fun _ after =>
      Sound q after ∧ after.live = t.live.eraseIdx victim := by
  obtain ⟨b, found⟩ : ∃ b, t.live[victim]? = some b := ⟨_, List.getElem?_eq_getElem inside⟩
  have member := List.mem_of_getElem? found
  have replied : (reply q t.buf (release b.ptr)).code = .ok ∧
      (reply q t.buf (release b.ptr)).cell = some 0 := by
    obtain ⟨bytes, live, -⟩ := sound.ledger.lookup member
    obtain ⟨layout, memory, same⟩ := sound.encoded
    rw [same] at live ⊢
    obtain ⟨index, size, placed, starts, -⟩ := exists_index_of_lookup live
    rw [reply_releases placed (starts ▸ releases b.ptr)]
    exact ⟨rfl, rfl⟩
  obtain ⟨ok, cell⟩ := replied
  have continues : Continues (.call (release b.ptr)) := by
    intro same
    have ends := releases b.ptr
    rw [Action.call.inj same] at ends
    cases ends
  obtain ⟨encoded, scrubbed, step⟩ := after_call sound continues
  have erased : heapOf q (reply q t.buf (release b.ptr)).buffer = (heapOf q t.buf).erase b.ptr := by
    generalize reply q t.buf (release b.ptr) = r at ok step
    obtain ⟨code, buffer, cell⟩ := r
    obtain rfl : code = .ok := ok
    rw [(releases b.ptr).label] at step
    exact step.free_eq
  refine passes_get_bind ?_
  rw [found]
  refine (asserts_verifyPattern sound member).bind ?_
  refine passes_ds_bind rfl ?_
  refine passes_check_bind ok ?_
  refine passes_check_bind (by rw [cell]; rfl) ?_
  refine passes_modify ⟨⟨encoded, ?_, scrubbed⟩, rfl⟩
  show Ledger _ _ (t.live.eraseIdx victim) (heapOf q _)
  rw [erased]
  exact sound.ledger.erase found

/-- A rounded size fits a block that the size fits. -/
theorem alignUp_le_length {s : DynostaticBuffer} (encoded : Encoded q s) {p size : Nat}
    {bytes : List UInt8} (found : (heapOf q s).lookup p = some bytes)
    (small : size ≤ q.maxAllocationSize) (large : size ≤ bytes.length) :
    alignUp q.toConfig size ≤ bytes.length := by
  rw [alignUp_eq small]
  exact roundUp_le q.alignment_pos (dvd_of_lookup encoded found).2 large

/-- A delivered block is clean. -/
theorem clean_of_request {layout : Layout q.toConfig} {memory : Nat → UInt8}
    (scrubbed : Scrubbed q (layout.encode memory)) {op : Op} {p size zeroed a : Nat}
    {buffer : DynostaticBuffer} {bytes : List UInt8} (requests : op.Requests p size zeroed)
    (replied : reply q (layout.encode memory) op = ⟨.ok, buffer, some a⟩)
    (encoded : Encoded q buffer) (found : (heapOf q buffer).lookup a = some bytes) :
    ∀ i < size, bytes[i]? = some 0 := by
  have outcome := reply_outcome layout memory op
  rw [replied] at outcome
  obtain ⟨a', capacity, handed, live, large, zero⟩ :=
    outcome.request_zeroed scrubbed requests rfl
  cases handed
  obtain ⟨after, memory', rfl⟩ := encoded
  obtain ⟨index, size', placed, rfl, rfl⟩ := exists_index_of_lookup found
  obtain rfl := live.unique (liveBlock_start placed)
  intro i inside
  rw [getElem?_slice _ (by omega)]
  exact congrArg some (zero _ (by omega) (by omega))

/-- **A `malloc` of the storm.** -/
theorem passes_mallocOnce (sound : Sound q t) {clean : Bool}
    (cleans : clean = true → q.zeroOnFree = true) {req : Nat} (positive : 0 < req)
    (small : req ≤ q.maxAllocationSize) :
    Passes (mallocOnce q outside clean req) t fun _ after => Sound q after := by
  have continues : Continues (.call (.malloc .self (some 0) req)) := nofun
  have called := after_call sound continues
  obtain ⟨buf, live, next⟩ := t
  obtain ⟨⟨layout, memory, rfl : buf = _⟩, ledger, scrubbed⟩ := sound
  obtain ⟨encoded, scrubbed', step⟩ := called
  refine passes_oracle_bind rfl ?_
  refine passes_check_bind rfl ?_
  by_cases fits : req ≤ largest q.toConfig layout.blocks
  · have ok := (malloc_ok_iff layout memory positive (blockAt_null _)).mpr fits
    obtain ⟨-, -, -, after, index, placed, replied⟩ :=
      (reply_outcome layout memory (.malloc .self (some 0) req)).of_requests (.malloc 0 req) ok
    rw [replied] at encoded scrubbed' step
    rw [Op.Requests.label (.malloc 0 req) positive] at step
    obtain ⟨bytes, new, clear, large, inserted⟩ := step.allocate_eq
    generalize q.base + start after.blocks index = a at replied inserted new clear
    generalize after.encode _ = buffer at replied encoded scrubbed' inserted
    have found : (heapOf q buffer).lookup a = some bytes := by
      rw [inserted, Finmap.lookup_insert]
    have rounded := alignUp_le_length encoded found small large
    obtain ⟨encoded', kept, filled, heap, length, same⟩ :=
      heapOf_memset encoded found large next
    refine passes_ds_bind replied (Passes.of_pos fits ?_)
    refine passes_check_bind rfl ?_
    refine passes_check_bind (Nat.mod_eq_zero_of_dvd (dvd_of_lookup encoded found).1) ?_
    refine passes_get_bind ?_
    refine (asserts_assertNoOverlapWithLive fun i b listed _ => ?_).bind ?_
    · obtain ⟨bytes', found', describes⟩ := ledger.lookup (List.mem_of_getElem? listed)
      have apart := clear b.ptr bytes' found'
      have below := describes.capLower_le
      show a + alignUp q.toConfig req ≤ b.ptr ∨ b.ptr + b.capLower ≤ a
      omega
    refine Asserts.bind ?_ ?_
    · unfold assertClean
      split
      · rename_i wanted
        exact asserts_verifyBytes encoded found
          (clean_of_request (scrubbed (cleans wanted)) (.malloc 0 req) replied encoded found)
      · exact asserts_pure
    refine passes_nextPattern_bind (passes_modify_bind (passes_modify ?_))
    refine ⟨encoded', ?_, fun zeroing => kept (scrubbed' zeroing)⟩
    rw [inserted, Finmap.insert_insert] at heap
    have describes : Describes ⟨a, req, alignUp q.toConfig req, next⟩ filled :=
      ⟨length ▸ rounded, same⟩
    exact heap ▸ ledger.push new describes
  · have refused : ¬ (reply q (layout.encode memory) (.malloc .self (some 0) req)).code = .ok :=
      fun ok => fits ((malloc_ok_iff layout memory positive (blockAt_null _)).mp ok)
    obtain ⟨unchanged, cell⟩ := (reply_outcome layout memory _).unchanged refused
    refine passes_ds_bind rfl (Passes.of_neg fits ?_)
    refine passes_check_bind refused ?_
    refine passes_check (by rw [cell]; rfl) ?_
    show Sound q ⟨(reply q (layout.encode memory) _).buffer, live, next⟩
    rw [unchanged]
    exact ⟨layout.encoded memory, ledger, scrubbed⟩

/-- A block of the heap is live, with its length as capacity. -/
theorem liveBlock_of_lookup {s : DynostaticBuffer} (encoded : Encoded q s) {p : Nat}
    {bytes : List UInt8} (found : (heapOf q s).lookup p = some bytes) :
    Dynostatic.LiveBlock q s p bytes.length := by
  obtain ⟨layout, memory, rfl⟩ := encoded
  obtain ⟨index, size, placed, rfl, rfl⟩ := exists_index_of_lookup found
  rw [length_slice]
  exact liveBlock_start placed

theorem asserts_assertBucket {b : LiveBlock} {newReq oracle : Nat} {ret : Returned}
    (fit : alignUp q.toConfig newReq ≤ b.capLower → ret.code = .ok ∧ ret.cell = b.ptr)
    (promised : newReq ≤ oracle → ret.code = .ok) :
    Asserts (assertBucket q b newReq oracle ret) t := by
  unfold assertBucket
  split
  · rename_i guaranteed
    exact passes_check_bind (fit guaranteed).1 (asserts_check (fit guaranteed).2)
  · split
    · rename_i success
      exact asserts_check (promised success)
    · exact asserts_pure

/-- **The buckets are right.** -/
theorem bucket_of_realloc {layout : Layout q.toConfig} {memory : Nat → UInt8} {p newReq : Nat}
    {old : List UInt8} (found : (heapOf q (layout.encode memory)).lookup p = some old)
    (positive : 0 < newReq) (small : newReq ≤ q.maxAllocationSize) :
    (alignUp q.toConfig newReq ≤ old.length →
      reply q (layout.encode memory) (.realloc .self (some p) newReq) =
        ⟨.ok, layout.encode memory, some p⟩) ∧
    (newReq ≤ largest q.toConfig layout.blocks →
      (reply q (layout.encode memory) (.realloc .self (some p) newReq)).code = .ok) := by
  obtain ⟨index, size, placed, rfl, rfl⟩ := exists_index_of_lookup found
  rw [length_slice, alignUp_eq small]
  exact ⟨fun fit => (yields_dsRealloc_kept layout memory placed positive small fit).value,
    realloc_ok layout memory placed positive⟩

/-- **What a successful `ds_realloc` does to the heap.** -/
theorem heapOf_realloc {layout : Layout q.toConfig} {memory : Nat → UInt8} {p newReq : Nat}
    {old : List UInt8} (found : (heapOf q (layout.encode memory)).lookup p = some old)
    (positive : 0 < newReq)
    (ok : (reply q (layout.encode memory) (.realloc .self (some p) newReq)).code = .ok) :
    ∃ buffer a bytes,
      reply q (layout.encode memory) (.realloc .self (some p) newReq) = ⟨.ok, buffer, some a⟩ ∧
      Encoded q buffer ∧ a ∉ (heapOf q (layout.encode memory)).erase p ∧
      heapOf q buffer = ((heapOf q (layout.encode memory)).erase p).insert a bytes ∧
      newReq ≤ bytes.length ∧ (a = p → old.length ≤ bytes.length) ∧
      ∀ i < min old.length bytes.length, bytes[i]? = old[i]? := by
  have live := liveBlock_of_lookup (layout.encoded memory) found
  have outcome := reply_outcome layout memory (.realloc .self (some p) newReq)
  obtain ⟨buffer, a, replied⟩ : ∃ buffer a, reply q (layout.encode memory)
      (.realloc .self (some p) newReq) = ⟨.ok, buffer, some a⟩ := by
    obtain ⟨index, placed, rfl⟩ := live.index
    rcases outcome.of_resizes placed positive ok with
      ⟨-, same⟩ | ⟨after, front, -, -, -, -, same⟩ | ⟨after, target, -, -, same⟩ <;>
      exact ⟨_, _, same⟩
  rw [replied] at outcome
  have encoded := outcome.encode nofun
  have step := outcome.step nofun
  rw [label_resize positive live.pos.ne'] at step
  obtain ⟨old', bytes, found', new, large, kept, heap⟩ := step.resize_eq
  rw [found] at found'
  cases found'
  refine ⟨buffer, a, bytes, replied, encoded, new, heap, large, ?_, kept⟩
  rintro rfl
  exact outcome.retains live (liveBlock_of_lookup encoded (by rw [heap, Finmap.lookup_insert]))

/-- **A victim that is resized**: it holds its pattern on, and the model with its new entry is sound
once the new pattern is written. -/
theorem Sound.resized {layout : Layout q.toConfig} {memory : Nat → UInt8} {live : List LiveBlock}
    {next : UInt8} (sound : Sound q ⟨layout.encode memory, live, next⟩) {victim newReq : Nat}
    {b : LiveBlock} (listed : live[victim]? = some b) (positive : 0 < newReq)
    (small : newReq ≤ q.maxAllocationSize)
    (ok : (reply q (layout.encode memory) (.realloc .self (some b.ptr) newReq)).code = .ok) :
    ∃ buffer a bytes,
      reply q (layout.encode memory) (.realloc .self (some b.ptr) newReq) =
        ⟨.ok, buffer, some a⟩ ∧
      Encoded q buffer ∧ (heapOf q buffer).lookup a = some bytes ∧
      (∀ i < min b.requested newReq, bytes[i]? = some b.pattern) ∧
      Sound q ⟨storeBytes q buffer a newReq fun _ => next,
        live.set victim ⟨a, newReq, newCapLower q b newReq a, next⟩, next % 250 + 1⟩ := by
  obtain ⟨old, found, describes⟩ := sound.ledger.lookup (List.mem_of_getElem? listed)
  obtain ⟨buffer, a, bytes, replied, encoded, new, heap, large, larger, kept⟩ :=
    heapOf_realloc found positive ok
  have found' : (heapOf q buffer).lookup a = some bytes := by
    rw [heap, Finmap.lookup_insert]
  have rounded := alignUp_le_length encoded found' small large
  have lower : newCapLower q b newReq a ≤ bytes.length := by
    unfold newCapLower
    split
    · rename_i stayed
      exact max_le (describes.capLower_le.trans (larger stayed)) rounded
    · exact rounded
  refine ⟨buffer, a, bytes, replied, encoded, found', fun i inside => ?_, ?_⟩
  · have filled := describes.filled i (by omega)
    have within := (List.getElem?_eq_some_iff.mp filled).1
    rw [kept i (by omega), filled]
  · obtain ⟨encoded', scrubs, filled, heap', length, same⟩ :=
      heapOf_memset encoded found' large next
    rw [heap, Finmap.insert_insert] at heap'
    have describes' : Describes ⟨a, newReq, newCapLower q b newReq a, next⟩ filled :=
      ⟨length ▸ lower, same⟩
    have continues : Continues (.call (.realloc .self (some b.ptr) newReq)) := nofun
    have zeroed := (after_call sound continues).2.1
    rw [replied] at zeroed
    exact ⟨encoded', heap' ▸ sound.ledger.move listed new describes',
      fun zeroing => scrubs (zeroed zeroing)⟩

/-- **A `realloc` of the storm.** -/
theorem passes_reallocOnce (sound : Sound q t) {victim newReq : Nat}
    (inside : victim < t.live.length) (positive : 0 < newReq)
    (small : newReq ≤ q.maxAllocationSize) :
    Passes (reallocOnce q outside victim newReq) t fun _ after => Sound q after := by
  obtain ⟨b, listed⟩ : ∃ b, t.live[victim]? = some b := ⟨_, List.getElem?_eq_getElem inside⟩
  have member := List.mem_of_getElem? listed
  obtain ⟨buf, live, next⟩ := t
  obtain ⟨layout, memory, rfl : buf = _⟩ := sound.encoded
  obtain ⟨old, found, describes⟩ := sound.ledger.lookup member
  obtain ⟨fit, promised⟩ := bucket_of_realloc found positive small
  refine passes_get_bind ?_
  rw [listed]
  refine (asserts_verifyPattern sound member).bind ?_
  refine passes_oracle_bind rfl ?_
  refine passes_check_bind rfl ?_
  refine passes_ds_bind rfl ?_
  refine Asserts.bind (asserts_assertBucket (fun guaranteed => ?_) promised) ?_
  · have kept := fit (guaranteed.trans describes.capLower_le)
    exact ⟨congrArg Reply.code kept, congrArg (fun r => r.cell.getD 0) kept⟩
  by_cases ok : (reply q (layout.encode memory) (.realloc .self (some b.ptr) newReq)).code = .ok
  · refine Passes.of_pos ok ?_
    obtain ⟨buffer, a, bytes, replied, encoded, found', preserved, after⟩ :=
      sound.resized listed positive small ok
    have read : Asserts (verifyBytes q outside a b.pattern (min b.requested newReq))
        ⟨buffer, live, next⟩ := asserts_verifyBytes encoded found' preserved
    rw [replied]
    refine passes_check_bind (Nat.mod_eq_zero_of_dvd (dvd_of_lookup encoded found').1) ?_
    refine read.bind ?_
    refine passes_nextPattern_bind (passes_modify_bind (passes_modify_bind ?_))
    refine (asserts_assertNoOverlapWithLive fun i other there different => ?_).imp
      fun _ last equal => equal ▸ after
    exact after.apart (List.getElem?_set_self inside) there different
  · refine Passes.of_neg ok ?_
    obtain ⟨unchanged, cell⟩ := (reply_outcome layout memory _).unchanged ok
    refine passes_check_bind (by rw [cell]; rfl) ?_
    rw [unchanged]
    exact (asserts_verifyPattern sound member).imp fun _ after same => same ▸ sound

/-- A victim is drawn from the live blocks. -/
theorem victim_lt {live : List LiveBlock} (some : ¬ live.isEmpty) (drawn : Nat) :
    uniform 0 (live.length - 1) drawn < live.length := by
  have positive : 0 < live.length := List.length_pos_iff.mpr fun nil =>
    some (List.isEmpty_iff.mpr nil)
  have bound := uniform_le (Nat.zero_le (live.length - 1)) drawn
  omega

/-- An operation of the first storm. -/
theorem passes_allocFree (sound : Sound q t) (draw : Draw) :
    Passes (allocFree q outside draw) t fun _ after => Sound q after := by
  refine passes_get_bind ?_
  by_cases malloc : t.live.isEmpty ∨ draw.roll % 100 < 55
  · refine Passes.of_pos malloc ?_
    exact passes_mallocOnce sound id (le_uniform draw.size) (uniform_le q.maxSize_pos draw.size)
  · refine Passes.of_neg malloc ?_
    have inside := victim_lt (fun empty => malloc (.inl empty)) draw.victim
    exact (passes_verifyAndRelease sound .free inside).imp fun _ after holds => holds.1

/-- An operation of the second storm. -/
theorem passes_mallocFreeRealloc (sound : Sound q t) (draw : Draw) :
    Passes (mallocFreeRealloc q outside draw) t fun _ after => Sound q after := by
  refine passes_get_bind ?_
  by_cases malloc : t.live.isEmpty ∨ draw.roll % 100 < 40
  · refine Passes.of_pos malloc ?_
    exact passes_mallocOnce sound (fun clean => absurd clean Bool.false_ne_true)
      (le_uniform draw.size) (uniform_le q.maxSize_pos draw.size)
  · refine Passes.of_neg malloc ?_
    have inside := victim_lt (fun empty => malloc (.inl empty)) draw.victim
    split
    · exact (passes_verifyAndRelease sound .free inside).imp fun _ after holds => holds.1
    · split
      · exact (passes_verifyAndRelease sound .realloc inside).imp fun _ after holds => holds.1
      · exact passes_reallocOnce sound inside (le_uniform draw.size)
          (uniform_le q.maxSize_pos draw.size)

end Operations

/-! ### The end of a test -/

section Finish

variable {q : Placement} {outside : Nat → UInt8} {t : Fixture}

/-- **The drain ends**, after a round a block. -/
theorem passes_drain (sound : Sound q t) {rounds : Nat} (enough : t.live.length < rounds) :
    Passes (drain q outside rounds) t fun _ after => Sound q after ∧ after.live = [] := by
  induction rounds generalizing t with
  | zero => exact absurd enough (Nat.not_lt_zero _)
  | succ rounds ih =>
    refine passes_get_bind ?_
    by_cases empty : t.live.isEmpty
    · refine Passes.of_pos empty (passes_pure ⟨sound, ?_⟩)
      exact List.isEmpty_iff.mp empty
    · refine Passes.of_neg empty ?_
      have positive : 0 < t.live.length := List.length_pos_iff.mpr fun nil =>
        empty (List.isEmpty_iff.mpr nil)
      have inside : t.live.length - 1 < t.live.length := by omega
      refine (passes_verifyAndRelease sound .free inside).bind fun _ after holds => ih holds.1 ?_
      rw [holds.2, List.length_eraseIdx_of_lt inside]
      omega

/-- Without a live block there is no block at all. -/
theorem blocks_eq_nil {layout : Layout q.toConfig} (none : liveCount layout.blocks = 0) :
    layout.blocks = [] := by
  by_contra some
  have positive : 0 < layout.blocks.length := List.length_pos_iff.mpr some
  have top : layout.blocks.length - 1 < layout.blocks.length := by omega
  obtain ⟨block, found⟩ := exists_getElem? top
  have live := tight_iff.mp layout.tight _ block found (by omega)
  exact (liveCount_pos found live).ne' none

theorem Sound.drained (sound : Sound q t) (empty : t.live = []) :
    ∃ memory, t.buf = (Layout.empty q.toConfig).encode memory := by
  obtain ⟨⟨layout, memory, same⟩, ledger, -⟩ := sound
  refine ⟨memory, ?_⟩
  have counted := ledger.length_eq
  rw [same, card_keys_heapOf, empty] at counted
  have nothing : layout = Layout.empty q.toConfig := Layout.ext (blocks_eq_nil counted.symm)
  rw [same, nothing]

/-- A fresh instance takes the largest size. -/
theorem largest_empty : largest q.toConfig (Layout.empty q.toConfig).blocks =
    q.maxAllocationSize := by
  have sizes : ∀ size, 0 < size → (size ≤ q.maxAllocationSize ∧ Room q.toConfig
      (Layout.empty q.toConfig).blocks (roundUp q.alignment size) ↔
        size ≤ largest q.toConfig (Layout.empty q.toConfig).blocks) :=
    fun size positive => room_iff_le_largest (Layout.empty q.toConfig) positive
  have room : Room q.toConfig (Layout.empty q.toConfig).blocks
      (roundUp q.alignment q.maxAllocationSize) :=
    .inr ⟨q.maxCount_pos, (Nat.zero_add _).trans_le
      ((roundUp_le_maxSize le_rfl).trans q.maxSize_le)⟩
  have reached := (sizes _ q.maxSize_pos).mp ⟨le_rfl, room⟩
  exact (((sizes _ (q.maxSize_pos.trans_le reached)).mpr le_rfl).1).antisymm reached

/-- **The instance is as if fresh.** -/
theorem asserts_assertDrained (sound : Sound q t) (empty : t.live = []) :
    Asserts (assertDrained q) t := by
  obtain ⟨memory, same⟩ := sound.drained empty
  obtain ⟨buf, live, next⟩ := t
  obtain rfl : buf = _ := same
  refine passes_ds_bind (yields_dsGetMemoryUsage (Layout.empty q.toConfig) memory _).value ?_
  refine passes_check_bind rfl ?_
  refine passes_check_bind ?_ ?_
  · show sizeMul q.toConfig 100 0 / q.bufferMemorySize % 2 ^ 8 = 0
    rw [sizeMul, Nat.mul_zero, Nat.zero_mod, Nat.zero_div, Nat.zero_mod]
  refine passes_ds_bind (yields_dsGetFreeAllocatorCnt (Layout.empty q.toConfig) memory _).value ?_
  refine passes_check_bind rfl ?_
  refine passes_check_bind (Nat.sub_zero _) ?_
  refine passes_ds_bind
    (yields_dsGetMaxNewAllocationSize (Layout.empty q.toConfig) memory _).value ?_
  exact passes_check_bind rfl (asserts_check largest_empty)

/-- The alignment assertion of the refill. -/
theorem alignUp_eq_self_iff {chunk : Nat} (small : chunk ≤ q.maxAllocationSize) :
    alignUp q.toConfig chunk = chunk ↔ q.alignment ∣ chunk := by
  rw [alignUp_eq small]
  exact ⟨fun same => same ▸ dvd_roundUp _ _, roundUp_of_dvd q.alignment_pos⟩

/-- **When the rest of the arena can be refilled.** -/
theorem passes_refill_iff {layout : Layout q.toConfig} {memory : Nat → UInt8}
    (same : t.buf = layout.encode memory) (all : ∀ block ∈ layout.blocks, block.live = true)
    {rounds : Nat} (enough : q.bufferMemorySize - extent layout.blocks < rounds) :
    Passes (refill q rounds (extent layout.blocks)) t (fun _ _ => True) ↔
      q.alignment ∣ q.bufferMemorySize - extent layout.blocks ∧
        q.bufferMemorySize - extent layout.blocks ≤
          (q.maxAllocationCount - layout.blocks.length) * q.maxAllocationSize := by
  induction rounds generalizing layout t with
  | zero => exact absurd enough (Nat.not_lt_zero _)
  | succ rounds ih =>
    have bounded := layout.extent_le
    have large := q.maxSize_pos
    unfold refill
    by_cases more : extent layout.blocks < q.bufferMemorySize
    · rw [if_pos more]
      generalize drawn : (if q.maxAllocationSize < q.bufferMemorySize - extent layout.blocks then
        q.maxAllocationSize else q.bufferMemorySize - extent layout.blocks) = chunk
      have small : chunk ≤ q.maxAllocationSize := by split at drawn <;> omega
      have positive : 0 < chunk := by split at drawn <;> omega
      by_cases aligned : q.alignment ∣ chunk
      · have exact := roundUp_of_dvd q.alignment_pos aligned
        rw [passes_check_bind_iff ((alignUp_eq_self_iff small).mpr aligned)]
        by_cases slot : layout.blocks.length < q.maxAllocationCount
        · have room : extent layout.blocks + roundUp q.alignment chunk ≤ q.bufferMemorySize := by
            rw [exact]
            split at drawn <;> omega
          have pushed := request_pushed memory all positive small slot room
          rw [passes_ds_bind_iff (same ▸ pushed), passes_check_bind_iff rfl]
          let after := layout.push (isCapacity_roundUp positive small) slot room
          have live : ∀ block ∈ after.blocks, block.live = true :=
            List.forall_mem_append.mpr ⟨all, List.forall_mem_singleton.mpr rfl⟩
          have longer : after.blocks.length = layout.blocks.length + 1 := List.length_append
          have higher : extent after.blocks = extent layout.blocks + chunk := by
            rw [← exact]
            exact extent_append _ _
          rw [← higher, ih rfl live (by omega), higher, longer, ← Nat.sub_sub,
            Nat.dvd_sub_iff_left (by split at drawn <;> omega) aligned]
          refine and_congr_right fun _ => ?_
          -- a whole chunk takes one record off the bound, a smaller one is the last
          obtain ⟨left, records⟩ := Nat.exists_eq_add_of_lt slot
          rw [show q.maxAllocationCount - (layout.blocks.length + 1) = left by omega,
            show q.maxAllocationCount - layout.blocks.length = left + 1 by omega, Nat.succ_mul]
          split at drawn <;> omega
        · have refused := request_refused memory all positive small fun both => slot both.1
          rw [passes_ds_bind_iff (same ▸ refused)]
          refine iff_of_false (not_passes_check_bind (refusal_ne_ok _ _)) fun both => ?_
          have none : q.maxAllocationCount - layout.blocks.length = 0 := by omega
          rw [none, Nat.zero_mul] at both
          omega
      · refine iff_of_false (not_passes_check_bind fun same => aligned ?_) fun both => aligned ?_
        · exact (alignUp_eq_self_iff small).mp same
        · split at drawn
          · exact drawn ▸ q.alignment_dvd_maxSize
          · exact drawn ▸ both.1
    · rw [if_neg more, show q.bufferMemorySize - extent layout.blocks = 0 by omega]
      exact iff_of_true (passes_pure trivial) ⟨dvd_zero _, Nat.zero_le _⟩

end Finish

/-! ### The tests -/

section Tests

variable {q : Placement} {outside : Nat → UInt8} {shuffle : List LiveBlock → List LiveBlock}

/-- The set-up leaves a fresh instance beside an empty model. -/
theorem sound_fresh (next : UInt8) : Sound q ⟨freshInstance q zeroBuffer, [], next⟩ where
  encoded := ⟨_, _, freshInstance_eq zeroBuffer_fresh⟩
  ledger := heapOf_freshInstance zeroBuffer_fresh ▸ Ledger.empty
  scrubbed := fun _ => (freshInstance_eq zeroBuffer_fresh) ▸ scrubbed_zeroed rfl

/-- Shuffling the model keeps it. -/
theorem Sound.shuffled {t : Fixture} (sound : Sound q t)
    (permutes : ∀ live, (shuffle live).Perm live) :
    Sound q { t with live := shuffle t.live } :=
  ⟨sound.encoded, sound.ledger.perm (permutes t.live), sound.scrubbed⟩

/-- **A storm whose operations keep the model passes up to its refill**, and leaves an instance
without a block. -/
theorem passes_stormAndDrain (permutes : ∀ live, (shuffle live).Perm live)
    (exact : 100 * q.bufferMemorySize < 2 ^ q.sizeBits) {operation : Draw → Test Unit}
    (keeps : ∀ t draw, Sound q t → Passes (operation draw) t fun _ after => Sound q after)
    (draws : List Draw) :
    Passes (stormAndDrain q outside shuffle operation draws) zeroFixture fun _ t =>
      ∃ memory, t.buf = (Layout.empty q.toConfig).encode memory := by
  have armed : reply q zeroFixture.buf (.initializeAllocation .self) =
      ⟨.ok, freshInstance q zeroBuffer, none⟩ := by
    rw [freshInstance_eq zeroBuffer_fresh]
    exact (yields_dsInitializeAllocation zeroBuffer_fresh).value
  have round : ∀ draw ∈ draws, ∀ t, Sound q t →
      Passes (operation draw >>= fun _ => assertGlobalInvariants q) t fun _ after =>
        Sound q after :=
    fun draw _ t sound => (keeps t draw sound).bind fun _ after sound' =>
      (asserts_assertGlobalInvariants sound' exact).imp fun _ last same => same ▸ sound'
  refine passes_ds_bind armed ?_
  refine passes_check_bind rfl ?_
  refine (passes_forM round (sound_fresh 1)).bind fun _ t sound => ?_
  have permuted := sound.shuffled permutes
  show Passes (drain q outside ((shuffle t.live).length + 1) >>= fun _ => assertDrained q)
    ⟨t.buf, shuffle t.live, t.nextPattern⟩ _
  refine (passes_drain permuted (Nat.lt_succ_self _)).bind fun _ last holds => ?_
  obtain ⟨sound', empty⟩ := holds
  exact (asserts_assertDrained sound' empty).imp fun _ last' unchanged =>
    unchanged ▸ sound'.drained empty

/-- The refill decides. -/
theorem passes_storm_iff (permutes : ∀ live, (shuffle live).Perm live)
    (exact : 100 * q.bufferMemorySize < 2 ^ q.sizeBits) {operation : Draw → Test Unit}
    (keeps : ∀ t draw, Sound q t → Passes (operation draw) t fun _ after => Sound q after)
    (draws : List Draw) :
    Passes (storm q outside shuffle operation draws) zeroFixture (fun _ _ => True) ↔
      q.alignment ∣ q.bufferMemorySize ∧
        q.bufferMemorySize ≤ q.maxAllocationCount * q.maxAllocationSize := by
  refine passes_bind_iff (passes_stormAndDrain permutes exact keeps draws) fun _ t drained => ?_
  obtain ⟨memory, same⟩ := drained
  have none : ∀ block ∈ (Layout.empty q.toConfig).blocks, block.live = true := nofun
  exact passes_refill_iff same none (Nat.lt_succ_self _)

/-- **When the test of `ds_malloc` and `ds_free` passes**: for every seed and every number of
operations it passes up to its refill, and to its end exactly where the refill can decompose the
arena into aligned chunks, one a record. -/
theorem random_alloc_free_storm_passes_iff (q : Placement) (outside : Nat → UInt8)
    (permutes : ∀ live, (shuffle live).Perm live)
    (exact : 100 * q.bufferMemorySize < 2 ^ q.sizeBits) (draws : List Draw) :
    Passes (stormAndDrain q outside shuffle (allocFree q outside) draws) zeroFixture
        (fun _ _ => True) ∧
      (Passes (randomAllocFreeStorm q outside shuffle draws) zeroFixture (fun _ _ => True) ↔
        q.alignment ∣ q.bufferMemorySize ∧
          q.bufferMemorySize ≤ q.maxAllocationCount * q.maxAllocationSize) := by
  have keeps : ∀ t draw, Sound q t → Passes (allocFree q outside draw) t fun _ after =>
      Sound q after := fun _ draw sound => passes_allocFree sound draw
  exact ⟨(passes_stormAndDrain permutes exact keeps draws).imp fun _ _ _ => trivial,
    passes_storm_iff permutes exact keeps draws⟩

/-- Two blocks, the first moved past the second, and the second freed. -/
def fewDraws : List Draw := [⟨0, 9, 0⟩, ⟨39, 99, 0⟩, ⟨70, 200, 0⟩, ⟨55, 0, 1⟩]

theorem random_alloc_free_storm_passes :
    Passes (randomAllocFreeStorm defaultPlacement (fun _ => 0) List.reverse fewDraws) zeroFixture
      fun _ _ => True :=
  (random_alloc_free_storm_passes_iff defaultPlacement (fun _ => 0) List.reverse_perm
    (by decide) fewDraws).2.mpr ⟨by decide, by decide⟩

/-- **When the test of `ds_malloc`, `ds_free` and `ds_realloc` passes.** -/
theorem random_malloc_free_realloc_storm_passes_iff (q : Placement) (outside : Nat → UInt8)
    (permutes : ∀ live, (shuffle live).Perm live)
    (exact : 100 * q.bufferMemorySize < 2 ^ q.sizeBits) (draws : List Draw) :
    Passes (stormAndDrain q outside shuffle (mallocFreeRealloc q outside) draws) zeroFixture
        (fun _ _ => True) ∧
      (Passes (randomMallocFreeReallocStorm q outside shuffle draws) zeroFixture
          (fun _ _ => True) ↔
        q.alignment ∣ q.bufferMemorySize ∧
          q.bufferMemorySize ≤ q.maxAllocationCount * q.maxAllocationSize) := by
  have keeps : ∀ t draw, Sound q t → Passes (mallocFreeRealloc q outside draw) t fun _ after =>
      Sound q after := fun _ draw sound => passes_mallocFreeRealloc sound draw
  exact ⟨(passes_stormAndDrain permutes exact keeps draws).imp fun _ _ _ => trivial,
    passes_storm_iff permutes exact keeps draws⟩

theorem random_malloc_free_realloc_storm_passes :
    Passes (randomMallocFreeReallocStorm defaultPlacement (fun _ => 0) List.reverse fewDraws)
      zeroFixture fun _ _ => True :=
  (random_malloc_free_realloc_storm_passes_iff defaultPlacement (fun _ => 0) List.reverse_perm
    (by decide) fewDraws).2.mpr ⟨by decide, by decide⟩

end Tests

end Dynostatic.MonteCarlo
