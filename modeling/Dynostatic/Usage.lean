/-
**The occupancy.**

`ds_get_memory_usage` adds up the capacities of the live records, multiplies by `100` in `size_t`
and divides by the size of the arena. The sum never wraps, as the live blocks lie in the arena. The
product does in a large arena: no assertion of the header relates the size of the arena to
`SIZE_MAX / 100`. `memory_usage_exact_iff` says exactly when the percentage is right.
-/

import Dynostatic.Outcome

namespace Dynostatic

open Tracing Tracing.Traced Tiling Runs

variable {q : Placement}

/-- The sum of the capacities of the live records. -/
def liveSum (c : Config) (s : DynostaticBuffer) : Nat :=
  ((List.range c.maxAllocationCount).map fun index =>
    if (s.allocators index).allocationStatus = .allocated then (s.allocators index).size
    else 0).sum

/-- The live records among the first `count` are the live blocks among them. -/
theorem sum_records (blocks : List Block) (count : Nat) :
    ((List.range count).map fun index =>
      if (records blocks index).allocationStatus = .allocated then (records blocks index).size
      else 0).sum = liveExtent (blocks.take count) := by
  induction count with
  | zero => rfl
  | succ count ih =>
    rw [List.range_succ, List.map_append, List.sum_append, ih, List.take_add_one,
      liveExtent_append, List.map_singleton, List.sum_singleton]
    congr 1
    rcases found : blocks[count]? with _ | ⟨size, _ | _⟩
    · rw [records_of_length_le (List.getElem?_eq_none_iff.mp found)]
      rfl
    · rw [records_parked found]
      rfl
    · rw [records_live found]
      rfl

theorem liveSum_encode (layout : Layout q.toConfig) (memory : Nat → UInt8) :
    liveSum q.toConfig (layout.encode memory) = liveExtent layout.blocks := by
  rw [← List.take_of_length_le layout.length_le]
  exact sum_records _ _

/-- The live blocks lie in the arena. -/
theorem liveSum_le {s : DynostaticBuffer} (reachable : Reachable q s)
    (initialized : s.initMagic = dsMagicNumber) : liveSum q.toConfig s ≤ q.bufferMemorySize := by
  obtain ⟨layout, memory, rfl⟩ := reachable.of_initialized initialized
  rw [liveSum_encode]
  exact (liveExtent_le layout.blocks).trans layout.extent_le

/-- The arena is not empty. -/
theorem bufferMemorySize_pos (c : Config) : 0 < c.bufferMemorySize :=
  c.maxSize_pos.trans_le c.maxSize_le

/-- A share of a whole is at most `100` percent. -/
theorem percentage_le {share whole : Nat} (part : share ≤ whole) :
    100 * share / whole ≤ 100 := by
  refine Nat.div_le_of_le_mul ?_
  rw [Nat.mul_comm whole]
  exact Nat.mul_le_mul_left 100 part

/-- What the getter replies. -/
theorem reply_getMemoryUsage {s : DynostaticBuffer} (reachable : Reachable q s)
    (initialized : s.initMagic = dsMagicNumber) (out : Nat) :
    reply q s (.getMemoryUsage .self (some out)) =
      ⟨.ok, s, some (sizeMul q.toConfig 100 (liveSum q.toConfig s) / q.bufferMemorySize)⟩ := by
  have below := liveSum_le reachable initialized
  obtain ⟨layout, memory, rfl⟩ := reachable.of_initialized initialized
  rw [liveSum_encode] at below ⊢
  have bounded : sizeMul q.toConfig 100 (liveExtent layout.blocks) / q.bufferMemorySize ≤ 100 :=
    (Nat.div_le_div_right (Nat.mod_le _ _)).trans (percentage_le below)
  have yields := (yields_dsGetMemoryUsage layout memory out).value
  rw [Nat.mod_eq_of_lt (by omega)] at yields
  exact yields

/-- Without a wrap the reply is the percentage. -/
theorem reply_getMemoryUsage_exact {s : DynostaticBuffer} (reachable : Reachable q s)
    (initialized : s.initMagic = dsMagicNumber)
    (exact : 100 * liveSum q.toConfig s < 2 ^ q.sizeBits) (out : Nat) :
    reply q s (.getMemoryUsage .self (some out)) =
      ⟨.ok, s, some (100 * liveSum q.toConfig s / q.bufferMemorySize)⟩ := by
  rw [reply_getMemoryUsage reachable initialized,
    (sizeMul_div_eq_iff (bufferMemorySize_pos _) q.memorySize_lt).mpr exact]

/-- **When the occupancy is exact.** In a reachable state the getter reports the percentage of the
arena in live blocks, rounded down, exactly when the instance is initialized and `100` times their
size is a `size_t`. There the report is at most `100`, and grows with their size. -/
theorem memory_usage_exact_iff (q : Placement) :
    (∀ s, Reachable q s → ∀ out,
      (reply q s (.getMemoryUsage .self (some out)) =
          ⟨.ok, s, some (100 * liveSum q.toConfig s / q.bufferMemorySize)⟩ ↔
        s.initMagic = dsMagicNumber ∧ 100 * liveSum q.toConfig s < 2 ^ q.sizeBits)) ∧
    ∀ s t, Reachable q s → s.initMagic = dsMagicNumber → Reachable q t →
      t.initMagic = dsMagicNumber → liveSum q.toConfig s ≤ liveSum q.toConfig t →
      100 * liveSum q.toConfig t < 2 ^ q.sizeBits →
      ∀ out v w, (reply q s (.getMemoryUsage .self (some out))).cell = some v →
        (reply q t (.getMemoryUsage .self (some out))).cell = some w → v ≤ w ∧ w ≤ 100 := by
  constructor
  · intro s reachable out
    by_cases initialized : s.initMagic = dsMagicNumber
    · rw [reply_getMemoryUsage reachable initialized, and_iff_right initialized,
        ← sizeMul_div_eq_iff (bufferMemorySize_pos _) q.memorySize_lt, Reply.mk.injEq,
        Option.some.injEq]
      exact ⟨fun same => same.2.2, fun same => ⟨rfl, rfl, same⟩⟩
    · refine iff_of_false (fun same => initialized ?_) fun both => initialized both.1
      exact initialized_of_ok (congrArg Reply.code same) nofun
  · intro s t reachable initialized reachable' initialized' less exact out v w reported reported'
    have scaled := Nat.mul_le_mul_left 100 less
    rw [reply_getMemoryUsage_exact reachable initialized (by omega)] at reported
    rw [reply_getMemoryUsage_exact reachable' initialized' exact] at reported'
    cases reported
    cases reported'
    exact ⟨Nat.div_le_div_right scaled,
      percentage_le (liveSum_le reachable' initialized')⟩

/-- In the default build two blocks of 12 bytes fill `2` percent of the arena. -/
theorem memory_usage_exact_twoLive :
    (reply defaultPlacement twoLive (.getMemoryUsage .self (some 0))).cell = some 2 :=
  congrArg Reply.cell (((memory_usage_exact_iff defaultPlacement).1 twoLive twoLive_reachable 0).mpr
    ⟨rfl, by decide⟩)

/-- One block over the whole arena. -/
def wideLive : DynostaticBuffer :=
  run (next widePlacement) (freshInstance widePlacement zeroBuffer)
    [.call (.malloc .self (some 0) 67108864)]

theorem wideLive_reachable : Reachable widePlacement wideLive :=
  (Reachable.freshInstance zeroBuffer_fresh).run _

/-- **The product wraps**: the full arena is reported as `36` percent. -/
theorem memory_usage_wraps :
    Reachable widePlacement wideLive ∧ wideLive.initMagic = dsMagicNumber ∧
      100 * liveSum widePlacement.toConfig wideLive / widePlacement.bufferMemorySize = 100 ∧
      (reply widePlacement wideLive (.getMemoryUsage .self (some 0))).code = .ok ∧
      (reply widePlacement wideLive (.getMemoryUsage .self (some 0))).cell = some 36 :=
  ⟨wideLive_reachable, by decide, by decide, by decide, by decide⟩

end Dynostatic
