/-
**No permanent fragmentation.**

Take an initialized instance and any run that leaves its live blocks alone. Whatever the run does
with the parked blocks below and the space above, when nothing is live at its end but what was live
at its start, the bookkeeping is what it was (`no_permanent_fragmentation`).

The relation between the start and every state on the way is `Tiling.Pins`; `Outcome.pinned` is the
step, `pinned_run` the run.
-/

import Dynostatic.Lib.Pinned
import Dynostatic.Outcome

namespace Dynostatic

open Tracing Tracing.Traced Tiling Rounding Bytes Runs

variable {q : Placement}

/-- The action does not end the instance's life, and does not free or resize a block that is live in
`s`, unless it fails. -/
def Spares (q : Placement) (s t : DynostaticBuffer) (action : Action) : Prop :=
  Continues action ∧ ∀ op, action = .call op → (reply q t op).code = .ok →
    ∀ p ∈ op.target, ∀ capacity, ¬ LiveBlock q s p capacity

/-- The instance of a layout whose tiling pins the base. -/
def PinnedTo (q : Placement) (base : List Block) (s : DynostaticBuffer) : Prop :=
  ∃ (layout : Layout q.toConfig) (memory : Nat → UInt8),
    s = layout.encode memory ∧ Pins base layout.blocks

theorem Layout.pinnedTo {base : List Block} {layout : Layout q.toConfig}
    (pins : Pins base layout.blocks) (memory : Nat → UInt8) :
    PinnedTo q base (layout.encode memory) :=
  ⟨layout, memory, rfl, pins⟩

section Step

variable {base layout : Layout q.toConfig}

/-- A block whose address holds no live block of the base is not live in the base. -/
theorem spared_of_blockAt (pins : Pins base.blocks layout.blocks) {index : Nat}
    (spared : blockAt q base.blocks (q.base + start layout.blocks index) = none) :
    ∀ block, base.blocks[index]? = some block → block.live = false := by
  rintro ⟨size, _ | _⟩ found
  · rfl
  · rw [pins.start_eq (lt_length_of_getElem? found).le, blockAt_start found] at spared
    cases spared

/-- **One call keeps the base pinned.** -/
theorem Outcome.pinned {memory : Nat → UInt8} {op : Op} {r : Reply}
    (outcome : Outcome q layout memory op r) (pins : Pins base.blocks layout.blocks)
    (continues : Continues (.call op))
    (spares : r.code = .ok → ∀ p ∈ op.target, blockAt q base.blocks p = none) :
    PinnedTo q base.blocks r.buffer := by
  cases outcome with
  | failed => exact Layout.pinnedTo pins memory
  | reported => exact Layout.pinnedTo pins memory
  | ended => exact absurd rfl continues
  | placed _ _ _ _ placed => exact Layout.pinnedTo (pins.placed placed) _
  | released found releases =>
    have spared := spared_of_blockAt pins (spares rfl _ releases.target_eq)
    exact Layout.pinnedTo (pins.release base.tight spared) _
  | kept => exact Layout.pinnedTo pins memory
  | @grown front old size last positive small more room =>
    have spared := spared_of_blockAt pins (by rw [start_of_last last]; exact spares rfl _ rfl)
    exact Layout.pinnedTo ((last ▸ pins : Pins base.blocks _).resize base.tight spared) memory
  | moved found _ _ _ placed =>
    have spared := spared_of_blockAt pins (spares rfl _ rfl)
    exact Layout.pinnedTo ((pins.placed placed).release base.tight spared) _
  | written => exact Layout.pinnedTo pins _

/-- **A run that spares the live blocks of its first state keeps it pinned.** -/
theorem pinned_run (memory : Nat → UInt8) (actions : List Action)
    (spares : Obeys (next q) (Spares q (base.encode memory)) (base.encode memory) actions) :
    PinnedTo q base.blocks (run (next q) (base.encode memory) actions) := by
  refine run_invariant ?_ actions _ spares (Layout.pinnedTo (Pins.refl _) memory)
  rintro t action ⟨continues, spared⟩ ⟨layout, memory', rfl, pins⟩
  rcases action with op | ⟨offset, byte⟩
  · exact (reply_outcome layout memory' op).pinned pins continues fun ok p target =>
      not_liveBlock_encode_iff.mp (spared op rfl ok p target)
  · exact Layout.pinnedTo pins _

/-- A pinned layout with no other live block is the base. -/
theorem blocks_eq_of_live (pins : Pins base.blocks layout.blocks) {memory memory' : Nat → UInt8}
    (same : ∀ p capacity, LiveBlock q (layout.encode memory') p capacity →
      ∃ capacity', LiveBlock q (base.encode memory) p capacity') :
    layout.blocks = base.blocks := by
  refine pins.eq_of_live layout.tight (fun block member => (layout.capacity block member).positive)
    fun offset size live => ?_
  rw [← blockAt_base (q := q)] at live
  obtain ⟨size', live'⟩ := same _ _ (liveBlock_encode_iff.mpr live)
  rw [liveBlock_encode_iff, blockAt_base] at live'
  exact ⟨size', live'⟩

end Step

/-- A run that spares the live blocks of its first state, and ends with no others. -/
theorem bookkeeping_restored {s : DynostaticBuffer} (reachable : Reachable q s)
    (initialized : s.initMagic = dsMagicNumber) (actions : List Action)
    (spares : Obeys (next q) (Spares q s) s actions)
    (same : ∀ p capacity, LiveBlock q (run (next q) s actions) p capacity →
      ∃ capacity', LiveBlock q s p capacity') :
    (run (next q) s actions).dataHead = s.dataHead ∧
      (run (next q) s actions).usedAllocators = s.usedAllocators ∧
      (run (next q) s actions).allocators = s.allocators := by
  obtain ⟨base, memory, rfl⟩ := reachable.of_initialized initialized
  obtain ⟨layout, memory', final, pins⟩ := pinned_run memory actions spares
  rw [final] at same ⊢
  have blocks := blocks_eq_of_live pins same
  show extent layout.blocks = _ ∧ liveCount layout.blocks = _ ∧ records layout.blocks = _
  rw [blocks]
  exact ⟨rfl, rfl, rfl⟩

theorem not_liveBlock_freshInstance {first : DynostaticBuffer}
    (fresh : first.initMagic ≠ dsMagicNumber) (p capacity : Nat) :
    ¬ LiveBlock q (freshInstance q first) p capacity := by
  rw [freshInstance_eq fresh]
  intro live
  obtain ⟨index, found, -⟩ := live.index
  cases found

/-- **No permanent fragmentation.** A run that frees and reallocates no block live in its first
state, and ends with exactly those live, restores the bookkeeping. From a fresh instance, a run that
ends with no live block leaves the records of a fresh instance. -/
theorem no_permanent_fragmentation (q : Placement) :
    (∀ s, Reachable q s → s.initMagic = dsMagicNumber → ∀ actions,
      Obeys (next q) (Spares q s) s actions →
      (∀ p, (∃ capacity, LiveBlock q (run (next q) s actions) p capacity) ↔
        ∃ capacity, LiveBlock q s p capacity) →
      (run (next q) s actions).dataHead = s.dataHead ∧
        (run (next q) s actions).usedAllocators = s.usedAllocators ∧
        (run (next q) s actions).allocators = s.allocators) ∧
    ∀ first, first.initMagic ≠ dsMagicNumber → ∀ actions,
      Obeys (next q) (fun _ => Continues) (freshInstance q first) actions →
      (∀ p capacity, ¬ LiveBlock q (run (next q) (freshInstance q first) actions) p capacity) →
      (run (next q) (freshInstance q first) actions).dataHead = 0 ∧
        (run (next q) (freshInstance q first) actions).usedAllocators = 0 ∧
        ∀ index, (run (next q) (freshInstance q first) actions).allocators index =
          ⟨0, 0, .notUsed⟩ := by
  constructor
  · intro s reachable initialized actions spares same
    exact bookkeeping_restored reachable initialized actions spares
      fun p capacity live => (same p).mp ⟨capacity, live⟩
  · intro first fresh actions continues none
    have empty : (freshInstance q first).dataHead = 0 ∧ (freshInstance q first).usedAllocators = 0 ∧
        (freshInstance q first).allocators = (fun _ => ⟨0, 0, .notUsed⟩) ∧
        (freshInstance q first).initMagic = dsMagicNumber := by
      rw [freshInstance_eq fresh]
      exact ⟨rfl, rfl, rfl, rfl⟩
    obtain ⟨head, used, table, initialized⟩ := empty
    have spares : Obeys (next q) (Spares q (freshInstance q first)) (freshInstance q first)
        actions := by
      refine continues.imp fun t action alive => ⟨alive, ?_⟩
      exact fun _ _ _ p _ capacity => not_liveBlock_freshInstance fresh p capacity
    have restored := bookkeeping_restored (Reachable.freshInstance fresh) initialized actions spares
      fun p capacity live => absurd live (none p capacity)
    rw [head, used, table] at restored
    exact ⟨restored.1, restored.2.1, fun index => congrFun restored.2.2 index⟩

/-- Two blocks, freed from the bottom up: the first is parked and goes with the second. -/
def twoBlocks : List Action :=
  [.call (.malloc .self (some 0) 10), .call (.malloc .self (some 0) 20),
    .call (.free .self (some 4096)), .call (.free .self (some 4108))]

theorem no_permanent_fragmentation_twoBlocks :
    (run (next defaultPlacement) (freshInstance defaultPlacement zeroBuffer) twoBlocks).dataHead =
      0 := by
  have continues : Obeys (next defaultPlacement) (fun _ => Continues)
      (freshInstance defaultPlacement zeroBuffer) twoBlocks := ⟨nofun, nofun, nofun, nofun, trivial⟩
  refine ((no_permanent_fragmentation defaultPlacement).2 zeroBuffer zeroBuffer_fresh _ continues
    ?_).1
  rintro p capacity ⟨-, index, inside, status, -⟩
  revert index
  decide

end Dynostatic
