/-
**Capacity retention.**

A block's capacity follows from its history. While the block stays live at its address, its capacity
never decreases (`Outcome.retains`), and every size successfully requested for it leaves the
capacity at least as large as the size rounded up (`Outcome.serves`). So it bounds all of them, and
a `ds_realloc` to any size up to the largest of them does nothing (`capacity_retention`).

The exception is the size `0`: it rounds up to `0`, but a `ds_realloc` to it is a `ds_free`
(`capacity_retention_zero`).
-/

import Dynostatic.Resize

namespace Dynostatic

open Tracing Tracing.Traced Tiling Rounding Runs

variable {q : Placement}

/-- The size a call requests. A `ds_realloc` to the size `0` requests none. -/
def Op.requested : Op → Option Nat
  | .malloc _ _ size => some size
  | .calloc _ _ len sizeOfElem => some (len * sizeOfElem)
  | .realloc _ _ size => if size = 0 then none else some size
  | _ => none

/-- The size that an action successfully requests for the block at `p`. -/
def served (q : Placement) (p : Nat) (s : DynostaticBuffer) : Action → Option Nat
  | .call op =>
    if (reply q s op).code = .ok ∧ (reply q s op).cell = some p then op.requested else none
  | .store _ _ => none

/-- After the action a block is live at `p`. -/
def Stays (q : Placement) (p : Nat) (s : DynostaticBuffer) (action : Action) : Prop :=
  ∃ capacity, LiveBlock q (next q s action) p capacity

theorem Op.Requests.requested_eq {op : Op} {p size zeroed : Nat}
    (requests : op.Requests p size zeroed) (positive : 0 < size) : op.requested = some size := by
  cases requests with
  | malloc => rfl
  | calloc => rfl
  | realloc => exact if_neg positive.ne'

theorem Op.Releases.requested_eq {op : Op} {p : Nat} (releases : op.Releases p) :
    op.requested = none := by
  cases releases <;> rfl

theorem Op.Reports.requested_eq {op : Op} (reports : op.Reports) : op.requested = none := by
  cases reports <;> rfl

theorem Op.Writes.requested_eq {s : DynostaticBuffer} {op : Op} {dst count : Nat}
    {source : Nat → UInt8} (writes : op.Writes q s dst count source) : op.requested = none := by
  cases writes <;> rfl

/-! ### One step -/

section Step

variable {layout : Layout q.toConfig} {memory : Nat → UInt8} {op : Op} {r : Reply} {p : Nat}

/-- **A size that is served fits the block.** -/
theorem Outcome.serves (outcome : Outcome q layout memory op r) {size : Nat}
    (requested : op.requested = some size) (ok : r.code = .ok) (handed : r.cell = some p) :
    ∃ capacity, LiveBlock q r.buffer p capacity ∧ roundUp q.alignment size ≤ capacity := by
  cases outcome with
  | failed notOk => exact absurd ok notOk
  | reported reports => cases reports.requested_eq.symm.trans requested
  | ended => cases requested
  | placed requests positive _ _ placed =>
    cases (requests.requested_eq positive).symm.trans requested
    cases handed
    obtain ⟨capacity, large, found⟩ := placed.getElem?_eq
    exact ⟨capacity, liveBlock_start found, large⟩
  | released _ releases => cases releases.requested_eq.symm.trans requested
  | kept found positive fit =>
    cases (if_neg positive.ne').symm.trans requested
    cases handed
    exact ⟨_, liveBlock_start found, fit⟩
  | @grown front old _ last positive small more room =>
    cases (if_neg positive.ne').symm.trans requested
    cases handed
    refine ⟨roundUp q.alignment size, liveBlock_encode_iff.mpr ?_, le_rfl⟩
    have grown := blockAt_grow (q := q) front
      (layout.capacity_of_getElem? (getElem?_of_last last)).positive more
    exact (congrFun grown _).trans (Function.update_self _ _ _)
  | moved found positive _ _ placed =>
    cases (if_neg positive.ne').symm.trans requested
    cases handed
    obtain ⟨capacity, large, taken⟩ := placed.getElem?_eq
    exact ⟨capacity, liveBlock_encode_iff.mpr (blockAt_moved_target found placed positive taken),
      large⟩
  | written _ _ _ writes => cases writes.requested_eq.symm.trans requested

/-- Where one entry of a map changes, an entry does not shrink if that one does not. -/
theorem le_of_update {before : Nat → Option Nat} {address capacity capacity' : Nat}
    {value : Option Nat} (here : before p = some capacity)
    (there : Function.update before address value p = some capacity')
    (larger : ∀ old new, before address = some old → value = some new → old ≤ new) :
    capacity ≤ capacity' := by
  by_cases same : p = address
  · subst same
    rw [Function.update_self] at there
    exact larger _ _ here there
  · rw [Function.update_of_ne same, here] at there
    exact (Option.some.inj there).le

/-- **A block that stays keeps its capacity, or gets a larger one.** -/
theorem Outcome.retains (outcome : Outcome q layout memory op r) {capacity capacity' : Nat}
    (live : LiveBlock q (layout.encode memory) p capacity)
    (live' : LiveBlock q r.buffer p capacity') : capacity ≤ capacity' := by
  have here := liveBlock_encode_iff.mp live
  cases outcome with
  | failed => exact (live.unique live').le
  | reported => exact (live.unique live').le
  | ended => exact absurd live'.1 nofun
  | placed requests positive _ _ placed =>
    obtain ⟨taken, -, found⟩ := placed.getElem?_eq
    have there := liveBlock_encode_iff.mp live'
    rw [blockAt_placed placed (roundUp_pos positive) found] at there
    refine le_of_update here there fun old new before _ => ?_
    rw [blockAt_placed_none placed (roundUp_pos positive)] at before
    cases before
  | released found =>
    have there := liveBlock_encode_iff.mp live'
    rw [blockAt_release found] at there
    exact le_of_update here there nofun
  | kept => exact (live.unique live').le
  | @grown front old size last _ _ more =>
    have found := getElem?_of_last last
    have there := liveBlock_encode_iff.mp live'
    have map := blockAt_grow (q := q) front (layout.capacity_of_getElem? found).positive more
    rw [← last] at map
    refine le_of_update here ((congrFun map p).symm.trans there) fun old' new before same => ?_
    rw [← start_of_last last, blockAt_start found] at before
    cases before
    cases same
    exact more.le
  | @moved index _ _ found positive _ _ after target placed =>
    obtain ⟨taken, -, found'⟩ := placed.getElem?_eq
    have there := liveBlock_encode_iff.mp live'
    rw [blockAt_moved found placed positive found'] at there
    have different : p ≠ q.base + start layout.blocks index := by
      rintro rfl
      rw [Function.update_self] at there
      cases there
    rw [Function.update_of_ne different] at there
    refine le_of_update here there fun old new before _ => ?_
    rw [blockAt_placed_none placed (roundUp_pos positive)] at before
    cases before
  | written => exact (live.unique live').le

end Step

section Run

variable {s : DynostaticBuffer} {p : Nat}

/-- The same for a step of a run. -/
theorem served_next (formed : WellFormed q s) {action : Action} {size : Nat}
    (request : served q p s action = some size) :
    ∃ capacity, LiveBlock q (next q s action) p capacity ∧
      roundUp q.alignment size ≤ capacity := by
  rcases action with op | ⟨offset, byte⟩
  · change (if (reply q s op).code = .ok ∧ (reply q s op).cell = some p then op.requested
      else none) = some size at request
    split at request
    · rename_i answered
      obtain ⟨ok, handed⟩ := answered
      have other : op ≠ .initializeAllocation .self := by
        rintro rfl
        cases request
      have initialized := initialized_of_ok ok other
      obtain ⟨layout, memory, rfl⟩ := formed.encoded initialized
      exact (reply_outcome layout memory op).serves request ok handed
    · cases request
  · cases request

theorem retained_next (formed : WellFormed q s) {action : Action} {capacity capacity' : Nat}
    (live : LiveBlock q s p capacity) (live' : LiveBlock q (next q s action) p capacity') :
    capacity ≤ capacity' := by
  obtain ⟨layout, memory, rfl⟩ := formed.encoded live.1
  rcases action with op | ⟨offset, byte⟩
  · exact (reply_outcome layout memory op).retains live live'
  · -- a store changes no record
    have same : LiveBlock q (layout.encode memory) p capacity' := live'
    exact (live.unique same).le

/-- **A run keeps the capacity of a block that stays**, and leaves it large enough for every size
served on the way. -/
theorem retained_run (actions : List Action) {capacity : Nat} (formed : WellFormed q s)
    (live : LiveBlock q s p capacity) (stays : Obeys (next q) (Stays q p) s actions) :
    ∃ capacity', LiveBlock q (run (next q) s actions) p capacity' ∧ capacity ≤ capacity' ∧
      ∀ size, some size ∈ trace (next q) (served q p) s actions →
        roundUp q.alignment size ≤ capacity' := by
  induction actions generalizing s capacity with
  | nil => exact ⟨capacity, live, le_rfl, nofun⟩
  | cons action actions ih =>
    obtain ⟨⟨middle, here⟩, later⟩ := stays
    obtain ⟨capacity', last, larger, fits⟩ := ih (formed.next action) here later
    refine ⟨capacity', last, (retained_next formed live here).trans larger, fun size member => ?_⟩
    rcases List.mem_cons.mp member with now | after
    · obtain ⟨given, block, fit⟩ := served_next formed now.symm
      -- the block that was served is the one that stays
      obtain ⟨layout, memory, same⟩ := (formed.next action).encoded here.1
      rw [same] at here block
      rw [block.unique here] at fit
      exact fit.trans larger
    · exact fits size after

/-- **Capacity retention.** After a call delivers a block at `p`, and as long as the block stays
there, its capacity is at most `DS_MAX_ALLOCATION_SIZE`, is at least what it ever was, and is at
least every size served at `p`, rounded up. So a `ds_realloc` to any size from `1` up that rounds up
to no more than one of those sizes succeeds, keeps the pointer and changes nothing. -/
theorem capacity_retention (reachable : Reachable q s) {op : Op} {first : Nat}
    (delivered : served q p s (.call op) = some first) (actions : List Action)
    (stays : Obeys (next q) (Stays q p) (next q s (.call op)) actions) {t : DynostaticBuffer}
    (reached : run (next q) s (.call op :: actions) = t) :
    ∃ capacity, LiveBlock q t p capacity ∧ capacity ≤ q.maxAllocationSize ∧
      (∀ before after, actions = before ++ after → ∀ earlier,
        LiveBlock q (run (next q) s (.call op :: before)) p earlier → earlier ≤ capacity) ∧
      (∀ size, some size ∈ trace (next q) (served q p) s (.call op :: actions) →
        roundUp q.alignment size ≤ capacity) ∧
      ∀ n size, 1 ≤ n → some size ∈ trace (next q) (served q p) s (.call op :: actions) →
        roundUp q.alignment n ≤ roundUp q.alignment size →
        reply q t (.realloc .self (some p) n) = ⟨.ok, t, some p⟩ := by
  subst reached
  have formed := reachable.wellFormed
  obtain ⟨given, block, fit⟩ := served_next formed delivered
  have started : Obeys (next q) (Stays q p) s (.call op :: actions) := ⟨⟨given, block⟩, stays⟩
  obtain ⟨capacity, last, larger, fits⟩ :=
    retained_run actions (formed.next (.call op)) block stays
  have all : ∀ size, some size ∈ trace (next q) (served q p) s (.call op :: actions) →
      roundUp q.alignment size ≤ capacity := by
    intro size member
    rcases List.mem_cons.mp member with now | after
    · cases delivered.symm.trans now.symm
      exact fit.trans larger
    · exact fits size after
  obtain ⟨layout, memory, same⟩ :=
    (reachable.run (.call op :: actions)).of_initialized last.1
  change LiveBlock q (run (next q) s (.call op :: actions)) p capacity at last
  rw [same] at last ⊢
  obtain ⟨index, found, rfl⟩ := last.index
  have bounded := (layout.capacity_of_getElem? found).bounded
  refine ⟨capacity, last, bounded, fun before after split earlier live => ?_, all,
    fun n size positive member rounds => ?_⟩
  · subst split
    -- from the earlier moment on the block stays too
    have rest : Obeys (next q) (Stays q _) (run (next q) s (.call op :: before)) after :=
      (obeys_append before after).mp stays |>.2
    obtain ⟨later, kept, more, -⟩ :=
      retained_run after (reachable.run (.call op :: before)).wellFormed live rest
    rw [← run_append, List.cons_append, same] at kept
    rwa [kept.unique last] at more
  · have enough := rounds.trans (all size member)
    have small : n ≤ q.maxAllocationSize :=
      ((le_roundUp q.alignment_pos n).trans enough).trans bounded
    exact realloc_keeps found positive small enough

end Run

/-- A request for `10` bytes leaves room for `12`, also after a second request. -/
theorem capacity_retention_twoLive :
    reply defaultPlacement twoLive (.realloc .self (some 4096) 12) =
      ⟨.ok, twoLive, some 4096⟩ := by
  have delivered : served defaultPlacement 4096 (freshInstance defaultPlacement zeroBuffer)
      (.call (.malloc .self (some 0) 10)) = some 10 := by
    decide
  have live : LiveBlock defaultPlacement twoLive 4096 12 := ⟨rfl, 0, by decide, rfl, rfl, rfl⟩
  obtain ⟨-, -, -, -, -, kept⟩ :=
    capacity_retention (Reachable.freshInstance zeroBuffer_fresh) delivered
      [.call (.malloc .self (some 0) 10)] ⟨⟨12, live⟩, trivial⟩ (t := twoLive) rfl
  exact kept 12 10 (by decide) (List.mem_cons.mpr (.inl delivered.symm)) (by decide)

/-- **A `ds_realloc` to the size `0` does not keep the block**, though `0` rounds up to no more than
the size served. -/
theorem capacity_retention_zero :
    Reachable defaultPlacement twoLive ∧
      served defaultPlacement 4096 (freshInstance defaultPlacement zeroBuffer)
        (.call (.malloc .self (some 0) 10)) = some 10 ∧
      LiveBlock defaultPlacement twoLive 4096 12 ∧
      roundUp defaultPlacement.alignment 0 ≤ roundUp defaultPlacement.alignment 10 ∧
      (reply defaultPlacement twoLive (.realloc .self (some 4096) 0)).cell = some 0 ∧
      ((reply defaultPlacement twoLive (.realloc .self (some 4096) 0)).buffer.allocators
        0).allocationStatus = .free := by
  refine ⟨twoLive_reachable, by decide, ⟨rfl, 0, by decide, rfl, rfl, rfl⟩, by decide, ?_, ?_⟩
  · decide
  · decide

end Dynostatic
