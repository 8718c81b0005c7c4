/-
**`ds_free` is a mark and a strip.**

`ds_free` parks a block or rolls `data_head` back, and the rollback goes down record by record.
`markAndStrip` does neither: it marks the record free wherever it is, and then takes the free
records away that the touched ones end with. It is stated on the fields of the structure, and says
what remains by counting (`touchedCount`, `keptCount`). `free_eq_markAndStrip` is the equality of
the two.

The `while` loop of the rollback is a recursion in the model. `Rollback.pass` is one pass of the
loop on its own variables, and `rollback_ends` says that the passes end, and where the recursion
does.
-/

import Mathlib.Logic.Function.Iterate
import Dynostatic.Outcome

namespace Dynostatic

open Tracing Tracing.Traced Tiling Runs

/-! ### The reference -/

section Reference

variable (c : Config) (s : DynostaticBuffer)

/-- The number of records before the first unused one. -/
def touchedCount : Nat :=
  (List.range c.maxAllocationCount).findIdx fun index =>
    (s.allocators index).allocationStatus = .notUsed

/-- The number of records that are left of the first `count` without the free ones they end with. -/
def keptCount : (count : Nat) → Nat
  | 0 => 0
  | count + 1 =>
    if (s.allocators count).allocationStatus = .free then keptCount count else count + 1

/-- The instance with one record marked free. -/
def markFree (index : Nat) : DynostaticBuffer :=
  { s with
    allocators := Function.update s.allocators index
      { s.allocators index with allocationStatus := .free } }

/-- The number of records that are left by the release of the block at an index. -/
def leftBy (index : Nat) : Nat :=
  keptCount (markFree s index) (touchedCount c s)

/-- **What a release does**: the record is marked free, and the free records that the touched ones
end with are reset. -/
def markAndStrip (index : Nat) : DynostaticBuffer where
  initMagic := s.initMagic
  dataHead :=
    if leftBy c s index = 0 then 0
    else (s.allocators (leftBy c s index - 1)).head + (s.allocators (leftBy c s index - 1)).size
  usedAllocators := s.usedAllocators - 1
  memory := s.memory
  allocators := fun other =>
    if leftBy c s index ≤ other ∧ other < touchedCount c s then ⟨0, 0, .notUsed⟩
    else (markFree s index).allocators other

end Reference

section Counts

variable {s : DynostaticBuffer}

theorem keptCount_le (count : Nat) : keptCount s count ≤ count := by
  induction count with
  | zero => exact le_rfl
  | succ count ih =>
    rw [keptCount]
    split
    · exact ih.trans (Nat.le_succ count)
    · exact le_rfl

/-- Every record beyond the kept ones is free. -/
theorem free_of_keptCount_le {count other : Nat} (past : keptCount s count ≤ other)
    (inside : other < count) : (s.allocators other).allocationStatus = .free := by
  induction count with
  | zero => exact absurd inside (Nat.not_lt_zero other)
  | succ count ih =>
    rw [keptCount] at past
    split at past
    · rename_i free
      rcases Nat.lt_succ_iff_lt_or_eq.mp inside with below | rfl
      · exact ih past below
      · exact free
    · omega

/-- The last one kept is not, so no longer run is free. -/
theorem not_free_of_keptCount {count last : Nat} (kept : keptCount s count = last + 1) :
    (s.allocators last).allocationStatus ≠ .free := by
  induction count with
  | zero => cases kept
  | succ count ih =>
    rw [keptCount] at kept
    split at kept
    · exact ih kept
    · cases kept
      assumption

end Counts

section Shape

variable {c : Config} {s : DynostaticBuffer} {index other : Nat}

theorem touched_of_lt (below : other < touchedCount c s) :
    (s.allocators other).allocationStatus ≠ .notUsed := by
  have seen := List.not_of_lt_findIdx below
  rw [List.getElem_range] at seen
  exact of_decide_eq_false seen

theorem markFree_of_ne (different : other ≠ index) :
    (markFree s index).allocators other = s.allocators other :=
  Function.update_of_ne different _ _

theorem markFree_self :
    (markFree s index).allocators index = { s.allocators index with allocationStatus := .free } :=
  Function.update_self _ _ _

/-- The last record left is live. -/
theorem markAndStrip_last (left : leftBy c s index = other + 1) :
    ((markAndStrip c s index).allocators other).allocationStatus = .allocated := by
  have below : other < touchedCount c s := by
    have bound : leftBy c s index ≤ touchedCount c s := keptCount_le _
    omega
  have taken : ((markFree s index).allocators other).allocationStatus ≠ .free :=
    not_free_of_keptCount left
  have kept : (markAndStrip c s index).allocators other = (markFree s index).allocators other :=
    if_neg fun reset => by omega
  have different : other ≠ index := by
    rintro rfl
    rw [markFree_self] at taken
    exact taken rfl
  have used := touched_of_lt below
  rw [kept]
  rw [markFree_of_ne different] at taken ⊢
  cases status : (s.allocators other).allocationStatus with
  | notUsed => exact absurd status used
  | free => exact absurd status taken
  | allocated => rfl

/-- A record that is reset was free, or is the one marked. -/
theorem markAndStrip_reset (past : leftBy c s index ≤ other) (below : other < touchedCount c s) :
    other = index ∨ (s.allocators other).allocationStatus = .free := by
  by_cases same : other = index
  · exact .inl same
  · have free := free_of_keptCount_le past below
    rw [markFree_of_ne same] at free
    exact .inr free

/-- Any other record is as it was. -/
theorem markAndStrip_other (different : other ≠ index)
    (outside : ¬ (leftBy c s index ≤ other ∧ other < touchedCount c s)) :
    (markAndStrip c s index).allocators other = s.allocators other :=
  (if_neg outside).trans (markFree_of_ne different)

end Shape

/-! ### On a layout -/

section Layout

variable {c : Config} (layout : Layout c) (memory : Nat → UInt8)

theorem touchedCount_encode : touchedCount c (layout.encode memory) = layout.blocks.length := by
  have touched : ∀ index, decide (((layout.encode memory).allocators index).allocationStatus =
      .notUsed) = decide (layout.blocks.length ≤ index) := fun index =>
    decide_eq_decide.mpr records_notUsed_iff
  unfold touchedCount
  simp only [touched]
  rcases layout.length_le.lt_or_eq with fewer | full
  · rw [List.findIdx_eq (by rwa [List.length_range])]
    simp only [List.getElem_range, decide_eq_true_eq, decide_eq_false_iff_not]
    exact ⟨le_rfl, fun _ below => Nat.not_le_of_lt below⟩
  · rw [full, List.findIdx_eq_length.mpr, List.length_range]
    intro index member
    exact decide_eq_false (Nat.not_le_of_lt (List.mem_range.mp member))

/-- The records kept are the blocks that a strip keeps. -/
theorem keptCount_eq {s : DynostaticBuffer} {blocks : List Block}
    (table : s.allocators = records blocks) {count : Nat} (inside : count ≤ blocks.length) :
    keptCount s count = (strip (blocks.take count)).length := by
  induction count with
  | zero => rfl
  | succ count ih =>
    obtain ⟨⟨size, live⟩, found⟩ := exists_getElem? (Nat.lt_of_succ_le inside)
    have status : (s.allocators count).allocationStatus = if live then .allocated else .free := by
      rw [table, records_of_getElem? found]
      rfl
    rw [keptCount, status, List.take_add_one, found, Option.toList_some, strip_concat]
    cases live
    · exact ih (Nat.le_of_succ_le inside)
    · show count + 1 = (blocks.take count ++ [(⟨size, true⟩ : Block)]).length
      rw [List.length_append, List.length_take_of_le (Nat.le_of_succ_le inside)]
      rfl

/-- A strip resets the records past the ones it keeps. -/
theorem records_strip (blocks : List Block) (index : Nat) :
    records (strip blocks) index =
      if (strip blocks).length ≤ index ∧ index < blocks.length then ⟨0, 0, .notUsed⟩
      else records blocks index := by
  rcases Nat.lt_or_ge index (strip blocks).length with inside | past
  · obtain ⟨block, found⟩ := exists_getElem? inside
    rw [if_neg (by omega), records_of_getElem? found,
      records_of_getElem? (getElem?_of_strip found), start_strip inside.le]
  · rw [records_of_length_le past]
    split
    · rfl
    · exact (records_of_length_le (by omega)).symm

/-- Where the last of the first records ends. -/
theorem records_end {blocks : List Block} {count : Nat} (inside : count ≤ blocks.length) :
    (if count = 0 then 0
      else (records blocks (count - 1)).head + (records blocks (count - 1)).size) =
      start blocks count := by
  cases count with
  | zero => rfl
  | succ count =>
    obtain ⟨block, found⟩ := exists_getElem? (Nat.lt_of_succ_le inside)
    rw [if_neg (Nat.succ_ne_zero count), Nat.add_sub_cancel, records_of_getElem? found]
    exact (start_succ found).symm

section Release

variable {index size : Nat} (found : layout.blocks[index]? = some ⟨size, true⟩)

include found

/-- The table with the mark. -/
theorem markFree_encode :
    (markFree (layout.encode memory) index).allocators =
      records (mark layout.blocks index false) := by
  rw [records_mark false found]
  show Function.update _ index _ = _
  rw [layout.encode_live memory found]
  rfl

theorem leftBy_encode :
    leftBy c (layout.encode memory) index = (layout.release index).blocks.length := by
  have length := length_mark layout.blocks index false
  unfold leftBy
  rw [touchedCount_encode, keptCount_eq (markFree_encode layout memory found) length.ge,
    ← length, List.take_length]
  rfl

/-- **Mark and strip is the release of the layout.** -/
theorem markAndStrip_encode :
    markAndStrip c (layout.encode memory) index = (layout.release index).encode memory := by
  have ends : start layout.blocks (release layout.blocks index).length =
      extent (release layout.blocks index) := by
    rw [← start_release le_rfl, start_length]
  have counted : liveCount layout.blocks - 1 = liveCount (release layout.blocks index) := by
    rw [← liveCount_release found rfl, Nat.add_sub_cancel]
  have table : ∀ other, records (release layout.blocks index) other =
      if (release layout.blocks index).length ≤ other ∧ other < layout.blocks.length then
        ⟨0, 0, .notUsed⟩
      else (markFree (layout.encode memory) index).allocators other := by
    intro other
    rw [markFree_encode layout memory found, ← length_mark layout.blocks index false]
    exact records_strip _ other
  unfold markAndStrip
  rw [leftBy_encode layout memory found, touchedCount_encode]
  show DynostaticBuffer.mk _ (if (release layout.blocks index).length = 0 then 0 else _)
    (liveCount layout.blocks - 1) _ _ = DynostaticBuffer.mk _ _ _ _ _
  congr 1
  · exact (records_end (length_release_le _ _)).trans ends
  · funext other
    exact (table other).symm

end Release

end Layout

/-! ### The loop -/

/-- The variables of the loop of `ds_reclaim_trailing`. -/
structure Rollback where
  idx : Nat
  cascade : Bool
  buffer : DynostaticBuffer

/-- One pass of the loop. -/
def Rollback.pass (loop : Rollback) : Rollback :=
  let rolled := (reclaimRecord loop.buffer loop.idx).value
  if loop.idx = 0 ∨ (rolled.allocators (loop.idx - 1)).allocationStatus ≠ .free then
    { loop with cascade := false, buffer := rolled }
  else
    { loop with idx := loop.idx - 1, buffer := rolled }

theorem value_dsReclaimTrailing (s : DynostaticBuffer) (index : Nat) :
    (dsReclaimTrailing s (index + 1)).value =
      if ((reclaimRecord s (index + 1)).value.allocators index).allocationStatus ≠ .free then
        (reclaimRecord s (index + 1)).value
      else (dsReclaimTrailing (reclaimRecord s (index + 1)).value index).value := by
  rw [dsReclaimTrailing, value_bind, value_bind, value_bind, value_ite]
  rfl

section Rollback

variable {s : DynostaticBuffer} {index : Nat}

/-- A pass that finds a free record below goes on with it. -/
theorem Rollback.pass_next
    (free : ((reclaimRecord s (index + 1)).value.allocators index).allocationStatus = .free) :
    Rollback.pass ⟨index + 1, true, s⟩ = ⟨index, true, (reclaimRecord s (index + 1)).value⟩ :=
  if_neg (not_or.mpr ⟨Nat.succ_ne_zero index, not_not.mpr free⟩)

/-- A pass that finds another record below is the last. -/
theorem Rollback.pass_last
    (other : ((reclaimRecord s (index + 1)).value.allocators index).allocationStatus ≠ .free) :
    Rollback.pass ⟨index + 1, true, s⟩ = ⟨index + 1, false, (reclaimRecord s (index + 1)).value⟩ :=
  if_pos (.inr other)

/-- A loop that is entered goes on for one pass more than it does after the first. -/
theorem Rollback.cascade_iterate {loop : Rollback} {passes : Nat} (entered : loop.cascade)
    (during : ∀ fewer < passes, (Rollback.pass^[fewer] loop.pass).cascade) :
    ∀ fewer < passes + 1, (Rollback.pass^[fewer] loop).cascade := by
  intro fewer below
  cases fewer with
  | zero => exact entered
  | succ fewer =>
    rw [Function.iterate_succ_apply]
    exact during fewer (Nat.lt_of_succ_lt_succ below)

end Rollback

/-- **The loop ends**, as its index goes down with every pass but the last. -/
theorem rollback_ends (s : DynostaticBuffer) (index : Nat) :
    ∃ passes ≤ index + 1, (∀ fewer < passes, (Rollback.pass^[fewer] ⟨index, true, s⟩).cascade) ∧
      ¬ (Rollback.pass^[passes] ⟨index, true, s⟩).cascade ∧
      (Rollback.pass^[passes] ⟨index, true, s⟩).buffer = (dsReclaimTrailing s index).value := by
  induction index generalizing s with
  | zero => exact ⟨1, le_rfl, Rollback.cascade_iterate rfl nofun, Bool.false_ne_true, rfl⟩
  | succ index ih =>
    rw [value_dsReclaimTrailing]
    by_cases free : ((reclaimRecord s (index + 1)).value.allocators index).allocationStatus = .free
    · have taken := Rollback.pass_next free
      obtain ⟨passes, few, during, ended, reached⟩ := ih (reclaimRecord s (index + 1)).value
      rw [if_neg (not_not.mpr free), ← reached]
      refine ⟨passes + 1, Nat.succ_le_succ few, Rollback.cascade_iterate rfl ?_, ?_, ?_⟩
      · rwa [taken]
      · rwa [Function.iterate_succ_apply, taken]
      · rw [Function.iterate_succ_apply, taken]
    · have taken := Rollback.pass_last free
      rw [if_pos free]
      refine ⟨1, Nat.succ_le_succ (Nat.zero_le _), Rollback.cascade_iterate rfl nofun, ?_, ?_⟩
      · rw [Function.iterate_one, taken]
        exact Bool.false_ne_true
      · rw [Function.iterate_one, taken]

variable {q : Placement}

/-- **`ds_free` equals mark and strip.** In a reachable initialized instance, for the record of a
live block: `ds_free` of the block succeeds and leaves the reference result, with the block's bytes
zeroed where the build says so. The last record left, if any, is live. Every record besides the
block's own is as it was, or is one of the run that is reset. The loop that does it ends from any
instance, after at most one pass for each record up to the block's. -/
theorem free_eq_markAndStrip {s : DynostaticBuffer} (reachable : Reachable q s)
    (initialized : s.initMagic = dsMagicNumber) (index : Nat)
    (live : (s.allocators index).allocationStatus = .allocated) :
    reply q s (.free .self (some (q.base + (s.allocators index).head))) =
      ⟨.ok, { markAndStrip q.toConfig s index with
        memory := scrub q.toConfig s.memory (s.allocators index).head (s.allocators index).size },
        some 0⟩ ∧
    (∀ last, leftBy q.toConfig s index = last + 1 →
      ((markAndStrip q.toConfig s index).allocators last).allocationStatus = .allocated) ∧
    (∀ other, leftBy q.toConfig s index ≤ other → other < touchedCount q.toConfig s →
      other = index ∨ (s.allocators other).allocationStatus = .free) ∧
    (∀ other, other ≠ index →
      ¬ (leftBy q.toConfig s index ≤ other ∧ other < touchedCount q.toConfig s) →
      (markAndStrip q.toConfig s index).allocators other = s.allocators other) ∧
    ∀ t, ∃ passes ≤ index + 1,
      (∀ fewer < passes, (Rollback.pass^[fewer] ⟨index, true, t⟩).cascade) ∧
      ¬ (Rollback.pass^[passes] ⟨index, true, t⟩).cascade ∧
      (Rollback.pass^[passes] ⟨index, true, t⟩).buffer = (dsReclaimTrailing t index).value := by
  obtain ⟨layout, memory, rfl⟩ := reachable.of_initialized initialized
  obtain ⟨size, found⟩ := records_allocated_iff.mp live
  refine ⟨?_, fun _ => markAndStrip_last, fun _ => markAndStrip_reset, fun _ => markAndStrip_other,
    fun t => rollback_ends t index⟩
  rw [layout.encode_live memory found, markAndStrip_encode layout memory found]
  exact (yields_dsFree_live layout memory found).value

/-- The second of two blocks, released after the first, takes the first record with it. -/
theorem free_eq_markAndStrip_cascade :
    (reply defaultPlacement (run (next defaultPlacement) twoLive [.call (.free .self (some 4096))])
      (.free .self (some 4108))).buffer.dataHead = 0 :=
  congrArg (fun r => r.buffer.dataHead)
    (free_eq_markAndStrip (twoLive_reachable.run [.call (.free .self (some 4096))]) rfl 1
      rfl).1

end Dynostatic
