/-
**How much of a tiling is parked.**

Bounds on the size of a tiling from bounds on its blocks, and from what is live of it. Parked blocks
below a live one are the whole of what a tiling wastes: their number is bounded by the records and
their sizes by the request that does not fit them.
-/

import Dynostatic.Lib.Tiling
import Mathlib.Algebra.Group.Action.Defs
import Mathlib.Algebra.Order.BigOperators.Group.List
import Mathlib.Algebra.Order.Ring.Nat

namespace Tiling

theorem extent_le_mul {blocks : List Block} {bound : Nat}
    (small : ∀ block ∈ blocks, block.size ≤ bound) : extent blocks ≤ blocks.length * bound := by
  have total := List.sum_le_card_nsmul (blocks.map Block.size) bound (List.forall_mem_map.mpr small)
  rwa [List.length_map, smul_eq_mul] at total

theorem mul_le_extent {blocks : List Block} {bound : Nat}
    (large : ∀ block ∈ blocks, bound ≤ block.size) : blocks.length * bound ≤ extent blocks := by
  have total := List.card_nsmul_le_sum (blocks.map Block.size) bound (List.forall_mem_map.mpr large)
  rwa [List.length_map, smul_eq_mul] at total

theorem extent_replicate (count : Nat) (block : Block) :
    extent (List.replicate count block) = count * block.size := by
  rw [extent, List.map_replicate, List.sum_replicate, smul_eq_mul]

/-- What parked blocks of bounded size add to the live ones. -/
theorem extent_le_of_parked {blocks : List Block} {bound : Nat}
    (small : ∀ block ∈ blocks, block.live = false → block.size ≤ bound) :
    extent blocks ≤ liveExtent blocks + (blocks.length - liveCount blocks) * bound := by
  induction blocks with
  | nil => exact Nat.zero_le _
  | cons block blocks ih =>
    have rest := ih fun other member => small other (List.mem_cons_of_mem _ member)
    have fewer := liveCount_le_length blocks
    have first := small block List.mem_cons_self
    obtain ⟨size, _ | _⟩ := block
    · have counted : liveCount (⟨size, false⟩ :: blocks) = liveCount blocks :=
        List.countP_cons_of_neg nofun
      rw [extent_cons, liveExtent_cons, counted, List.length_cons,
        Nat.succ_sub fewer, Nat.succ_mul]
      have bounded : size ≤ bound := first rfl
      simp only [Bool.false_eq_true, if_false]
      omega
    · have counted : liveCount (⟨size, true⟩ :: blocks) = liveCount blocks + 1 :=
        List.countP_cons_of_pos rfl
      rw [extent_cons, liveExtent_cons, counted, List.length_cons, Nat.add_sub_add_right]
      simp only [if_true]
      omega

/-- A tight tiling is not all parked. -/
theorem length_sub_liveCount_le {blocks : List Block} (tight : Tight blocks) {count : Nat}
    (bounded : blocks.length < count) : blocks.length - liveCount blocks ≤ count - 2 := by
  rcases length : blocks.length with _ | index
  · exact (Nat.zero_sub _).trans_le (Nat.zero_le _)
  · obtain ⟨last, found⟩ := exists_getElem? ((Nat.lt_succ_self index).trans_eq length.symm)
    have some := liveCount_pos found (tight_iff.mp tight index last found length.symm)
    omega

/-- Parked blocks below one live block. -/
theorem liveExtent_fragmented {count parked live : Nat} (positive : 0 < count → 0 < parked) :
    liveExtent (List.replicate count ⟨parked, false⟩ ++ [⟨live, true⟩]) = live := by
  have sizes : ∀ block ∈ List.replicate count (⟨parked, false⟩ : Block), 0 < block.size := by
    intro block member
    obtain ⟨some, rfl⟩ := List.mem_replicate.mp member
    exact positive (Nat.pos_of_ne_zero some)
  have none : liveExtent (List.replicate count ⟨parked, false⟩) = 0 :=
    (liveExtent_eq_zero_iff sizes).mpr fun _ member =>
      congrArg Block.live (List.eq_of_mem_replicate member)
  rw [liveExtent_append, none, Nat.zero_add, liveExtent_cons]
  rfl

end Tiling
