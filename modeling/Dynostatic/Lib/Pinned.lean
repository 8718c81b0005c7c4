/-
**Tilings pinned to an earlier one.**

A tiling `Pins` a base when it has every block of the base at its index and of its size, and those
live in the base are live. Parked blocks of the base may have been taken, and more blocks may lie
above. Taking a block keeps this, and so do releasing and resizing a block that is not live in the
base (`Pins.placed`, `Pins.release`, `Pins.resize`).

* `Pins.eq_of_live` — when nothing is live but what is live in the base, the tiling is the base.

Both tilings have to be tight: the last live block of the base is what holds the blocks below it.
-/

import Dynostatic.Lib.Tiling

namespace Tiling

/-- Every block of the base is there, and live if it is live in the base. -/
def Pins (base blocks : List Block) : Prop :=
  ∀ (index : Nat) (block : Block), base[index]? = some block →
    ∃ other : Block, blocks[index]? = some other ∧ other.size = block.size ∧
      (block.live = true → other.live = true)

namespace Pins

variable {base blocks after : List Block}

theorem refl (base : List Block) : Pins base base :=
  fun _ block found => ⟨block, found, rfl, id⟩

theorem length_le (pins : Pins base blocks) : base.length ≤ blocks.length := by
  by_contra shorter
  obtain ⟨block, found⟩ := exists_getElem? (Nat.lt_of_not_le shorter)
  obtain ⟨other, found', -, -⟩ := pins _ block found
  exact absurd (lt_length_of_getElem? found') (Nat.lt_irrefl _)

/-- The blocks of the base have not moved. -/
theorem start_eq (pins : Pins base blocks) {index : Nat} (inside : index ≤ base.length) :
    start blocks index = start base index := by
  induction index with
  | zero => rfl
  | succ index ih =>
    obtain ⟨block, found⟩ := exists_getElem? (Nat.lt_of_succ_le inside)
    obtain ⟨other, found', same, -⟩ := pins index block found
    rw [start_succ found, start_succ found', ih (Nat.le_of_succ_le inside), same]

theorem live (pins : Pins base blocks) {index size : Nat}
    (found : base[index]? = some ⟨size, true⟩) : blocks[index]? = some ⟨size, true⟩ := by
  obtain ⟨⟨size', flag⟩, found', same, kept⟩ := pins index _ found
  obtain rfl : size' = size := same
  obtain rfl : flag = true := kept rfl
  exact found'

/-- Taking a block changes no size, and parks nothing. -/
theorem placed {size index : Nat} (pins : Pins base blocks)
    (placed : Placed blocks size after index) : Pins base after := by
  intro other block found
  obtain ⟨there, found', same, kept⟩ := pins other block found
  by_cases here : index = other
  · subst here
    cases placed with
    | revived parked =>
      exact ⟨_, getElem?_mark_self found' true, same, fun _ => rfl⟩
    | pushed => exact absurd (lt_length_of_getElem? found') (Nat.lt_irrefl _)
  · exact ⟨there, (placed.getElem?_of_ne here).trans found', same, kept⟩

/-- The last live block of the base holds the blocks below it. -/
theorem strip (tight : Tight base) (pins : Pins base blocks) : Pins base (strip blocks) := by
  intro index block found
  obtain ⟨other, found', same, kept⟩ := pins index block found
  have inside := lt_length_of_getElem? found
  obtain ⟨last, top⟩ := exists_getElem? (Nat.sub_one_lt (Nat.ne_zero_of_lt inside))
  have live := tight_iff.mp tight _ last top (by omega)
  obtain ⟨last', top', -, kept'⟩ := pins _ last top
  have long := lt_length_of_getElem? (getElem?_strip_of_live top' (kept' live))
  obtain ⟨tail, split, -⟩ := exists_strip blocks
  rw [split, List.getElem?_append_left (by omega)] at found'
  exact ⟨other, found', same, kept⟩

/-- Releasing a block that is not live in the base. -/
theorem release (tight : Tight base) (pins : Pins base blocks) {index : Nat}
    (spared : ∀ block, base[index]? = some block → block.live = false) :
    Pins base (release blocks index) := by
  refine strip tight fun other block found => ?_
  obtain ⟨there, found', same, kept⟩ := pins other block found
  by_cases here : index = other
  · subst here
    refine ⟨_, getElem?_mark_self found' false, same, fun live => ?_⟩
    rw [spared block found] at live
    cases live
  · exact ⟨there, (getElem?_mark_of_ne _ _ here).trans found', same, kept⟩

/-- Resizing the last block, where it is not live in the base. -/
theorem resize (tight : Tight base) {front : List Block} {old size : Nat}
    (pins : Pins base (front ++ [⟨old, true⟩]))
    (spared : ∀ block, base[front.length]? = some block → block.live = false) :
    Pins base (front ++ [⟨size, true⟩]) := by
  have bound := pins.length_le
  simp only [List.length_append, List.length_singleton] at bound
  intro index block found
  have inside := lt_length_of_getElem? found
  rcases Nat.lt_or_ge index front.length with below | top
  · obtain ⟨other, found', same, kept⟩ := pins index block found
    rw [List.getElem?_append_left below] at found'
    exact ⟨other, (List.getElem?_append_left below).trans found', same, kept⟩
  · -- the last block of the base would be the one resized
    obtain rfl : index = front.length := by omega
    have live := tight_iff.mp tight _ block found (by omega)
    rw [spared block found] at live
    cases live

/-- A live block of the tiling that starts where one of the base does is that block. -/
theorem live_of_liveAt (pins : Pins base blocks) {index size size' : Nat}
    (found : blocks[index]? = some ⟨size, true⟩) (positive : 0 < size)
    (live : liveAt base (start blocks index) = some size') :
    base[index]? = some ⟨size', true⟩ := by
  obtain ⟨other, found', positive', same⟩ := liveAt_eq_some_iff.mp live
  rw [← pins.start_eq (lt_length_of_getElem? found').le] at same
  obtain rfl := start_injective found (pins.live found') positive positive' same
  exact found'

/-- **When nothing is live but what is live in the base, the tiling is the base.** -/
theorem eq_of_live (pins : Pins base blocks) (tight : Tight blocks)
    (positive : ∀ block ∈ blocks, 0 < block.size)
    (same : ∀ offset size, liveAt blocks offset = some size →
      ∃ size', liveAt base offset = some size') :
    blocks = base := by
  have back : ∀ index size : Nat, blocks[index]? = some ⟨size, true⟩ →
      ∃ size', base[index]? = some ⟨size', true⟩ := by
    intro index size found
    have large := positive _ (List.mem_of_getElem? found)
    obtain ⟨size', live⟩ := same _ _ (liveAt_of_getElem? found large)
    exact ⟨size', pins.live_of_liveAt found large live⟩
  have length : blocks.length = base.length := by
    refine Nat.le_antisymm ?_ pins.length_le
    by_contra longer
    obtain ⟨last, top⟩ : ∃ last, blocks[blocks.length - 1]? = some last :=
      exists_getElem? (by omega)
    have live := tight_iff.mp tight _ last top (by omega)
    obtain ⟨size', found⟩ := back _ last.size (by rw [top, ← live])
    have := lt_length_of_getElem? found
    omega
  refine List.ext_getElem? fun index => ?_
  rcases found : base[index]? with _ | ⟨size, flag⟩
  · rw [List.getElem?_eq_none_iff] at found ⊢
    omega
  · obtain ⟨⟨size', flag'⟩, found', same', kept⟩ := pins index _ found
    obtain rfl : size' = size := same'
    rw [found']
    cases flag' with
    | false =>
      cases flag with
      | false => rfl
      | true => exact absurd (kept rfl) Bool.false_ne_true
    | true =>
      obtain ⟨size'', found''⟩ := back index size' found'
      rw [found] at found''
      cases found''
      rfl

end Pins

end Tiling
