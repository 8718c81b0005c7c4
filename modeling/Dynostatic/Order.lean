/-
**Freeing in any order.**

Two calls of `ds_free` can be made in either order (`freed_comm`): a block that is parked in one
history and rolled back in the other ends in the same record. So any set of live blocks can be freed
in any order, every call succeeds, and the instance that is left is the same, to the last byte of
the arena (`freeing_order_independent`).
-/

import Dynostatic.Outcome

namespace Dynostatic

open Tracing Tracing.Traced Tiling Rounding Bytes Runs

variable {q : Placement}

/-- The instance after a `ds_free` that succeeds. -/
def freed (q : Placement) (s : DynostaticBuffer) (p : Nat) : Option DynostaticBuffer :=
  let r := reply q s (.free .self (some p))
  if r.code = .ok then some r.buffer else none

/-- The instance after a `ds_free` of each pointer in turn, if they all succeed. -/
def freeAll (q : Placement) (s : DynostaticBuffer) (ps : List Nat) : Option DynostaticBuffer :=
  attempt (freed q) s ps

section Layout

variable (layout : Layout q.toConfig) (memory : Nat → UInt8)

theorem freed_live {index size : Nat} (found : layout.blocks[index]? = some ⟨size, true⟩) :
    freed q (layout.encode memory) (q.base + start layout.blocks index) =
      some ((layout.release index).encode
        (scrub q.toConfig memory (start layout.blocks index) size)) := by
  rw [freed, show reply q (layout.encode memory)
    (.free .self (some (q.base + start layout.blocks index))) = _ from
      (yields_dsFree_live layout memory found).value]
  rfl

theorem freed_dead {p : Nat} (dead : blockAt q layout.blocks p = none) :
    freed q (layout.encode memory) p = none := by
  refine if_neg fun ok => ?_
  obtain ⟨index, size, found, rfl, -⟩ :=
    (reply_outcome layout memory (.free .self (some p))).of_releases (.free p) ok
  rw [blockAt_start found] at dead
  cases dead

/-- A pointer to no live block is rejected after another `ds_free` as well. -/
theorem freed_bind_dead {p : Nat} (dead : blockAt q layout.blocks p = none) (other : Nat) :
    (freed q (layout.encode memory) other).bind (freed q · p) = none := by
  rcases live : blockAt q layout.blocks other with _ | size
  · rw [freed_dead layout memory live, Option.bind_none]
  · obtain ⟨index, found, rfl⟩ := exists_index_of_blockAt live
    have different : p ≠ q.base + start layout.blocks index := by
      rintro rfl
      rw [live] at dead
      cases dead
    rw [freed_live layout memory found, Option.bind_some]
    refine freed_dead _ _ ?_
    rw [blockAt_release found, Function.update_of_ne different, dead]

theorem scrub_comm (c : Config) (memory : Nat → UInt8) (low count low' count' : Nat) :
    scrub c (scrub c memory low count) low' count' =
      scrub c (scrub c memory low' count') low count := by
  by_cases zeroing : c.zeroOnFree = true
  · simp only [scrub, if_pos zeroing]
    exact fill_comm memory low count low' count' 0
  · simp only [scrub, if_neg zeroing]

/-- Two live blocks, the second freed after the first. -/
theorem freed_bind_live {index index' size size' : Nat}
    (found : layout.blocks[index]? = some ⟨size, true⟩)
    (found' : layout.blocks[index']? = some ⟨size', true⟩) (different : index ≠ index') :
    (freed q (layout.encode memory) (q.base + start layout.blocks index)).bind
        (freed q · (q.base + start layout.blocks index')) =
      some (((layout.release index).release index').encode
        (scrub q.toConfig (scrub q.toConfig memory (start layout.blocks index) size)
          (start layout.blocks index') size')) := by
  have kept : (layout.release index).blocks[index']? = some ⟨size', true⟩ :=
    getElem?_release_of_live found' rfl different
  have same : start (layout.release index).blocks index' = start layout.blocks index' :=
    start_release_of_live found' rfl different
  rw [freed_live layout memory found, Option.bind_some, ← same, freed_live _ _ kept]

/-- **Two calls of `ds_free` can be made in either order.** -/
theorem freed_comm (p p' : Nat) :
    (freed q (layout.encode memory) p).bind (freed q · p') =
      (freed q (layout.encode memory) p').bind (freed q · p) := by
  rcases live : blockAt q layout.blocks p with _ | size
  · rw [freed_bind_dead layout memory live p', freed_dead layout memory live, Option.bind_none]
  · rcases live' : blockAt q layout.blocks p' with _ | size'
    · rw [freed_bind_dead layout memory live' p, freed_dead layout memory live', Option.bind_none]
    · obtain ⟨index, found, rfl⟩ := exists_index_of_blockAt live
      obtain ⟨index', found', rfl⟩ := exists_index_of_blockAt live'
      by_cases different : index = index'
      · rw [different]
      · rw [freed_bind_live layout memory found found' different,
          freed_bind_live layout memory found' found (Ne.symm different), scrub_comm]
        show some (encode (release (release layout.blocks index) index') _) =
          some (encode (release (release layout.blocks index') index) _)
        rw [release_comm found rfl found' rfl different]

end Layout

theorem Encoded.freed {s t : DynostaticBuffer} {p : Nat} (encoded : Encoded q s)
    (taken : freed q s p = some t) : Encoded q t := by
  obtain ⟨layout, memory, rfl⟩ := encoded
  rcases live : blockAt q layout.blocks p with _ | size
  · rw [freed_dead layout memory live] at taken
    cases taken
  · obtain ⟨index, found, rfl⟩ := exists_index_of_blockAt live
    rw [freed_live layout memory found] at taken
    cases taken
    exact ⟨_, _, rfl⟩

/-- **Distinct live blocks can all be freed.** -/
theorem exists_freeAll (ps : List Nat) :
    ∀ (layout : Layout q.toConfig) (memory : Nat → UInt8), ps.Nodup →
      (∀ p ∈ ps, ∃ size, blockAt q layout.blocks p = some size) →
      ∃ final, freeAll q (layout.encode memory) ps = some final := by
  induction ps with
  | nil => exact fun layout memory _ _ => ⟨_, rfl⟩
  | cons p ps ih =>
    intro layout memory distinct live
    obtain ⟨absent, rest⟩ := List.nodup_cons.mp distinct
    obtain ⟨size, starts⟩ := live p List.mem_cons_self
    obtain ⟨index, found, rfl⟩ := exists_index_of_blockAt starts
    have others : ∀ p' ∈ ps, ∃ size, blockAt q (layout.release index).blocks p' = some size := by
      intro p' member
      have different : p' ≠ q.base + start layout.blocks index := by
        rintro rfl
        exact absent member
      rw [blockAt_release found, Function.update_of_ne different]
      exact live p' (List.mem_cons_of_mem _ member)
    obtain ⟨final, all⟩ := ih (layout.release index)
      (scrub q.toConfig memory (start layout.blocks index) size) rest others
    refine ⟨final, ?_⟩
    unfold freeAll
    rw [attempt, freed_live layout memory found]
    exact all

/-- **Freeing is order independent.** From a reachable state, distinct live blocks can be freed in
every order, and every order leaves the same instance. -/
theorem freeing_order_independent {s : DynostaticBuffer} (reachable : Reachable q s) {ps : List Nat}
    (distinct : ps.Nodup) (live : ∀ p ∈ ps, ∃ capacity, LiveBlock q s p capacity) :
    ∃ final, ∀ order : List Nat, order.Perm ps → freeAll q s order = some final := by
  rcases ps with _ | ⟨p, ps⟩
  · refine ⟨s, fun order perm => ?_⟩
    rw [perm.eq_nil]
    rfl
  · obtain ⟨-, initialized, -⟩ := live p List.mem_cons_self
    obtain ⟨layout, memory, rfl⟩ := reachable.of_initialized initialized
    obtain ⟨final, all⟩ := exists_freeAll (p :: ps) layout memory distinct fun p' member => by
      obtain ⟨capacity, block⟩ := live p' member
      exact ⟨capacity, liveBlock_encode_iff.mp block⟩
    refine ⟨final, fun order perm => ?_⟩
    rw [← all]
    refine attempt_perm (fun _ _ _ encoded taken => Encoded.freed encoded taken) ?_ perm
      ⟨layout, memory, rfl⟩
    rintro t first second ⟨layout', memory', rfl⟩
    exact freed_comm layout' memory' first second

/-- Freed from the top down or from the bottom up. -/
theorem freeing_order_independent_twoLive :
    freeAll defaultPlacement twoLive [4096, 4108] =
      freeAll defaultPlacement twoLive [4108, 4096] := by
  have live : ∀ p ∈ [4096, 4108], ∃ capacity, LiveBlock defaultPlacement twoLive p capacity := by
    simp only [List.forall_mem_cons, List.not_mem_nil, false_implies, implies_true, and_true]
    exact ⟨⟨12, rfl, 0, by decide⟩, ⟨12, rfl, 1, by decide⟩⟩
  obtain ⟨final, same⟩ := freeing_order_independent twoLive_reachable (by decide) live
  rw [same _ (List.Perm.refl _), same _ (List.Perm.swap _ _ _)]

end Dynostatic
