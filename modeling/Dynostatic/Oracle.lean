/-
**The largest allocation is reported exactly.**

`ds_get_max_new_allocation_size` and `ds_malloc` scan the records separately. `room_iff_le_largest`
(`Getters.lean`) says that they agree at every size; here it is read off the public calls.
-/

import Dynostatic.Outcome

namespace Dynostatic

open Tracing Tracing.Traced Tiling Rounding Runs

variable {q : Placement}

/-- With a variable that holds no live block, `ds_malloc` succeeds up to the largest size. -/
theorem malloc_ok_iff (layout : Layout q.toConfig) (memory : Nat → UInt8) {p size : Nat}
    (positive : 0 < size) (fresh : blockAt q layout.blocks p = none) :
    (reply q (layout.encode memory) (.malloc .self (some p) size)).code = .ok ↔
      size ≤ largest q.toConfig layout.blocks := by
  rw [← room_iff_le_largest layout positive]
  by_cases small : size ≤ q.maxAllocationSize
  · rw [malloc_ok_iff_room layout memory fresh positive small]
    exact (and_iff_right small).symm
  · exact iff_of_false (fails_dsMalloc_size layout memory fun good => small good.2).code_ne_ok
      fun good => small good.1

/-- Whatever the variable holds, it succeeds for no other size. -/
theorem le_largest_of_malloc_ok (layout : Layout q.toConfig) (memory : Nat → UInt8) {p size : Nat}
    (ok : (reply q (layout.encode memory) (.malloc .self (some p) size)).code = .ok) :
    size ≤ largest q.toConfig layout.blocks := by
  rcases dsMalloc_cases layout memory p size with fails | ⟨positive, small, -, room⟩
  · exact absurd ok fails.code_ne_ok
  · exact (room_iff_le_largest layout positive).mp ⟨small, room⟩

/-- A live block can be resized to any size that could be allocated. -/
theorem realloc_ok (layout : Layout q.toConfig) (memory : Nat → UInt8) {index capacity size : Nat}
    (found : layout.blocks[index]? = some ⟨capacity, true⟩) (positive : 0 < size)
    (bounded : size ≤ largest q.toConfig layout.blocks) :
    (reply q (layout.encode memory)
      (.realloc .self (some (q.base + start layout.blocks index)) size)).code = .ok := by
  obtain ⟨small, room⟩ := (room_iff_le_largest layout positive).mpr bounded
  exact resize_ok layout memory found positive small room

/-- **The allocation oracle is exact at every size.** -/
theorem allocation_oracle_exact {s : DynostaticBuffer} (reachable : Reachable q s) {out v : Nat}
    (reported : (reply q s (.getMaxNewAllocationSize .self (some out))).code = .ok ∧
      (reply q s (.getMaxNewAllocationSize .self (some out))).cell = some v) :
    (∀ p size, 1 ≤ size → (∀ capacity, ¬ LiveBlock q s p capacity) →
      ((reply q s (.malloc .self (some p) size)).code = .ok ↔ size ≤ v)) ∧
    ∀ p capacity size, LiveBlock q s p capacity → 1 ≤ size → size ≤ v →
      (reply q s (.realloc .self (some p) size)).code = .ok := by
  obtain ⟨ok, cell⟩ := reported
  obtain ⟨layout, memory, rfl⟩ := reachable.of_initialized (initialized_of_ok ok nofun)
  obtain rfl : largest q.toConfig layout.blocks = v := by
    have value := (yields_dsGetMaxNewAllocationSize layout memory out).value
    rw [show reply q (layout.encode memory) (.getMaxNewAllocationSize .self (some out)) = _ from
      value] at cell
    exact Option.some.inj cell
  constructor
  · intro p size positive fresh
    exact malloc_ok_iff layout memory positive (not_liveBlock_encode_iff.mp fresh)
  · intro p capacity size live positive bounded
    obtain ⟨index, found, rfl⟩ := live.index
    exact realloc_ok layout memory found positive bounded

/-- A parked block of 200 bytes among live ones, and 16 bytes above them. -/
def nearlyFull : DynostaticBuffer :=
  run (next defaultPlacement) (freshInstance defaultPlacement zeroBuffer)
    [.call (.malloc .self (some 0) 256), .call (.malloc .self (some 0) 256),
      .call (.malloc .self (some 0) 256), .call (.malloc .self (some 0) 200),
      .call (.malloc .self (some 0) 40), .call (.free .self (some 4864))]

/-- The oracle reports the parked block: so much and no more can be allocated, and the live block of
40 bytes can move there. -/
theorem allocation_oracle_exact_parked :
    (reply defaultPlacement nearlyFull (.malloc .self (some 0) 200)).code = .ok ∧
      (reply defaultPlacement nearlyFull (.malloc .self (some 0) 201)).code ≠ .ok ∧
      (reply defaultPlacement nearlyFull (.realloc .self (some 5064) 200)).code = .ok := by
  have reachable : Reachable defaultPlacement nearlyFull :=
    (Reachable.freshInstance zeroBuffer_fresh).run _
  have reported : (reply defaultPlacement nearlyFull
        (.getMaxNewAllocationSize .self (some 7))).code = .ok ∧
      (reply defaultPlacement nearlyFull
        (.getMaxNewAllocationSize .self (some 7))).cell = some 200 := by decide
  have live : LiveBlock defaultPlacement nearlyFull 5064 40 := ⟨rfl, 4, by decide, rfl, rfl, rfl⟩
  obtain ⟨exact, resizes⟩ := allocation_oracle_exact reachable reported
  have null : ∀ capacity, ¬ LiveBlock defaultPlacement nearlyFull 0 capacity :=
    fun _ live => absurd live.pos (Nat.lt_irrefl 0)
  refine ⟨(exact 0 200 (by decide) null).mpr le_rfl, fun ok => ?_, ?_⟩
  · exact absurd ((exact 0 201 (by decide) null).mp ok) (by decide)
  · exact resizes 5064 40 200 live (by decide) le_rfl

end Dynostatic
