/-
**The out-parameters of the internal lookups.**

Each of the three functions that hand back a record's index says that it writes the index only if it
succeeds. `ds_find_allocator_containing` and `ds_get_new_allocator` keep to that. The third one,
`ds_find_allocator_for_memory`, passes its own out-parameter on to the first and then turns some
successes into failures: with a pointer into the inside of a live block it fails after the index has
been written. `out_parameters_iff` says that this is the only way.
-/

import Dynostatic.Lookup

namespace Dynostatic

open Tracing Tracing.Traced

/-- **The three contracts**: without success the out-parameters hold what they held. -/
def WritesOnSuccess (q : Placement) (s : DynostaticBuffer)
    (address size allocIdx offsetInBlock : Nat) : Prop :=
  ((dsFindAllocatorForMemory q s address allocIdx).value.code ≠ .ok →
    (dsFindAllocatorForMemory q s address allocIdx).value.allocIdx = allocIdx) ∧
  ((dsFindAllocatorContaining q s address allocIdx offsetInBlock).value.code ≠ .ok →
    (dsFindAllocatorContaining q s address allocIdx offsetInBlock).value.allocIdx = allocIdx ∧
    (dsFindAllocatorContaining q s address allocIdx offsetInBlock).value.offsetInBlock =
      offsetInBlock) ∧
  ((dsGetNewAllocator q.toConfig s size allocIdx).value.code ≠ .ok →
    (dsGetNewAllocator q.toConfig s size allocIdx).value.allocIdx = allocIdx)

/-- The address lies inside the live block of the record, past its start. -/
def Interior (q : Placement) (s : DynostaticBuffer) (address index : Nat) : Prop :=
  q.base ≤ address ∧ Holds s (address - q.base) index ∧
    address ≠ q.base + (s.allocators index).head

/-- A record is assigned, or the out-parameter is left alone. -/
theorem allocIdx_dsGetNewAllocator (c : Config) (s : DynostaticBuffer) (size allocIdx : Nat)
    (failed : (dsGetNewAllocator c s size allocIdx).value.code ≠ .ok) :
    (dsGetNewAllocator c s size allocIdx).value.allocIdx = allocIdx := by
  revert failed
  unfold dsGetNewAllocator
  split
  · exact fun _ => rfl
  rw [value_bind, value_bind]
  split
  · exact fun failed => absurd rfl failed
  unfold bumpRecord
  split
  · exact fun _ => rfl
  rw [value_bind, value_ite]
  split
  · exact fun _ => rfl
  · exact fun failed => absurd rfl failed

section Layout

variable {q : Placement} (layout : Layout q.toConfig) (memory : Nat → UInt8)
  (address allocIdx : Nat)

theorem out_containing (offsetInBlock : Nat)
    (failed : (dsFindAllocatorContaining q (layout.encode memory) address allocIdx
      offsetInBlock).value.code ≠ .ok) :
    (dsFindAllocatorContaining q (layout.encode memory) address allocIdx
      offsetInBlock).value.allocIdx = allocIdx ∧
    (dsFindAllocatorContaining q (layout.encode memory) address allocIdx
      offsetInBlock).value.offsetInBlock = offsetInBlock := by
  rcases containing_cases layout memory address allocIdx offsetInBlock with
    ⟨index, -, -, found⟩ | ⟨-, missed⟩
  · rw [found] at failed
    exact absurd rfl failed
  · rw [missed]
    exact ⟨rfl, rfl⟩

/-- The exact-start lookup keeps the contract unless it has written another record's index. -/
theorem out_forMemory_iff :
    ((dsFindAllocatorForMemory q (layout.encode memory) address allocIdx).value.code ≠ .ok →
      (dsFindAllocatorForMemory q (layout.encode memory) address allocIdx).value.allocIdx =
        allocIdx) ↔
      ∀ index, Interior q (layout.encode memory) address index → index = allocIdx := by
  unfold dsFindAllocatorForMemory
  rw [value_bind, value_ite]
  rcases containing_cases layout memory address allocIdx 0 with
    ⟨index, above, holds, found⟩ | ⟨none, missed⟩
  · have only : ∀ other, Interior q (layout.encode memory) address other → other = index :=
      fun other interior => holds_unique interior.2.1 holds
    rw [found]
    by_cases starts : address - q.base - ((layout.encode memory).allocators index).head = 0
    · rw [if_neg fun both => both.2 starts]
      refine iff_of_true (fun failed => absurd rfl failed) fun other interior => ?_
      obtain rfl := only other interior
      have inside := holds.2.1
      have past := interior.2.2
      omega
    · rw [if_pos ⟨rfl, starts⟩]
      have interior : Interior q (layout.encode memory) address index :=
        ⟨above, holds, fun same => starts (by omega)⟩
      refine ⟨fun keeps other interior' => ?_, fun held _ => held index interior⟩
      rw [only other interior']
      exact keeps nofun
  · rw [missed, if_neg fun both => deadCode_ne_ok address both.1]
    exact iff_of_true (fun _ => rfl) fun index interior =>
      absurd interior.2.1 (none index interior.1)

end Layout

/-- **When the out-parameters are written only on success.** In a reachable initialized instance,
for any address, any size and any content of the out-parameters: the three lookups keep their
contracts exactly if the address is not inside a live block past its start, or the index of that
block is what the out-parameter holds anyway. -/
theorem out_parameters_iff {q : Placement} {s : DynostaticBuffer} (reachable : Reachable q s)
    (initialized : s.initMagic = dsMagicNumber) (address size allocIdx offsetInBlock : Nat) :
    WritesOnSuccess q s address size allocIdx offsetInBlock ↔
      ∀ index, Interior q s address index → index = allocIdx := by
  obtain ⟨layout, memory, rfl⟩ := reachable.of_initialized initialized
  refine ⟨fun contracts => ?_, fun held => ⟨?_, ?_, ?_⟩⟩
  · exact (out_forMemory_iff layout memory address allocIdx).mp contracts.1
  · exact (out_forMemory_iff layout memory address allocIdx).mpr held
  · exact out_containing layout memory address allocIdx offsetInBlock
  · exact allocIdx_dsGetNewAllocator q.toConfig _ size allocIdx

/-- With a pointer into the first block the contracts are kept where the out-parameter holds its
index. -/
theorem out_parameters_held : WritesOnSuccess defaultPlacement twoLive 4097 8 0 7 := by
  have first : Holds twoLive (4097 - defaultPlacement.base) 0 := by decide
  obtain ⟨layout, memory, same⟩ := twoLive_reachable.of_initialized rfl
  refine (out_parameters_iff twoLive_reachable rfl 4097 8 0 7).mpr fun index interior => ?_
  have holds := interior.2.1
  rw [same] at first holds
  exact holds_unique holds first

/-- **With a pointer into a block the index is written**, and the lookup fails. -/
theorem out_parameters_written :
    Reachable defaultPlacement twoLive ∧ twoLive.initMagic = dsMagicNumber ∧
      (dsFindAllocatorForMemory defaultPlacement twoLive 4097 7).value =
        ⟨.allocatorNotFound, 0, 1⟩ ∧
      ¬ WritesOnSuccess defaultPlacement twoLive 4097 8 7 7 := by
  refine ⟨twoLive_reachable, rfl, by decide, fun contracts => ?_⟩
  exact absurd (contracts.1 (by decide)) (by decide)

end Dynostatic
