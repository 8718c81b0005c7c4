/-
**Looking up an address.**

The loop of `ds_find_allocator_containing` takes two shortcuts. It subtracts a record's head from
the offset without comparing them, and it stops at the first unused record. `scanAll` takes neither:
it goes through all records, compares first, and lets no record end it. On the instance of a layout
the two give the same answer for every address (`containing_eq_reference`), which is the record
whose live block the address lies in, if there is one (`lookup_exact`).
-/

import Dynostatic.Outcome

namespace Dynostatic

open Tracing Tracing.Traced Tiling

/-- The offset lies in the live block of the record. -/
def Holds (s : DynostaticBuffer) (offset index : Nat) : Prop :=
  (s.allocators index).allocationStatus = .allocated ∧ (s.allocators index).head ≤ offset ∧
    offset < (s.allocators index).head + (s.allocators index).size

instance (s : DynostaticBuffer) (offset index : Nat) : Decidable (Holds s offset index) :=
  inferInstanceAs (Decidable (_ ∧ _ ∧ _))

/-! ### The reference lookups -/

section Reference

variable (q : Placement) (s : DynostaticBuffer)

/-- The scan of all records, with a guard, and without a break. -/
def scanAll (offset : Nat) : (rest iter : Nat) → (found : Lookup) → Lookup
  | 0, _, found => found
  | rest + 1, iter, found =>
    scanAll offset rest (iter + 1)
      (if Holds s offset iter then ⟨.ok, iter, offset - (s.allocators iter).head⟩ else found)

/-- What `ds_find_allocator_containing` would be with that scan. -/
def referenceContaining (address allocIdx offsetInBlock : Nat) : Lookup :=
  if q.base ≤ address ∧ address < q.base + q.bufferMemorySize then
    scanAll s (address - q.base) q.maxAllocationCount 0
      ⟨.allocatorNotFound, allocIdx, offsetInBlock⟩
  else
    ⟨.memoryOutOfDs, allocIdx, offsetInBlock⟩

/-- What `ds_find_allocator_for_memory` would be with that scan. -/
def referenceForMemory (address allocIdx : Nat) : Lookup :=
  let found := referenceContaining q s address allocIdx 0
  if found.code = .ok ∧ found.offsetInBlock ≠ 0 then
    { found with code := .allocatorNotFound }
  else
    found

variable {s}

/-- A scan that meets no record keeps its answer. -/
theorem scanAll_of_not_holds {offset : Nat} (rest iter : Nat) (found : Lookup)
    (none : ∀ index, iter ≤ index → index < iter + rest → ¬ Holds s offset index) :
    scanAll s offset rest iter found = found := by
  induction rest generalizing iter found with
  | zero => rfl
  | succ rest ih =>
    rw [scanAll, if_neg (none iter le_rfl (by omega))]
    exact ih (iter + 1) found fun index above below => none index (by omega) (by omega)

/-- A scan over the only record that holds the offset finds it. -/
theorem scanAll_of_holds {offset index : Nat} (holds : Holds s offset index)
    (unique : ∀ other, Holds s offset other → other = index) (rest iter : Nat) (found : Lookup)
    (above : iter ≤ index) (below : index < iter + rest) :
    scanAll s offset rest iter found = ⟨.ok, index, offset - (s.allocators index).head⟩ := by
  induction rest generalizing iter found with
  | zero => omega
  | succ rest ih =>
    rw [scanAll]
    rcases Nat.lt_or_eq_of_le above with later | rfl
    · exact ih (iter + 1) _ later (by omega)
    · rw [if_pos holds]
      refine scanAll_of_not_holds rest (iter + 1) _ fun other past _ held => ?_
      have same := unique other held
      omega

end Reference

/-! ### On a layout -/

section Layout

variable {q : Placement} {layout : Layout q.toConfig} {memory : Nat → UInt8} {offset index : Nat}

theorem holds_encode_iff :
    Holds (layout.encode memory) offset index ↔
      ∃ size, layout.blocks[index]? = some ⟨size, true⟩ ∧ start layout.blocks index ≤ offset ∧
        offset < start layout.blocks index + size := by
  constructor
  · rintro ⟨status, inside⟩
    obtain ⟨size, found⟩ := records_allocated_iff.mp status
    rw [layout.encode_live memory found] at inside
    exact ⟨size, found, inside⟩
  · rintro ⟨size, found, inside⟩
    unfold Holds
    rw [layout.encode_live memory found]
    exact ⟨rfl, inside⟩

/-- **At most one record holds an offset.** -/
theorem holds_unique {other : Nat} (holds : Holds (layout.encode memory) offset index)
    (holds' : Holds (layout.encode memory) offset other) : index = other := by
  obtain ⟨size, found, inside⟩ := holds_encode_iff.mp holds
  obtain ⟨size', found', inside'⟩ := holds_encode_iff.mp holds'
  exact index_unique found found' inside inside'

/-- The lookup of an offset that a record holds. -/
theorem containing_of_holds (holds : Holds (layout.encode memory) offset index)
    (allocIdx offsetInBlock : Nat) :
    (dsFindAllocatorContaining q (layout.encode memory) (q.base + offset) allocIdx
      offsetInBlock).value =
      ⟨.ok, index, offset - ((layout.encode memory).allocators index).head⟩ := by
  obtain ⟨size, found, above, below⟩ := holds_encode_iff.mp holds
  obtain ⟨inside, rfl⟩ := Nat.exists_eq_add_of_le above
  rw [layout.encode_live memory found]
  show _ = (⟨.ok, index, start layout.blocks index + inside - start layout.blocks index⟩ : Lookup)
  rw [Nat.add_sub_cancel_left]
  exact (yields_containing_live layout memory found (by omega) allocIdx offsetInBlock).value

/-- The lookup of an address that no record holds. -/
theorem containing_of_not_holds {address : Nat}
    (none : ∀ index, q.base ≤ address → ¬ Holds (layout.encode memory) (address - q.base) index)
    (allocIdx offsetInBlock : Nat) :
    (dsFindAllocatorContaining q (layout.encode memory) address allocIdx offsetInBlock).value =
      ⟨deadCode q address, allocIdx, offsetInBlock⟩ := by
  refine (yields_containing_dead layout memory ?_ allocIdx offsetInBlock).value
  rintro index size inside found small rfl
  refine none index (Nat.le_add_right _ _) (holds_encode_iff.mpr ⟨size, found, ?_, ?_⟩) <;> omega

variable (layout memory) in
/-- **The two answers of the lookup.** -/
theorem containing_cases (address allocIdx offsetInBlock : Nat) :
    (∃ index, q.base ≤ address ∧ Holds (layout.encode memory) (address - q.base) index ∧
      (dsFindAllocatorContaining q (layout.encode memory) address allocIdx offsetInBlock).value =
        ⟨.ok, index, address - q.base - ((layout.encode memory).allocators index).head⟩) ∨
    (∀ index, q.base ≤ address → ¬ Holds (layout.encode memory) (address - q.base) index) ∧
      (dsFindAllocatorContaining q (layout.encode memory) address allocIdx offsetInBlock).value =
        ⟨deadCode q address, allocIdx, offsetInBlock⟩ := by
  by_cases held : ∃ index, q.base ≤ address ∧ Holds (layout.encode memory) (address - q.base) index
  · obtain ⟨index, above, holds⟩ := held
    obtain ⟨offset, rfl⟩ := Nat.exists_eq_add_of_le above
    rw [Nat.add_sub_cancel_left] at holds ⊢
    exact .inl ⟨index, above, holds, containing_of_holds holds _ _⟩
  · have none := fun index above holds => held ⟨index, above, holds⟩
    exact .inr ⟨none, containing_of_not_holds none _ _⟩

/-- A held offset lies in the arena. -/
theorem lt_bufferMemorySize_of_holds (holds : Holds (layout.encode memory) offset index) :
    index < q.maxAllocationCount ∧ offset < q.bufferMemorySize := by
  obtain ⟨size, found, above, below⟩ := holds_encode_iff.mp holds
  have bound : start layout.blocks index + size ≤ q.bufferMemorySize := layout.end_le found
  exact ⟨layout.lt_maxCount found, by omega⟩

/-- **The lookup is the reference lookup.** -/
theorem containing_eq_reference (address allocIdx offsetInBlock : Nat) :
    (dsFindAllocatorContaining q (layout.encode memory) address allocIdx offsetInBlock).value =
      referenceContaining q (layout.encode memory) address allocIdx offsetInBlock := by
  unfold referenceContaining
  rcases containing_cases layout memory address allocIdx offsetInBlock with
    ⟨index, above, holds, found⟩ | ⟨none, missed⟩
  · obtain ⟨slot, below⟩ := lt_bufferMemorySize_of_holds holds
    rw [found, if_pos ⟨above, by omega⟩]
    exact (scanAll_of_holds holds (fun other holds' => holds_unique holds' holds) _ 0 _
      (Nat.zero_le _) (by omega)).symm
  · rw [missed]
    unfold deadCode
    by_cases inside : q.base ≤ address ∧ address < q.base + q.bufferMemorySize
    · rw [if_pos inside, if_neg (by omega)]
      exact (scanAll_of_not_holds _ _ _ fun index _ _ => none index inside.1).symm
    · rw [if_neg inside, if_pos (by omega)]

theorem forMemory_eq_reference (address allocIdx : Nat) :
    (dsFindAllocatorForMemory q (layout.encode memory) address allocIdx).value =
      referenceForMemory q (layout.encode memory) address allocIdx := by
  unfold referenceForMemory dsFindAllocatorForMemory
  rw [← containing_eq_reference, value_bind, value_ite]
  rfl

/-- The start of a live block is found, and no other address. -/
theorem forMemory_ok_iff (address allocIdx : Nat) :
    (dsFindAllocatorForMemory q (layout.encode memory) address allocIdx).value.code = .ok ↔
      ∃ capacity, LiveBlock q (layout.encode memory) address capacity := by
  rcases starts : blockAt q layout.blocks address with _ | size
  · obtain ⟨found, code, looked⟩ := yields_forMemory_dead layout memory starts allocIdx
    rw [looked.value, code]
    exact iff_of_false (deadCode_ne_ok address)
      fun ⟨capacity, live⟩ => not_liveBlock_encode_iff.mpr starts capacity live
  · obtain ⟨index, found, rfl⟩ := exists_index_of_blockAt starts
    rw [(yields_forMemory_live layout memory found allocIdx).value]
    exact iff_of_true rfl ⟨size, liveBlock_encode_iff.mpr starts⟩

end Layout

/-- **Address lookup is exact.** In a reachable initialized instance, for any address: the lookup
tells apart an address outside the arena, an address in the live block of a record, of which there
is at most one, and any other. The exact-start lookup succeeds on the starts of the live blocks.
Both are what they would be with a scan of all records that compares before it subtracts. -/
theorem lookup_exact {q : Placement} {s : DynostaticBuffer} (reachable : Reachable q s)
    (initialized : s.initMagic = dsMagicNumber) (address allocIdx offsetInBlock : Nat) :
    ((dsFindAllocatorContaining q s address allocIdx offsetInBlock).value.code = .memoryOutOfDs ↔
      ¬ (q.base ≤ address ∧ address < q.base + q.bufferMemorySize)) ∧
    (q.base ≤ address → address < q.base + q.bufferMemorySize →
      (∀ index inside,
        (dsFindAllocatorContaining q s address allocIdx offsetInBlock).value =
            ⟨.ok, index, inside⟩ ↔
          index < q.maxAllocationCount ∧ Holds s (address - q.base) index ∧
            inside = address - q.base - (s.allocators index).head) ∧
      (∀ index other, Holds s (address - q.base) index → Holds s (address - q.base) other →
        index = other) ∧
      ((dsFindAllocatorContaining q s address allocIdx offsetInBlock).value.code =
          .allocatorNotFound ↔
        ∀ index < q.maxAllocationCount, ¬ Holds s (address - q.base) index)) ∧
    ((dsFindAllocatorForMemory q s address allocIdx).value.code = .ok ↔
      ∃ capacity, LiveBlock q s address capacity) ∧
    (dsFindAllocatorContaining q s address allocIdx offsetInBlock).value =
      referenceContaining q s address allocIdx offsetInBlock ∧
    (dsFindAllocatorForMemory q s address allocIdx).value =
      referenceForMemory q s address allocIdx := by
  obtain ⟨layout, memory, rfl⟩ := reachable.of_initialized initialized
  refine ⟨?_, fun above below => ⟨?_, fun _ _ => holds_unique, ?_⟩,
    forMemory_ok_iff address allocIdx, containing_eq_reference address allocIdx offsetInBlock,
    forMemory_eq_reference address allocIdx⟩
  all_goals rcases containing_cases layout memory address allocIdx offsetInBlock with
    ⟨held, above', holds, found⟩ | ⟨none, missed⟩
  · obtain ⟨-, below⟩ := lt_bufferMemorySize_of_holds holds
    rw [found]
    exact iff_of_false nofun (not_not.mpr ⟨above', by omega⟩)
  · rw [missed]
    show deadCode q address = _ ↔ _
    unfold deadCode
    split
    · exact iff_of_true rfl (by omega)
    · exact iff_of_false nofun (by omega)
  · rw [found]
    intro index inside
    constructor
    · rintro ⟨⟩
      exact ⟨(lt_bufferMemorySize_of_holds holds).1, holds, rfl⟩
    · rintro ⟨-, holds', rfl⟩
      rw [holds_unique holds holds']
  · rw [missed]
    intro index inside
    refine iff_of_false (fun same => ?_) fun both => none index above both.2.1
    exact deadCode_ne_ok address (congrArg Lookup.code same)
  · rw [found]
    refine iff_of_false nofun fun free => ?_
    exact free held (lt_bufferMemorySize_of_holds holds).1 holds
  · rw [missed]
    show deadCode q address = _ ↔ _
    unfold deadCode
    rw [if_neg (by omega)]
    exact iff_of_true rfl fun index _ => none index above

/-- An address inside the second of two blocks is found there. -/
theorem lookup_exact_second :
    (dsFindAllocatorContaining defaultPlacement twoLive 4110 0 0).value = ⟨.ok, 1, 2⟩ :=
  (((lookup_exact twoLive_reachable rfl 4110 0 0).2.1 (by decide) (by decide)).1 1 2).mpr
    ⟨by decide, by decide, rfl⟩

end Dynostatic
