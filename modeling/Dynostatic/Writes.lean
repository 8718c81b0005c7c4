/-
**The bounds-checked writes.**

`ds_safe_memory_set` and `ds_safe_memory_copy` check a range the same way (`Checked`): where the
range lies inside one live block it is written, and everywhere else the code says why not, whatever
the write would have been. So the two cannot differ in their codes (`safe_writes_exact`).
-/

import Dynostatic.Outcome

namespace Dynostatic

open Tracing Tracing.Traced Tiling Bytes

variable {q : Placement}

/-- The range lies inside one live block. -/
def InsideBlock (q : Placement) (s : DynostaticBuffer) (dst count : Nat) : Prop :=
  ∃ p capacity, LiveBlock q s p capacity ∧ p ≤ dst ∧ dst + count ≤ p + capacity

/-- The call does nothing but a write behind the check. -/
def Checked (q : Placement) (s : DynostaticBuffer) (dst count : Nat) (op : Op) : Prop :=
  ∃ write, call q s op = checkedWrite q s dst count write

section Layout

variable {layout : Layout q.toConfig} {memory : Nat → UInt8} {dst count : Nat}

variable (layout memory) in
theorem checked_set (nonNull : dst ≠ 0) (positive : 0 < count) (value : Int) :
    Checked q (layout.encode memory) dst count (.safeMemorySet .self dst value count) := by
  refine ⟨_, (if_neg ?_).trans (if_neg (layout.encode_initialized memory))⟩
  simp [nonNull, positive.ne']

variable (layout memory) in
theorem checked_copy (nonNull : dst ≠ 0) (positive : 0 < count) (outside : Nat → UInt8) {src : Nat}
    (nonNull' : src ≠ 0) :
    Checked q (layout.encode memory) dst count (.safeMemoryCopy .self outside dst src count) := by
  refine ⟨_, (if_neg ?_).trans (if_neg (layout.encode_initialized memory))⟩
  simp [nonNull, nonNull', positive.ne']

theorem insideBlock_encode_iff :
    InsideBlock q (layout.encode memory) dst count ↔
      ∃ index size inside, layout.blocks[index]? = some ⟨size, true⟩ ∧ inside + count ≤ size ∧
        dst = q.base + (start layout.blocks index + inside) := by
  constructor
  · rintro ⟨p, size, live, above, below⟩
    obtain ⟨index, found, rfl⟩ := live.index
    exact ⟨index, size, dst - (q.base + start layout.blocks index), found, by omega, by omega⟩
  · rintro ⟨index, size, inside, found, fits, rfl⟩
    exact ⟨_, size, liveBlock_start found, by omega, by omega⟩

/-! ### Refused ranges -/

section Refused

variable {op : Op} (checked : Checked q (layout.encode memory) dst count op)

include checked

theorem refused_outside (outside : ¬ (q.base ≤ dst ∧ dst < q.base + q.bufferMemorySize)) :
    reply q (layout.encode memory) op = ⟨.memoryOutOfDs, layout.encode memory, none⟩ := by
  obtain ⟨write, same⟩ := checked
  have code : deadCode q dst = .memoryOutOfDs := if_pos (by omega)
  rw [reply, same, ← code]
  refine (yields_checkedWrite_dead layout memory ?_ count write).value
  rintro index size inside found small rfl
  have bound : start layout.blocks index + size ≤ q.bufferMemorySize := layout.end_le found
  omega

theorem refused_free (above : q.base ≤ dst) (below : dst < q.base + q.bufferMemorySize)
    (free : ¬ Owned q (layout.encode memory) (dst - q.base)) :
    reply q (layout.encode memory) op = ⟨.allocatorNotFound, layout.encode memory, none⟩ := by
  obtain ⟨write, same⟩ := checked
  have code : deadCode q dst = .allocatorNotFound := if_neg (by omega)
  rw [reply, same, ← code]
  refine (yields_checkedWrite_dead layout memory ?_ count write).value
  rintro index size inside found small rfl
  refine free (owned_encode_iff.mpr (covered_of_getElem? found ?_))
  omega

theorem refused_short {p capacity : Nat} (live : LiveBlock q (layout.encode memory) p capacity)
    (above : p ≤ dst) (below : dst < p + capacity) (short : p + capacity < dst + count) :
    reply q (layout.encode memory) op = ⟨.noMemory, layout.encode memory, none⟩ := by
  obtain ⟨write, same⟩ := checked
  obtain ⟨index, found, rfl⟩ := live.index
  obtain ⟨inside, rfl⟩ := Nat.exists_eq_add_of_le above
  rw [reply, same, Nat.add_assoc]
  exact (yields_checkedWrite_short layout memory found (by omega) (by omega) write).value

end Refused

/-- **A range that is not inside one live block is refused**, with a code that does not depend on
the write. -/
theorem refused_same (outside : ¬ InsideBlock q (layout.encode memory) dst count) :
    ∃ code, code ≠ .ok ∧ ∀ op, Checked q (layout.encode memory) dst count op →
      reply q (layout.encode memory) op = ⟨code, layout.encode memory, none⟩ := by
  by_cases inside : q.base ≤ dst ∧ dst < q.base + q.bufferMemorySize
  · by_cases owned : Owned q (layout.encode memory) (dst - q.base)
    · obtain ⟨p, capacity, live, above, below⟩ := owned
      have short : p + capacity < dst + count :=
        Nat.lt_of_not_le fun fits => outside ⟨p, capacity, live, by omega, fits⟩
      exact ⟨.noMemory, nofun, fun op checked =>
        refused_short checked live (by omega) (by omega) short⟩
    · exact ⟨.allocatorNotFound, nofun, fun op checked =>
        refused_free checked inside.1 inside.2 owned⟩
  · exact ⟨.memoryOutOfDs, nofun, fun op checked => refused_outside checked inside⟩

/-! ### Ranges inside a block -/

/-- The fill of a range. -/
theorem reply_set (positive : 0 < count) (value : Int)
    (inside : InsideBlock q (layout.encode memory) dst count) :
    reply q (layout.encode memory) (.safeMemorySet .self dst value count) =
      ⟨.ok, storeBytes q (layout.encode memory) dst count fun _ => UInt8.ofInt value, none⟩ := by
  obtain ⟨index, size, distance, found, fits, rfl⟩ := insideBlock_encode_iff.mp inside
  rw [storeBytes_base]
  exact (yields_dsSafeMemorySet_inside layout memory found positive fits value).value

/-- The copy to a range. -/
theorem reply_copy (positive : 0 < count) (outside : Nat → UInt8) {src : Nat} (nonNull : src ≠ 0)
    (inside : InsideBlock q (layout.encode memory) dst count) :
    reply q (layout.encode memory) (.safeMemoryCopy .self outside dst src count) =
      ⟨.ok, storeBytes q (layout.encode memory) dst count
        fun i => byteAt q (layout.encode memory) outside (src + i), none⟩ := by
  obtain ⟨index, size, distance, found, fits, rfl⟩ := insideBlock_encode_iff.mp inside
  rw [storeBytes_base]
  exact (yields_dsSafeMemoryCopy_inside layout memory found positive fits nonNull outside).value

/-- **A checked write succeeds exactly inside one live block.** -/
theorem ok_iff_insideBlock {op : Op} (checked : Checked q (layout.encode memory) dst count op)
    (succeeds : InsideBlock q (layout.encode memory) dst count →
      (reply q (layout.encode memory) op).code = .ok) :
    (reply q (layout.encode memory) op).code = .ok ↔
      InsideBlock q (layout.encode memory) dst count := by
  refine ⟨fun ok => ?_, succeeds⟩
  by_contra outside
  obtain ⟨code, notOk, refused⟩ := refused_same outside
  rw [refused op checked] at ok
  exact notOk ok

end Layout

/-- A `char` of either sign is stored modulo `256`. -/
theorem toNat_ofInt_char (value : Int) : ((UInt8.ofInt value).toNat : Int) = value % 256 := by
  have positive : 0 ≤ value % 256 := Int.emod_nonneg value (by decide)
  have wide : value % 256 < 256 := Int.emod_lt_of_pos value (by decide)
  have small : (value % 256).toNat < 256 := by omega
  unfold UInt8.ofInt
  rw [UInt8.toNat_ofNat']
  exact (congrArg Int.ofNat (Nat.mod_eq_of_lt small)).trans (Int.toNat_of_nonneg positive)

/-- **Bounds-checked writes write what was asked, or nothing.** In a reachable initialized instance,
for a range of at least one byte that does not start at `NULL`: both functions succeed exactly when
the range lies inside one live block, and then change the bytes of the range and nothing else.
Otherwise they change nothing, and the code, which is the same for both, says whether the range
starts outside the arena, in no live block, or in a live block that ends too early. -/
theorem safe_writes_exact {s : DynostaticBuffer} (reachable : Reachable q s)
    (initialized : s.initMagic = dsMagicNumber) {dst count : Nat} (nonNull : dst ≠ 0)
    (positive : 1 ≤ count) :
    (∀ value : Int,
      ((reply q s (.safeMemorySet .self dst value count)).code = .ok ↔
        InsideBlock q s dst count) ∧
      (InsideBlock q s dst count → ∃ byte : UInt8, (byte.toNat : Int) = value % 256 ∧
        reply q s (.safeMemorySet .self dst value count) =
          ⟨.ok, { s with
              memory := fun k =>
                if dst ≤ q.base + k ∧ q.base + k < dst + count then byte else s.memory k },
            none⟩)) ∧
    (∀ (outside : Nat → UInt8) (src : Nat), src ≠ 0 → src + count ≤ dst ∨ dst + count ≤ src →
      ((reply q s (.safeMemoryCopy .self outside dst src count)).code = .ok ↔
        InsideBlock q s dst count) ∧
      (InsideBlock q s dst count →
        reply q s (.safeMemoryCopy .self outside dst src count) =
          ⟨.ok, { s with
              memory := fun k =>
                if dst ≤ q.base + k ∧ q.base + k < dst + count then
                  byteAt q s outside (src + (q.base + k - dst))
                else s.memory k },
            none⟩)) ∧
    ∀ (value : Int) (outside : Nat → UInt8) (src : Nat), src ≠ 0 →
      (reply q s (.safeMemorySet .self dst value count)).code =
        (reply q s (.safeMemoryCopy .self outside dst src count)).code ∧
      ∀ op ∈ [Op.safeMemorySet .self dst value count,
          Op.safeMemoryCopy .self outside dst src count],
        (¬ (q.base ≤ dst ∧ dst < q.base + q.bufferMemorySize) →
          reply q s op = ⟨.memoryOutOfDs, s, none⟩) ∧
        (q.base ≤ dst → dst < q.base + q.bufferMemorySize → ¬ Owned q s (dst - q.base) →
          reply q s op = ⟨.allocatorNotFound, s, none⟩) ∧
        ∀ p capacity, LiveBlock q s p capacity → p ≤ dst → dst < p + capacity →
          p + capacity < dst + count → reply q s op = ⟨.noMemory, s, none⟩ := by
  obtain ⟨layout, memory, rfl⟩ := reachable.of_initialized initialized
  have set := checked_set layout memory nonNull positive
  have copy := fun outside src (nonNull' : src ≠ 0) =>
    checked_copy layout memory nonNull positive outside nonNull'
  refine ⟨fun value => ⟨?_, fun inside => ?_⟩, fun outside src nonNull' _ => ⟨?_, ?_⟩,
    fun value outside src nonNull' => ⟨?_, ?_⟩⟩
  · exact ok_iff_insideBlock (set value) fun inside =>
      congrArg Reply.code (reply_set positive value inside)
  · exact ⟨_, toNat_ofInt_char value, reply_set positive value inside⟩
  · exact ok_iff_insideBlock (copy outside src nonNull') fun inside =>
      congrArg Reply.code (reply_copy positive outside nonNull' inside)
  · exact reply_copy positive outside nonNull'
  · by_cases inside : InsideBlock q (layout.encode memory) dst count
    · rw [reply_set positive value inside, reply_copy positive outside nonNull' inside]
    · obtain ⟨code, -, refused⟩ := refused_same inside
      rw [refused _ (set value), refused _ (copy outside src nonNull')]
  · intro op listed
    have checked : Checked q (layout.encode memory) dst count op := by
      rcases List.mem_pair.mp listed with rfl | rfl
      · exact set value
      · exact copy outside src nonNull'
    exact ⟨refused_outside checked, refused_free checked, fun p capacity => refused_short checked⟩

/-- A fill of the first block with the `char` `-1`. -/
theorem safe_writes_exact_negative :
    (reply defaultPlacement twoLive (.safeMemorySet .self 4096 (-1) 12)).code = .ok :=
  ((safe_writes_exact twoLive_reachable rfl (by decide) (by decide)).1 (-1)).1.mpr
    ⟨4096, 12, ⟨rfl, 0, by decide, rfl, rfl, rfl⟩, by decide, by decide⟩

end Dynostatic
