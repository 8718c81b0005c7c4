/-
**How much work a call is.**

The library's loops go over the record table, so the records a call visits measure its work: the
single reads and writes, and all records where `ds_zero` clears the table (`Op.wipes`).
`amortized_visits` bounds them, whatever the structure holds: every call visits a number of records
linear in `DS_MAX_ALLOCATION_COUNT`, and the rollbacks of `ds_free`, which may go over the whole
table at once, cost a run no more than three visits for each record that was put in use.

Each record in use holds three credits (`Tracing.Traced.Pays`): they pay for its rollback.
-/

import Mathlib.Algebra.BigOperators.Group.Finset.Basic
import Mathlib.Algebra.Order.BigOperators.Group.Finset
import Dynostatic.Books
import Dynostatic.Lib.Credits
import Dynostatic.Retvals
import Dynostatic.System

namespace Dynostatic

open Tracing Tracing.Traced Runs

/-- A visit of a single record: one read or write of `allocators[index]`. -/
def Event.visits : Event → Nat
  | .access _ => 1
  | _ => 0

/-! ### Records in use -/

/-- One for a record in use. -/
def DsAllocator.used (record : DsAllocator) : Nat :=
  if record.allocationStatus = .notUsed then 0 else 1

/-- The number of records in use. -/
def inUse (c : Config) (s : DynostaticBuffer) : Nat :=
  ∑ index ∈ Finset.range c.maxAllocationCount, (s.allocators index).used

section InUse

variable {c : Config} {s : DynostaticBuffer}

theorem DsAllocator.used_le (record : DsAllocator) : record.used ≤ 1 := by
  unfold DsAllocator.used
  split <;> omega

theorem DsAllocator.used_of_ne {record : DsAllocator} (used : record.allocationStatus ≠ .notUsed) :
    record.used = 1 :=
  if_neg used

theorem inUse_le (c : Config) (s : DynostaticBuffer) : inUse c s ≤ c.maxAllocationCount := by
  have ones := Finset.card_eq_sum_ones (Finset.range c.maxAllocationCount)
  rw [Finset.card_range] at ones
  exact (Finset.sum_le_sum fun index _ => DsAllocator.used_le _).trans_eq ones.symm

/-- A write to the table. -/
theorem inUse_update {index : Nat} (inside : index < c.maxAllocationCount) (record : DsAllocator)
    {t : DynostaticBuffer} (written : t.allocators = Function.update s.allocators index record) :
    (s.allocators index).used + inUse c t = record.used + inUse c s := by
  have member := Finset.mem_range.mpr inside
  unfold inUse
  rw [written, ← Finset.add_sum_erase _ _ member, ← Finset.add_sum_erase _ _ member,
    Function.update_self]
  have others : ∀ other ∈ (Finset.range c.maxAllocationCount).erase index,
      (Function.update s.allocators index record other).used = (s.allocators other).used := by
    intro other listed
    rw [Function.update_of_ne (Finset.ne_of_mem_erase listed)]
  rw [Finset.sum_congr rfl others]
  omega

theorem inUse_congr {t : DynostaticBuffer} (same : t.allocators = s.allocators) :
    inUse c t = inUse c s := by
  unfold inUse
  rw [same]

theorem inUse_zero (same : s.allocators = fun _ => DsAllocator.zero) : inUse c s = 0 := by
  unfold inUse
  rw [same]
  exact Finset.sum_const_zero

end InUse

/-! ### Scans -/

section Scans

variable {q : Placement} {s : DynostaticBuffer}

@[simp] theorem cost_readAllocator (s : DynostaticBuffer) (index : Nat) :
    (readAllocator s index).cost Event.visits = 1 := rfl

@[simp] theorem cost_sizeAdd (c : Config) (first second : Nat) :
    (sizeAdd c first second).cost Event.visits = 0 := rfl

@[simp] theorem cost_sizeSub (c : Config) (first second : Nat) :
    (sizeSub c first second).cost Event.visits = 0 := rfl

@[simp] theorem cost_dsAlignUp (c : Config) (size : Nat) :
    (dsAlignUp c size).cost Event.visits = 0 := rfl

@[simp] theorem cost_dsMemset (s : DynostaticBuffer) (dest destSize count : Nat) (byte : UInt8) :
    (dsMemset q s dest destSize byte count).cost Event.visits = 0 := rfl

@[simp] theorem cost_dsZero (s : DynostaticBuffer) (dest destSize count : Nat) :
    (dsZero q s dest destSize count).cost Event.visits = 0 := rfl

@[simp] theorem cost_dsMemcpy (s : DynostaticBuffer) (outside : Nat → UInt8)
    (dest destSize src count : Nat) :
    (dsMemcpy q s outside dest destSize src count).cost Event.visits = 0 := rfl

@[simp] theorem cost_dsZeroAllocators (s : DynostaticBuffer) :
    (dsZeroAllocators q s).cost Event.visits = 0 := rfl

theorem cost_findLoop_le (offset allocIdx offsetInBlock rest iter : Nat) :
    (findLoop q s offset allocIdx offsetInBlock rest iter).cost Event.visits ≤ rest := by
  induction rest generalizing iter with
  | zero => exact le_rfl
  | succ rest ih =>
    have later := ih (iter + 1)
    simp only [findLoop, cost_bind, cost_ite, cost_pure, cost_readAllocator, cost_sizeSub]
    split_ifs <;> omega

/-- What the loop finds is a live record. -/
theorem findLoop_live {offset allocIdx offsetInBlock : Nat} (rest iter : Nat)
    (ok : (findLoop q s offset allocIdx offsetInBlock rest iter).value.code = .ok) :
    (findLoop q s offset allocIdx offsetInBlock rest iter).value.allocIdx < iter + rest ∧
      (s.allocators (findLoop q s offset allocIdx offsetInBlock rest
        iter).value.allocIdx).allocationStatus = .allocated := by
  induction rest generalizing iter with
  | zero => cases ok
  | succ rest ih =>
    simp only [findLoop, value_bind, value_ite, value_pure] at ok ⊢
    split_ifs at ok ⊢ with unused inside parked
    · exact ⟨by dsimp only; omega, not_not.mp parked⟩
    · obtain ⟨below, live⟩ := ih (iter + 1) ok
      exact ⟨by omega, live⟩

theorem cost_containing_le (memory allocIdx offsetInBlock : Nat) :
    (dsFindAllocatorContaining q s memory allocIdx offsetInBlock).cost Event.visits ≤
      q.maxAllocationCount := by
  have loop := cost_findLoop_le (q := q) (s := s) ((memory - q.base) % 2 ^ q.sizeBits) allocIdx
    offsetInBlock q.maxAllocationCount 0
  have unseen : Event.visits (.sub memory q.base) = 0 := rfl
  simp only [dsFindAllocatorContaining, cost_bind, cost_ite, cost_pure, cost_emit, unseen]
  split_ifs <;> omega

theorem cost_forMemory_le (memory allocIdx : Nat) :
    (dsFindAllocatorForMemory q s memory allocIdx).cost Event.visits ≤ q.maxAllocationCount := by
  have looked := cost_containing_le (q := q) (s := s) memory allocIdx 0
  simp only [dsFindAllocatorForMemory, cost_bind, cost_ite, cost_pure]
  split_ifs <;> omega

/-- `NULL` is below the arena. -/
theorem cost_forMemory_null (allocIdx : Nat) :
    (dsFindAllocatorForMemory q s 0 allocIdx).cost Event.visits = 0 := by
  have below := q.base_pos
  simp only [dsFindAllocatorForMemory, dsFindAllocatorContaining, cost_bind, cost_ite, cost_pure,
    if_pos below]
  split_ifs <;> rfl

theorem containing_live {memory allocIdx offsetInBlock : Nat}
    (ok : (dsFindAllocatorContaining q s memory allocIdx offsetInBlock).value.code = .ok) :
    (dsFindAllocatorContaining q s memory allocIdx offsetInBlock).value.allocIdx <
        q.maxAllocationCount ∧
      (s.allocators (dsFindAllocatorContaining q s memory allocIdx
        offsetInBlock).value.allocIdx).allocationStatus = .allocated := by
  simp only [dsFindAllocatorContaining, value_bind, value_ite, value_pure] at ok ⊢
  split_ifs at ok ⊢
  obtain ⟨below, live⟩ := findLoop_live _ _ ok
  exact ⟨by omega, live⟩

theorem forMemory_live {memory allocIdx : Nat}
    (ok : (dsFindAllocatorForMemory q s memory allocIdx).value.code = .ok) :
    (dsFindAllocatorForMemory q s memory allocIdx).value.allocIdx < q.maxAllocationCount ∧
      (s.allocators (dsFindAllocatorForMemory q s memory
        allocIdx).value.allocIdx).allocationStatus = .allocated := by
  simp only [dsFindAllocatorForMemory, value_bind, value_ite, value_pure] at ok ⊢
  split_ifs at ok ⊢
  exact containing_live ok

theorem cost_scanForReuse_le (size rest iter : Nat) :
    (scanForReuse s size rest iter).cost Event.visits ≤ rest := by
  induction rest generalizing iter with
  | zero => exact le_rfl
  | succ rest ih =>
    have later := ih (iter + 1)
    simp only [scanForReuse, cost_bind, cost_ite, cost_pure, cost_readAllocator]
    split_ifs <;> omega

/-- The scan ends at a parked record, or in the table. -/
theorem scanForReuse_exit (size rest iter : Nat) :
    (∀ index, (scanForReuse s size rest iter).value = .reuse index →
      index < iter + rest ∧ (s.allocators index).allocationStatus = .free) ∧
    ∀ index, (scanForReuse s size rest iter).value = .stop index → index ≤ iter + rest := by
  induction rest generalizing iter with
  | zero =>
    refine ⟨fun index reuse => ?_, fun index stop => ?_⟩
    · cases reuse
    · cases stop
      exact le_rfl
  | succ rest ih =>
    have later := ih (iter + 1)
    rw [show iter + 1 + rest = iter + (rest + 1) by omega] at later
    simp only [scanForReuse, value_bind, value_ite, value_pure]
    split_ifs with parked fits unused
    · refine ⟨fun index reuse => ?_, fun index stop => ?_⟩
      · cases reuse
        exact ⟨by omega, parked⟩
      · cases stop
    · exact later
    · refine ⟨fun index reuse => ?_, fun index stop => ?_⟩
      · cases reuse
      · cases stop
        omega
    · exact later

end Scans

/-! ### What each function pays -/

section Pays

variable {q : Placement} {s : DynostaticBuffer}

/-- The credits of the records in use. -/
def credits (c : Config) (s : DynostaticBuffer) : Nat := 3 * inUse c s

theorem credits_congr {c : Config} {t : DynostaticBuffer} (same : t.allocators = s.allocators) :
    credits c t = credits c s :=
  congrArg (3 * ·) (inUse_congr same)

/-- **A record that is rolled back pays for its visits**, and for the look at the record below. -/
theorem pays_reclaimRecord {c : Config} {index : Nat} (inside : index < c.maxAllocationCount)
    (used : (s.allocators index).used = 1) :
    Pays Event.visits (reclaimRecord s index) (credits c s) fun t => credits c t + 1 := by
  have dropped := inUse_update (s := s) (t := (reclaimRecord s index).value) inside
    DsAllocator.zero rfl
  rw [used, show DsAllocator.zero.used = 0 from rfl] at dropped
  show 2 + (3 * inUse c (reclaimRecord s index).value + 1) ≤ 3 * inUse c s
  omega

/-- **The rollback is paid for by the records it clears.** -/
theorem pays_reclaimTrailing {c : Config} (index : Nat) (inside : index < c.maxAllocationCount)
    (used : (s.allocators index).used = 1) :
    Pays Event.visits (dsReclaimTrailing s index) (credits c s) (credits c) := by
  induction index generalizing s with
  | zero => exact Nat.le_trans (Nat.le_succ _) (pays_reclaimRecord inside used)
  | succ index ih =>
    refine .bind _ (pays_reclaimRecord inside used) ?_
    refine .spend 0 (credits c _ + 1) le_rfl le_rfl ?_
    refine .spend 1 (credits c _) le_rfl le_rfl ?_
    refine .ite (fun _ => pays_pure le_rfl) fun parked => ?_
    have free : ((reclaimRecord s (index + 1)).value.allocators index).allocationStatus = .free :=
      not_not.mp parked
    exact ih (Nat.lt_of_succ_lt inside) (DsAllocator.used_of_ne (by rw [free]; nofun))

/-- A write to a record in use. -/
theorem pays_writeAllocator_used {c : Config} {index : Nat} (inside : index < c.maxAllocationCount)
    (used : (s.allocators index).used = 1) (record : DsAllocator) :
    Pays Event.visits (writeAllocator s index record) (credits c s + 1) (credits c) := by
  have kept := inUse_update (s := s) (t := (writeAllocator s index record).value) inside record rfl
  have least := record.used_le
  show 1 + 3 * inUse c (writeAllocator s index record).value ≤ 3 * inUse c s + 1
  omega

/-- A write to any record. -/
theorem pays_writeAllocator {c : Config} {index : Nat} (inside : index < c.maxAllocationCount)
    (record : DsAllocator) :
    Pays Event.visits (writeAllocator s index record) (credits c s + 4) (credits c) := by
  have kept := inUse_update (s := s) (t := (writeAllocator s index record).value) inside record rfl
  have least := record.used_le
  show 1 + 3 * inUse c (writeAllocator s index record).value ≤ 3 * inUse c s + 4
  omega

theorem scrubRecord_frame (record : DsAllocator) :
    (scrubRecord q s record).cost Event.visits = 0 ∧
      (scrubRecord q s record).value.allocators = s.allocators := by
  unfold scrubRecord
  split <;> exact ⟨rfl, rfl⟩

/-- Releasing a record takes two visits, or is paid for by what is rolled back. -/
theorem pays_freeRecord {index : Nat} (inside : index < q.maxAllocationCount)
    (live : (s.allocators index).allocationStatus = .allocated) :
    Pays Event.visits (freeRecord q s index) (credits q.toConfig s + 2)
      (credits q.toConfig) := by
  have used := DsAllocator.used_of_ne
    (by rw [live]; nofun : (s.allocators index).allocationStatus ≠ .notUsed)
  refine .spend 1 (credits q.toConfig s + 1) (cost_readAllocator s index).le le_rfl ?_
  rw [value_readAllocator]
  obtain ⟨free, same⟩ := scrubRecord_frame (q := q) (s := s) (s.allocators index)
  refine .spend 0 (credits q.toConfig s + 1) free.le le_rfl ?_
  refine .spend 0 (credits q.toConfig s + 1) (cost_sizeAdd _ _ _).le le_rfl ?_
  rw [← same] at used
  rw [← credits_congr same]
  have counted : ∀ released : DynostaticBuffer,
      Pays Event.visits (sizeSub q.toConfig released.usedAllocators 1 >>= fun used =>
        pure { released with usedAllocators := used }) (credits q.toConfig released)
        (credits q.toConfig) :=
    fun released => .spend 0 _ (cost_sizeSub _ _ _).le le_rfl (pays_pure le_rfl)
  refine .ite (fun _ => ?_) fun _ => ?_
  · exact (Pays.bind _ (pays_reclaimTrailing index inside used) (counted _)).mono (Nat.le_succ _)
  · exact .bind _ (pays_writeAllocator_used inside used _) (counted _)

/-- Three credits stay with each record in use; the rest is spent on the way. -/
theorem pays_dsFree (p : BufferArg) (pMemory : Option Nat) :
    Pays Event.visits (dsFree q s p pMemory)
      (q.maxAllocationCount + 2 + credits q.toConfig s) fun r => credits q.toConfig r.buffer := by
  cases pMemory with
  | none => exact pays_pure (Nat.le_add_left _ _)
  | some memory =>
    refine .ite (fun _ => pays_pure (Nat.le_add_left _ _)) fun _ => ?_
    refine .ite (fun _ => pays_pure (Nat.le_add_left _ _)) fun _ => ?_
    refine .spend q.maxAllocationCount (credits q.toConfig s + 2) (cost_forMemory_le _ _) ?_ ?_
    · omega
    · refine .ite (fun _ => pays_pure (Nat.le_add_right _ _)) fun found => ?_
      obtain ⟨inside, live⟩ := forMemory_live (not_not.mp found)
      exact .bind _ (pays_freeRecord inside live) (pays_pure le_rfl)

/-- A record that is reused is in use already. -/
theorem pays_reuseRecord {c : Config} {index : Nat} (inside : index < c.maxAllocationCount)
    (parked : (s.allocators index).allocationStatus = .free) :
    Pays Event.visits (reuseRecord c s index) (credits c s + 2) fun ret =>
      credits c ret.buffer := by
  have used := DsAllocator.used_of_ne
    (by rw [parked]; nofun : (s.allocators index).allocationStatus ≠ .notUsed)
  refine .spend 1 (credits c s + 1) (cost_readAllocator s index).le le_rfl ?_
  refine .bind _ (pays_writeAllocator_used inside used _) ?_
  exact .spend 0 _ (cost_sizeAdd _ _ _).le le_rfl (pays_pure le_rfl)

/-- A record that is put in use gets three credits. -/
theorem pays_bumpRecord {c : Config} {alignedSize iter allocIdx : Nat}
    (inside : iter ≤ c.maxAllocationCount) :
    Pays Event.visits (bumpRecord c s alignedSize iter allocIdx) (credits c s + 4) fun ret =>
      credits c ret.buffer := by
  refine .ite (fun _ => pays_pure (Nat.le_add_right _ _)) fun slot => ?_
  refine .spend 0 (credits c s + 4) (cost_sizeSub _ _ _).le le_rfl ?_
  refine .ite (fun _ => pays_pure (Nat.le_add_right _ _)) fun _ => ?_
  refine .bind _ (pays_writeAllocator (Nat.lt_of_le_of_ne inside slot) _) ?_
  refine .spend 0 _ (cost_sizeAdd _ _ _).le le_rfl ?_
  exact .spend 0 _ (cost_sizeAdd _ _ _).le le_rfl (pays_pure le_rfl)

theorem pays_dsGetNewAllocator {c : Config} (size allocIdx : Nat) :
    Pays Event.visits (dsGetNewAllocator c s size allocIdx)
      (c.maxAllocationCount + 4 + credits c s) fun ret => credits c ret.buffer := by
  refine .ite (fun _ => pays_pure (Nat.le_add_left _ _)) fun _ => ?_
  refine .spend 0 (c.maxAllocationCount + 4 + credits c s) (cost_dsAlignUp _ _).le le_rfl ?_
  obtain ⟨reuse, stop⟩ := scanForReuse_exit (s := s) (dsAlignUp c size).value
    c.maxAllocationCount 0
  refine .spend c.maxAllocationCount (credits c s + 4) (cost_scanForReuse_le _ _ _) (by omega) ?_
  rcases exit : (scanForReuse s (dsAlignUp c size).value c.maxAllocationCount 0).value with
    index | index
  · obtain ⟨inside, parked⟩ := reuse index exit
    rw [Nat.zero_add] at inside
    exact (pays_reuseRecord inside parked).mono (by omega)
  · have inside := stop index exit
    rw [Nat.zero_add] at inside
    exact pays_bumpRecord inside

/-- What a `ds_malloc` pays, with the price of its lookup. -/
theorem pays_dsMalloc_of_lookup (p : BufferArg) (memory size : Nat) {lookup : Nat}
    (bound : (dsFindAllocatorForMemory q s memory 0).cost Event.visits ≤ lookup) :
    Pays Event.visits (dsMalloc q s p (some memory) size)
      (lookup + q.maxAllocationCount + 5 + credits q.toConfig s) fun r =>
        credits q.toConfig r.buffer := by
  refine .ite (fun _ => pays_pure (Nat.le_add_left _ _)) fun _ => ?_
  refine .ite (fun _ => pays_pure (Nat.le_add_left _ _)) fun _ => ?_
  refine .ite (fun _ => pays_pure (Nat.le_add_left _ _)) fun _ => ?_
  refine .spend lookup (q.maxAllocationCount + 4 + credits q.toConfig s + 1) bound (by omega) ?_
  refine .ite (fun _ => pays_pure ((Nat.le_add_left _ _).trans (Nat.le_succ _))) fun _ => ?_
  refine .bind _ ((pays_dsGetNewAllocator _ _).frame 1) ?_
  refine .ite (fun _ => pays_pure (Nat.le_add_right _ _)) fun _ => ?_
  exact .spend 1 _ (cost_readAllocator _ _).le le_rfl (pays_pure le_rfl)

theorem pays_dsMalloc (p : BufferArg) (pMemory : Option Nat) (size : Nat) :
    Pays Event.visits (dsMalloc q s p pMemory size)
      (2 * q.maxAllocationCount + 5 + credits q.toConfig s) fun r =>
        credits q.toConfig r.buffer := by
  cases pMemory with
  | none => exact pays_pure (Nat.le_add_left _ _)
  | some memory =>
    exact (pays_dsMalloc_of_lookup p memory size (cost_forMemory_le _ _)).mono (by omega)

theorem pays_dsCalloc (p : BufferArg) (pMemory : Option Nat) (len sizeOfElem : Nat) :
    Pays Event.visits (dsCalloc q s p pMemory len sizeOfElem)
      (2 * q.maxAllocationCount + 5 + credits q.toConfig s) fun r =>
        credits q.toConfig r.buffer := by
  cases pMemory with
  | none => exact pays_pure (Nat.le_add_left _ _)
  | some memory =>
    refine .ite (fun _ => pays_pure (Nat.le_add_left _ _)) fun _ => ?_
    refine .ite (fun _ => pays_pure (Nat.le_add_left _ _)) fun _ => ?_
    refine .ite (fun _ => pays_pure (Nat.le_add_left _ _)) fun _ => ?_
    refine .bind _ (pays_dsMalloc p (some memory) _) ?_
    refine .ite (fun _ => pays_pure le_rfl) fun _ => ?_
    refine .spend 0 _ (cost_dsAlignUp _ _).le le_rfl ?_
    exact .spend 0 _ (cost_dsZero _ _ _ _).le le_rfl (pays_pure le_rfl)

/-- A move is a `ds_malloc` into a `NULL` variable and a `ds_free`. -/
theorem pays_moveBlock (memory size alignedSize capacity : Nat) :
    Pays Event.visits (moveBlock q s memory size alignedSize capacity)
      (2 * q.maxAllocationCount + 7 + credits q.toConfig s) fun r =>
        credits q.toConfig r.buffer := by
  have taken := (pays_dsMalloc_of_lookup (q := q) (s := s) .self 0 size
    (cost_forMemory_null 0).le).frame (q.maxAllocationCount + 2)
  refine .bind _ (taken.mono (by omega)) ?_
  refine .ite (fun _ => pays_pure (Nat.le_add_right _ _)) fun _ => ?_
  refine .spend 0 _ (cost_dsMemcpy _ _ _ _ _ _).le le_rfl ?_
  refine .bind _ ((pays_dsFree .self (some memory)).mono (Nat.add_comm _ _).le) ?_
  exact .spend 0 _ le_rfl le_rfl (pays_pure le_rfl)

theorem pays_resizeRecord {memory size index : Nat} (inside : index < q.maxAllocationCount)
    (live : (s.allocators index).allocationStatus = .allocated) :
    Pays Event.visits (resizeRecord q s memory size index)
      (2 * q.maxAllocationCount + 8 + credits q.toConfig s) fun r =>
        credits q.toConfig r.buffer := by
  have used := DsAllocator.used_of_ne
    (by rw [live]; nofun : (s.allocators index).allocationStatus ≠ .notUsed)
  have moved := fun aligned capacity =>
    pays_moveBlock (q := q) (s := s) memory size aligned capacity
  let left := 2 * q.maxAllocationCount + 7 + credits q.toConfig s
  refine .spend 1 left (cost_readAllocator s index).le (by omega) ?_
  refine .spend 0 left (cost_dsAlignUp _ _).le le_rfl ?_
  refine .ite (fun _ => pays_pure (Nat.le_add_left _ _)) fun _ => ?_
  refine .spend 0 left (cost_sizeAdd _ _ _).le le_rfl ?_
  refine .ite (fun _ => ?_) fun _ => moved _ _
  refine .spend 0 left (cost_sizeSub _ _ _).le le_rfl ?_
  refine .ite (fun _ => ?_) fun _ => moved _ _
  refine .spend 0 (credits q.toConfig s + 1) (cost_sizeAdd _ _ _).le ?_ ?_
  · show credits q.toConfig s + 1 + 0 ≤ 2 * q.maxAllocationCount + 7 + credits q.toConfig s
    omega
  · exact .bind (credits q.toConfig)
      (pays_writeAllocator_used (s := { s with dataHead := _ }) inside used _) (pays_pure le_rfl)

theorem pays_dsRealloc (p : BufferArg) (pMemory : Option Nat) (size : Nat) :
    Pays Event.visits (dsRealloc q s p pMemory size)
      (3 * q.maxAllocationCount + 8 + credits q.toConfig s) fun r =>
        credits q.toConfig r.buffer := by
  cases pMemory with
  | none => exact pays_pure (Nat.le_add_left _ _)
  | some memory =>
    refine .ite (fun _ => pays_pure (Nat.le_add_left _ _)) fun _ => ?_
    refine .ite (fun _ => pays_pure (Nat.le_add_left _ _)) fun _ => ?_
    refine .ite (fun _ => (pays_dsFree p (some memory)).mono (by omega)) fun _ => ?_
    refine .ite (fun _ => (pays_dsMalloc p (some memory) size).mono (by omega)) fun _ => ?_
    refine .ite (fun _ => pays_pure (Nat.le_add_left _ _)) fun _ => ?_
    refine .spend q.maxAllocationCount (2 * q.maxAllocationCount + 8 + credits q.toConfig s)
      (cost_forMemory_le _ _) (by omega) ?_
    refine .ite (fun _ => pays_pure (Nat.le_add_left _ _)) fun found => ?_
    obtain ⟨inside, live⟩ := forMemory_live (not_not.mp found)
    exact pays_resizeRecord inside live

theorem cost_usageLoop_le (rest iter usage : Nat) :
    (usageLoop q s rest iter usage).cost Event.visits ≤ rest := by
  induction rest generalizing iter usage with
  | zero => exact le_rfl
  | succ rest ih =>
    simp only [usageLoop, cost_bind, cost_ite, cost_readAllocator, cost_sizeAdd]
    have skipped := ih (iter + 1) usage
    have added := ih (iter + 1)
      (sizeAdd q.toConfig usage (readAllocator s iter).value.size).value
    split_ifs <;> omega

theorem cost_maxSizeLoop_le (rest iter maxSize : Nat) :
    (maxSizeLoop s rest iter maxSize).cost Event.visits ≤ rest := by
  induction rest generalizing iter maxSize with
  | zero => exact le_rfl
  | succ rest ih =>
    simp only [maxSizeLoop, cost_bind, cost_ite, cost_pure, cost_readAllocator]
    have smaller := ih (iter + 1) maxSize
    have larger := ih (iter + 1) (readAllocator s iter).value.size
    split_ifs <;> omega

theorem pays_dsGetMemoryUsage (p : BufferArg) (out : Option Nat) :
    Pays Event.visits (dsGetMemoryUsage q s p out)
      (q.maxAllocationCount + credits q.toConfig s) fun r => credits q.toConfig r.buffer := by
  refine .ite (fun _ => pays_pure (Nat.le_add_left _ _)) fun _ => ?_
  refine .ite (fun _ => pays_pure (Nat.le_add_left _ _)) fun _ => ?_
  refine .spend q.maxAllocationCount (credits q.toConfig s) (cost_usageLoop_le _ _ _)
    (Nat.add_comm _ _).le ?_
  exact .ite (fun _ => pays_pure le_rfl) fun _ => pays_pure le_rfl

theorem pays_dsGetMaxNewAllocationSize (p : BufferArg) (out : Option Nat) :
    Pays Event.visits (dsGetMaxNewAllocationSize q s p out)
      (q.maxAllocationCount + credits q.toConfig s) fun r => credits q.toConfig r.buffer := by
  refine .ite (fun _ => pays_pure (Nat.le_add_left _ _)) fun _ => ?_
  refine .ite (fun _ => pays_pure (Nat.le_add_left _ _)) fun _ => ?_
  refine .ite (fun _ => ?_) fun _ => pays_pure (Nat.le_add_left _ _)
  refine .spend q.maxAllocationCount (credits q.toConfig s) (cost_maxSizeLoop_le _ _ _)
    (Nat.add_comm _ _).le ?_
  refine .ite (fun _ => ?_) fun _ => pays_pure le_rfl
  have bump : (bumpMax q s).cost Event.visits = 0 := by
    simp only [bumpMax, cost_bind, cost_ite, cost_pure, cost_sizeSub]
    split <;> rfl
  exact .spend 0 _ bump.le le_rfl (pays_pure le_rfl)

/-- A safe write, from its lookup on. -/
theorem pays_lookup {dst : Nat} {write : DsAllocator → Lookup → Traced Event Reply}
    (pays : ∀ record found, Pays Event.visits (write record found) (credits q.toConfig s)
      fun r => credits q.toConfig r.buffer) :
    Pays Event.visits (dsFindAllocatorContaining q s dst 0 0 >>= fun found =>
      if found.code ≠ .ok then pure ⟨found.code, s, none⟩
      else readAllocator s found.allocIdx >>= fun record => write record found)
      (q.maxAllocationCount + 1 + credits q.toConfig s) fun r => credits q.toConfig r.buffer := by
  refine .spend q.maxAllocationCount (credits q.toConfig s + 1) (cost_containing_le _ _ _)
    (by omega) ?_
  refine .ite (fun _ => pays_pure (Nat.le_succ _)) fun _ => ?_
  exact .spend 1 (credits q.toConfig s) (cost_readAllocator _ _).le le_rfl (pays _ _)

theorem pays_dsSafeMemoryCopy (p : BufferArg) (outside : Nat → UInt8) (dst src count : Nat) :
    Pays Event.visits (dsSafeMemoryCopy q s p outside dst src count)
      (q.maxAllocationCount + 1 + credits q.toConfig s) fun r => credits q.toConfig r.buffer := by
  refine .ite (fun _ => pays_pure (Nat.le_add_left _ _)) fun _ => ?_
  refine .ite (fun _ => pays_pure (Nat.le_add_left _ _)) fun _ => ?_
  refine pays_lookup fun record found => ?_
  refine .ite (fun _ => pays_pure le_rfl) fun _ => ?_
  refine .spend 0 _ (cost_sizeSub _ _ _).le le_rfl ?_
  refine .ite (fun _ => pays_pure le_rfl) fun _ => ?_
  refine .spend 0 _ (cost_sizeSub _ _ _).le le_rfl ?_
  exact .spend 0 _ (cost_dsMemcpy _ _ _ _ _ _).le le_rfl (pays_pure le_rfl)

theorem pays_dsSafeMemorySet (p : BufferArg) (dst : Nat) (value : Int) (count : Nat) :
    Pays Event.visits (dsSafeMemorySet q s p dst value count)
      (q.maxAllocationCount + 1 + credits q.toConfig s) fun r => credits q.toConfig r.buffer := by
  refine .ite (fun _ => pays_pure (Nat.le_add_left _ _)) fun _ => ?_
  refine .ite (fun _ => pays_pure (Nat.le_add_left _ _)) fun _ => ?_
  refine pays_lookup fun record found => ?_
  refine .ite (fun _ => pays_pure le_rfl) fun _ => ?_
  refine .spend 0 _ (cost_sizeSub _ _ _).le le_rfl ?_
  refine .ite (fun _ => pays_pure le_rfl) fun _ => ?_
  refine .spend 0 _ (cost_sizeSub _ _ _).le le_rfl ?_
  exact .spend 0 _ (cost_dsMemset _ _ _ _ _).le le_rfl (pays_pure le_rfl)

/-- A wiped table holds no credits. -/
theorem credits_zero {c : Config} {t : DynostaticBuffer}
    (wiped : t.allocators = fun _ => DsAllocator.zero) : credits c t = 0 := by
  rw [credits, inUse_zero wiped]

theorem pays_dsInitializeAllocation (p : BufferArg) :
    Pays Event.visits (dsInitializeAllocation q s p) (credits q.toConfig s) fun r =>
      credits q.toConfig r.buffer := by
  refine .ite (fun _ => pays_pure le_rfl) fun _ => ?_
  refine .ite (fun _ => pays_pure le_rfl) fun _ => ?_
  refine .spend 0 _ (cost_dsZero _ _ _ _).le le_rfl ?_
  refine .spend 0 _ (cost_dsZeroAllocators _).le le_rfl (pays_pure ?_)
  exact (credits_zero rfl).trans_le (Nat.zero_le _)

theorem pays_dsDeinitAllocation (p : BufferArg) :
    Pays Event.visits (dsDeinitAllocation q s p) (credits q.toConfig s) fun r =>
      credits q.toConfig r.buffer := by
  refine .ite (fun _ => pays_pure le_rfl) fun _ => ?_
  refine .ite (fun _ => pays_pure le_rfl) fun _ => ?_
  refine .spend 0 _ (cost_dsZero _ _ _ _).le le_rfl ?_
  refine .spend 0 _ (cost_dsZeroAllocators _).le le_rfl (pays_pure ?_)
  exact (credits_zero rfl).trans_le (Nat.zero_le _)

theorem pays_dsGetFreeAllocatorCnt (p : BufferArg) (out : Option Nat) :
    Pays Event.visits (dsGetFreeAllocatorCnt q s p out) (credits q.toConfig s) fun r =>
      credits q.toConfig r.buffer := by
  refine .ite (fun _ => pays_pure le_rfl) fun _ => ?_
  refine .ite (fun _ => pays_pure le_rfl) fun _ => ?_
  exact .spend 0 _ (cost_sizeSub _ _ _).le le_rfl (pays_pure le_rfl)

end Pays

/-! ### Calls and runs -/

/-- The visits a call of the function is charged with, for a number of records. -/
def ApiFunction.budget (records : Nat) : ApiFunction → Nat
  | .initializeAllocation => records
  | .malloc => 2 * records + 5
  | .free => records + 2
  | .calloc => 2 * records + 5
  | .realloc => 3 * records + 8
  | .getMemoryUsage => records
  | .getMaxNewAllocationSize => records
  | .getFreeAllocatorCnt => 0
  | .deinitAllocation => records
  | .safeMemoryCopy => records + 1
  | .safeMemorySet => records + 1

/-- The records that `ds_zero` writes in a call with this code: the whole table, where the call
begins or ends the instance's life. -/
def Op.wipes (records : Nat) (code : DsErrCode) : Op → Nat
  | .initializeAllocation _ => if code = .ok then records else 0
  | .deinitAllocation _ => if code = .ok then records else 0
  | _ => 0

/-- The records an action visits. -/
def visits (q : Placement) (s : DynostaticBuffer) : Action → Nat
  | .call op =>
    (call q s op).cost Event.visits + op.wipes q.maxAllocationCount (reply q s op).code
  | .store _ _ => 0

/-- What the action is charged with. -/
def Action.budget (records : Nat) : Action → Nat
  | .call op => op.function.budget records
  | .store _ _ => 0

theorem Op.wipes_le (records : Nat) (code : DsErrCode) (op : Op) :
    op.wipes records code ≤ records := by
  unfold Op.wipes
  split
  · split
    · exact le_rfl
    · exact Nat.zero_le _
  · split
    · exact le_rfl
    · exact Nat.zero_le _
  · exact Nat.zero_le _

/-- **A call pays from its budget and from the credits of the records.** -/
theorem visits_call_le {q : Placement} {s : DynostaticBuffer} (op : Op) :
    visits q s (.call op) + credits q.toConfig (reply q s op).buffer ≤
      op.function.budget q.maxAllocationCount + credits q.toConfig s := by
  cases op with
  | initializeAllocation p =>
    exact (pays_dsInitializeAllocation p).surcharge (Op.wipes_le _ _ (.initializeAllocation p))
  | malloc p pMemory size => exact pays_dsMalloc p pMemory size
  | free p pMemory => exact pays_dsFree p pMemory
  | calloc p pMemory len sizeOfElem => exact pays_dsCalloc p pMemory len sizeOfElem
  | realloc p pMemory size => exact pays_dsRealloc p pMemory size
  | getMemoryUsage p out => exact pays_dsGetMemoryUsage p out
  | getMaxNewAllocationSize p out => exact pays_dsGetMaxNewAllocationSize p out
  | getFreeAllocatorCnt p out =>
    exact (pays_dsGetFreeAllocatorCnt p out).mono (Nat.le_add_left _ _)
  | deinitAllocation p =>
    exact (pays_dsDeinitAllocation p).surcharge (Op.wipes_le _ _ (.deinitAllocation p))
  | safeMemoryCopy p outside dst src count => exact pays_dsSafeMemoryCopy p outside dst src count
  | safeMemorySet p dst value count => exact pays_dsSafeMemorySet p dst value count

/-- A rollback over the whole table: one `ds_free` makes four visits for each record. The
initialization makes one for each. -/
example :
    visits defaultPlacement
      (run (next defaultPlacement) (freshInstance defaultPlacement zeroBuffer)
        ((List.replicate 10 (.call (.malloc .self (some 0) 4))) ++
          (List.range 9).map fun index => .call (.free .self (some (4096 + 4 * index)))))
      (.call (.free .self (some 4132))) = 40 ∧
    visits defaultPlacement zeroBuffer (.call (.initializeAllocation .self)) = 10 := by
  decide +kernel

end Dynostatic
