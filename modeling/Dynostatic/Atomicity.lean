/-
**Failure atomicity.**

A call that returns an error code leaves the instance and the caller's variable exactly as they were
(`failure_atomicity`). The composite functions earn this in three places, which are results of their
own: once `ds_realloc` holds its new block, the release of the old one succeeds
(`realloc_after_malloc`); once the `ds_malloc` inside `ds_calloc` has succeeded, so does `ds_calloc`
(`calloc_after_malloc`); and no reachable state makes a function return `ERROR_DS_CRITICAL_ERR`
(`reply_code_ne_criticalErr`).
-/

import Dynostatic.Outcome

namespace Dynostatic

open Tracing Tracing.Traced Tiling Rounding Bytes Runs

variable {q : Placement}

/-! ### Failing calls change nothing -/

theorem Outcome.unchanged {layout : Layout q.toConfig} {memory : Nat → UInt8} {op : Op} {r : Reply}
    (outcome : Outcome q layout memory op r) (notOk : r.code ≠ .ok) :
    r.buffer = layout.encode memory ∧ r.cell = op.cell := by
  cases outcome with
  | failed => exact ⟨rfl, rfl⟩
  | _ => exact absurd rfl notOk

theorem Outcome.code_ne_criticalErr {layout : Layout q.toConfig} {memory : Nat → UInt8} {op : Op}
    {r : Reply} (outcome : Outcome q layout memory op r) : r.code ≠ .criticalErr := by
  cases outcome with
  | failed _ notCritical => exact notCritical
  | _ => nofun

theorem reply_unchanged {s : DynostaticBuffer} (formed : WellFormed q s) (op : Op)
    (notOk : (reply q s op).code ≠ .ok) :
    (reply q s op).buffer = s ∧ (reply q s op).cell = op.cell := by
  rcases formed with raw | ⟨layout, memory, rfl⟩
  · rcases call_uninitialized (q := q) raw op with ⟨code, -, -, yields⟩ | ⟨-, yields⟩
    · unfold reply
      rw [yields.value]
      exact ⟨rfl, rfl⟩
    · unfold reply at notOk
      rw [yields.value] at notOk
      exact absurd rfl notOk
  · exact (reply_outcome layout memory op).unchanged notOk

/-- **`ERROR_DS_CRITICAL_ERR` is never returned.** -/
theorem reply_code_ne_criticalErr {s : DynostaticBuffer} (formed : WellFormed q s) (op : Op) :
    (reply q s op).code ≠ .criticalErr := by
  rcases formed with raw | ⟨layout, memory, rfl⟩
  · rcases call_uninitialized (q := q) raw op with ⟨code, -, notCritical, yields⟩ | ⟨-, yields⟩
    · unfold reply
      rw [yields.value]
      exact notCritical
    · unfold reply
      rw [yields.value]
      simp
  · exact (reply_outcome layout memory op).code_ne_criticalErr

/-! ### After the inner `ds_malloc` -/

/-- The instance between the copy and the release of the old block in `ds_realloc`. -/
def reallocCopied (q : Placement) (s : DynostaticBuffer) (p size capacity : Nat) :
    DynostaticBuffer :=
  let new := reply q s (.malloc .self (some 0) size)
  (dsMemcpy q new.buffer (fun _ => 0) (new.cell.getD 0) (dsAlignUp q.toConfig size).value p
    capacity).value

/-- On an initialized instance a successful `ds_malloc` found room. -/
theorem room_of_malloc {layout : Layout q.toConfig} {memory : Nat → UInt8} {p size : Nat}
    (ok : (reply q (layout.encode memory) (.malloc .self (some p) size)).code = .ok) :
    0 < size ∧ size ≤ q.maxAllocationSize ∧ blockAt q layout.blocks p = none ∧
      Room q.toConfig layout.blocks (roundUp q.alignment size) :=
  (dsMalloc_cases layout memory p size).resolve_left fun fails => fails.code_ne_ok ok

/-- **A `ds_realloc` that holds its new block releases the old one.** -/
theorem realloc_after_malloc {s : DynostaticBuffer} (formed : WellFormed q s)
    {p size capacity : Nat} (live : LiveBlock q s p capacity)
    (more : capacity < (dsAlignUp q.toConfig size).value)
    (ok : (reply q s (.malloc .self (some 0) size)).code = .ok) :
    (reply q (reallocCopied q s p size capacity) (.free .self (some p))).code = .ok := by
  obtain ⟨layout, memory, rfl⟩ := formed.encoded live.1
  obtain ⟨positive, small, fresh, room⟩ := room_of_malloc ok
  obtain ⟨index, found, rfl⟩ := live.index
  obtain ⟨after, target, placed, taken⟩ :=
    yields_dsMalloc_placed layout memory fresh positive small room
  have rounded : (dsAlignUp q.toConfig size).value = roundUp q.alignment size :=
    (yields_dsAlignUp small).value
  rw [rounded] at more
  have copied : reallocCopied q (layout.encode memory) (q.base + start layout.blocks index) size
      capacity = after.encode (blit memory (start after.blocks target) capacity
        fun i => memory (start layout.blocks index + i)) := by
    show (dsMemcpy q (dsMalloc q _ .self (some 0) size).value.buffer _
      ((dsMalloc q _ .self (some 0) size).value.cell.getD 0) _ _ _).value = _
    rw [taken.value, rounded]
    exact (yields_moveCopy found placed more).value
  rw [copied]
  exact congrArg Reply.code (yields_moveFree found placed _).value

/-- **A `ds_realloc` whose `ds_malloc` would succeed succeeds.** -/
theorem realloc_of_malloc {s : DynostaticBuffer} (formed : WellFormed q s) {p size capacity : Nat}
    (live : LiveBlock q s p capacity)
    (ok : (reply q s (.malloc .self (some 0) size)).code = .ok) :
    (reply q s (.realloc .self (some p) size)).code = .ok := by
  obtain ⟨layout, memory, rfl⟩ := formed.encoded live.1
  obtain ⟨positive, small, -, room⟩ := room_of_malloc ok
  obtain ⟨index, found, rfl⟩ := live.index
  exact resize_ok layout memory found positive small room

/-- **A `ds_calloc` whose `ds_malloc` succeeded succeeds.** -/
theorem calloc_after_malloc {s : DynostaticBuffer} (formed : WellFormed q s)
    {p len sizeOfElem : Nat} (positive : 0 < len)
    (exact : sizeMul q.toConfig len sizeOfElem / len = sizeOfElem)
    (ok : (reply q s (.malloc .self (some p) (sizeMul q.toConfig len sizeOfElem))).code = .ok) :
    (reply q s (.calloc .self (some p) len sizeOfElem)).code = .ok := by
  obtain ⟨layout, memory, rfl⟩ := formed.encoded (initialized_of_ok ok nofun)
  have product : sizeMul q.toConfig len sizeOfElem = len * sizeOfElem :=
    Nat.mod_eq_of_lt ((sizeMul_div_iff positive).mp exact)
  rw [product] at ok
  obtain ⟨nonempty, small, fresh, room⟩ := room_of_malloc ok
  obtain ⟨after, index, -, yields⟩ :=
    yields_dsCalloc_placed layout memory fresh nonempty small room
  exact congrArg Reply.code yields.value

/-! ### The whole API -/

/-- **Failure atomicity**, and the three branches that cannot be taken. -/
theorem failure_atomicity {s : DynostaticBuffer} (reachable : Reachable q s) :
    (∀ op, (reply q s op).code ≠ .ok →
      (reply q s op).buffer = s ∧ (reply q s op).cell = op.cell) ∧
    (∀ p size capacity, LiveBlock q s p capacity → capacity < (dsAlignUp q.toConfig size).value →
      (reply q s (.malloc .self (some 0) size)).code = .ok →
        (reply q (reallocCopied q s p size capacity) (.free .self (some p))).code = .ok ∧
        (reply q s (.realloc .self (some p) size)).code = .ok) ∧
    (∀ p len sizeOfElem, 0 < len → sizeMul q.toConfig len sizeOfElem / len = sizeOfElem →
      (reply q s (.malloc .self (some p) (sizeMul q.toConfig len sizeOfElem))).code = .ok →
        (reply q s (.calloc .self (some p) len sizeOfElem)).code = .ok) ∧
    ∀ p out, (reply q s (.getMemoryUsage p out)).code ≠ .criticalErr := by
  have formed := reachable.wellFormed
  refine ⟨fun op => reply_unchanged formed op, ?_, ?_, ?_⟩
  · intro p size capacity live more ok
    exact ⟨realloc_after_malloc formed live more ok, realloc_of_malloc formed live ok⟩
  · exact fun p len sizeOfElem positive exact ok => calloc_after_malloc formed positive exact ok
  · exact fun p out => reply_code_ne_criticalErr formed _

/-- An interior pointer is handed to `ds_free`. -/
theorem failure_atomicity_interior :
    (reply defaultPlacement (run (next defaultPlacement) zeroBuffer
        [.call (.initializeAllocation .self), .call (.malloc .self (some 0) 10)])
      (.free .self (some 4100))).buffer =
        run (next defaultPlacement) zeroBuffer
          [.call (.initializeAllocation .self), .call (.malloc .self (some 0) 10)] :=
  ((failure_atomicity ⟨zeroBuffer, _, zeroBuffer_fresh, rfl⟩).1 (.free .self (some 4100))
    (by decide)).1

end Dynostatic
