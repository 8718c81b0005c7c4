/-
**The calls of `ds_align_up`.**

The addition in `ds_align_up` is exact for sizes up to `DS_MAX_ALLOCATION_SIZE`, by a static
assertion of the header (`Config.add_mask_lt`). Nothing in the function checks that, so it is for
its callers to see to: `every_guarded` goes through the public functions, and finds the check of the
size before each of the three calls. On the sizes that pass it the mask computes the mathematical
rounding, at every width (`align_up_exact`).
-/

import Dynostatic.Events

namespace Dynostatic

open Tracing Tracing.Traced Rounding

/-- A rounding is of a size that passed the check. -/
def Event.Guarded (c : Config) : Event → Prop
  | .alignUp size => size ≤ c.maxAllocationSize
  | _ => True

theorem Event.Plain.guarded {c : Config} (event : Event) (plain : event.Plain) :
    event.Guarded c := by
  cases event with
  | alignUp => exact plain.elim
  | _ => trivial

variable {q : Placement}

/-- **Every rounding is guarded**, in any state and with any arguments. -/
theorem every_guarded (s : DynostaticBuffer) (op : Op) :
    Every (Event.Guarded q.toConfig) (call q s op) := by
  have plain : ∀ event : Event, event.Plain → event.Guarded q.toConfig := Event.Plain.guarded
  have reports := every_reports plain q s
  cases op with
  | initializeAllocation p => exact (reports p none).2.2.2.1
  | malloc p pMemory size => exact every_dsMalloc plain q s p pMemory id
  | free p pMemory => exact every_dsFree plain q s p pMemory
  | calloc p pMemory len sizeOfElem =>
    exact every_dsCalloc plain q s p pMemory len sizeOfElem fun _ small => small
  | realloc p pMemory size =>
    cases pMemory with
    | none => exact every_pure _ _
    | some memory => exact every_dsRealloc plain id fun _ _ _ _ _ => trivial
  | getMemoryUsage p out => exact (reports p out).1
  | getMaxNewAllocationSize p out => exact (reports p out).2.1
  | getFreeAllocatorCnt p out => exact (reports p out).2.2.1
  | deinitAllocation p => exact (reports p none).2.2.2.2
  | safeMemoryCopy p outside dst src count => exact every_dsSafeMemoryCopy plain fun _ => trivial
  | safeMemorySet p dst value count => exact every_dsSafeMemorySet plain q s p dst value count

/-- **`ds_align_up` is exact wherever it is called.** In every build, a call of any public function
on any instance rounds only sizes up to `DS_MAX_ALLOCATION_SIZE`. There the masked sum is the least
multiple of the alignment that is no smaller, is no larger than that maximum either, grows with the
size, and is left as it is by another rounding. -/
theorem align_up_exact (q : Placement) :
    (∀ s op size, .alignUp size ∈ (call q s op).events → size ≤ q.maxAllocationSize) ∧
    ∀ size ≤ q.maxAllocationSize,
      IsLeast {bound | q.alignment ∣ bound ∧ size ≤ bound} (dsAlignUp q.toConfig size).value ∧
      (dsAlignUp q.toConfig size).value ≤ q.maxAllocationSize ∧
      (∀ larger, size ≤ larger → larger ≤ q.maxAllocationSize →
        (dsAlignUp q.toConfig size).value ≤ (dsAlignUp q.toConfig larger).value) ∧
      (dsAlignUp q.toConfig (dsAlignUp q.toConfig size).value).value =
        (dsAlignUp q.toConfig size).value := by
  have rounds : ∀ size ≤ q.maxAllocationSize,
      (dsAlignUp q.toConfig size).value = roundUp q.alignment size :=
    fun size small => (yields_dsAlignUp small).value
  refine ⟨fun s op size member => every_guarded s op _ member, fun size small => ?_⟩
  have bounded : roundUp q.alignment size ≤ q.maxAllocationSize := roundUp_le_maxSize small
  rw [rounds size small]
  refine ⟨roundUp_isLeast q.alignment_pos size, bounded, fun larger ordered small' => ?_, ?_⟩
  · rw [rounds larger small']
    exact roundUp_mono q.alignment_pos ordered
  · rw [rounds _ bounded]
    exact roundUp_of_dvd q.alignment_pos (dvd_roundUp q.alignment size)

end Dynostatic
