/-
**Runs of an instance.**

An `Op` is a call of one public function with its arguments, an `Action` is a call or a store the
client makes into the arena by itself. `next` is the effect of an action on the instance, and a run
is a list of actions (`Lib/Runs.lean`). A state is `Reachable` when some run leads to it from a
structure whose `init_magic` is not `DS_MAGIC_NUMBER`; its other fields may hold anything.

The client's stores are not restricted here: they may hit bytes of no block. Where a property needs
a client that writes only to its own blocks, that is a guard on the run.
-/

import Dynostatic.Api
import Dynostatic.Lib.Runs

namespace Dynostatic

open Tracing Tracing.Traced Runs

/-- A call of a public function. The pointer to the caller's variable is `none` for `NULL`, and
otherwise the content of the variable. -/
inductive Op where
  | initializeAllocation (pDsBuffer : BufferArg)
  | malloc (pDsBuffer : BufferArg) (pMemory : Option Nat) (size : Nat)
  | free (pDsBuffer : BufferArg) (pMemory : Option Nat)
  | calloc (pDsBuffer : BufferArg) (pMemory : Option Nat) (len sizeOfElem : Nat)
  | realloc (pDsBuffer : BufferArg) (pMemory : Option Nat) (size : Nat)
  | getMemoryUsage (pDsBuffer : BufferArg) (pMemoryUsage : Option Nat)
  | getMaxNewAllocationSize (pDsBuffer : BufferArg) (pMaxNewAllocation : Option Nat)
  | getFreeAllocatorCnt (pDsBuffer : BufferArg) (pFreeAllocators : Option Nat)
  | deinitAllocation (pDsBuffer : BufferArg)
  | safeMemoryCopy (pAllocHolder : BufferArg) (outside : Nat → UInt8)
      (dstMemory srcMemory srcSize : Nat)
  | safeMemorySet (pAllocHolder : BufferArg) (dstMemory : Nat) (valueToSet : Int) (cntToSet : Nat)

/-- The caller's variable before the call. -/
def Op.cell : Op → Option Nat
  | .malloc _ pMemory _ => pMemory
  | .free _ pMemory => pMemory
  | .calloc _ pMemory _ _ => pMemory
  | .realloc _ pMemory _ => pMemory
  | .getMemoryUsage _ pMemoryUsage => pMemoryUsage
  | .getMaxNewAllocationSize _ pMaxNewAllocation => pMaxNewAllocation
  | .getFreeAllocatorCnt _ pFreeAllocators => pFreeAllocators
  | _ => none

/-- The block a call asks to free or to resize. -/
def Op.target : Op → Option Nat
  | .free _ pMemory => pMemory
  | .realloc _ pMemory _ => pMemory
  | _ => none

/-- The call itself. -/
def call (q : Placement) (s : DynostaticBuffer) : Op → Traced Event Reply
  | .initializeAllocation p => dsInitializeAllocation q s p
  | .malloc p pMemory size => dsMalloc q s p pMemory size
  | .free p pMemory => dsFree q s p pMemory
  | .calloc p pMemory len sizeOfElem => dsCalloc q s p pMemory len sizeOfElem
  | .realloc p pMemory size => dsRealloc q s p pMemory size
  | .getMemoryUsage p out => dsGetMemoryUsage q s p out
  | .getMaxNewAllocationSize p out => dsGetMaxNewAllocationSize q s p out
  | .getFreeAllocatorCnt p out => dsGetFreeAllocatorCnt q s p out
  | .deinitAllocation p => dsDeinitAllocation q s p
  | .safeMemoryCopy p outside dst src size => dsSafeMemoryCopy q s p outside dst src size
  | .safeMemorySet p dst value count => dsSafeMemorySet q s p dst value count

/-- What a call leaves. -/
def reply (q : Placement) (s : DynostaticBuffer) (op : Op) : Reply := (call q s op).value

/-- One step of a run: a call, or a store of the client into the arena. -/
inductive Action where
  | call (op : Op)
  | store (offset : Nat) (byte : UInt8)

/-- The instance after an action. -/
def next (q : Placement) (s : DynostaticBuffer) : Action → DynostaticBuffer
  | .call op => (reply q s op).buffer
  | .store offset byte => { s with memory := Function.update s.memory offset byte }

/-- The action is not the deinitialization of the instance. -/
def Continues (action : Action) : Prop := action ≠ .call (.deinitAllocation .self)

/-- The states a run leads to from a structure that is not initialized. -/
def Reachable (q : Placement) (s : DynostaticBuffer) : Prop :=
  ∃ (first : DynostaticBuffer) (actions : List Action),
    first.initMagic ≠ dsMagicNumber ∧ run (next q) first actions = s

/-- **The induction rule for reachable states.** -/
theorem Reachable.induction {q : Placement} {holds : DynostaticBuffer → Prop}
    (first : ∀ s : DynostaticBuffer, s.initMagic ≠ dsMagicNumber → holds s)
    (step : ∀ s action, holds s → holds (next q s action)) {s : DynostaticBuffer}
    (reachable : Reachable q s) : holds s := by
  obtain ⟨start, actions, fresh, rfl⟩ := reachable
  exact run_invariant_of_all step actions start (first start fresh)

/-- The initialized instance a structure becomes. -/
def freshInstance (q : Placement) (s : DynostaticBuffer) : DynostaticBuffer :=
  (reply q s (.initializeAllocation .self)).buffer

/-- A run from a reachable state leads to reachable states. -/
theorem Reachable.run {q : Placement} {s : DynostaticBuffer} (reachable : Reachable q s)
    (actions : List Action) : Reachable q (run (next q) s actions) := by
  obtain ⟨start, before, fresh, rfl⟩ := reachable
  exact ⟨start, before ++ actions, fresh, run_append start before actions⟩

theorem Reachable.freshInstance {q : Placement} {first : DynostaticBuffer}
    (fresh : first.initMagic ≠ dsMagicNumber) : Reachable q (freshInstance q first) :=
  ⟨first, [.call (.initializeAllocation .self)], fresh, rfl⟩

/-! ### Two builds -/

/-- The header's default macros, on a target with 64-bit addresses. -/
def defaultPlacement : Placement where
  sizeBits := 64
  ptrBits := 64
  alignofUint32 := 4
  alignofMaxAlign := 16
  sizeofAllocators := 240
  bufferMemorySize := 1024
  maxAllocationCount := 10
  maxAllocationSize := 256
  alignment := 4
  zeroOnFree := false
  alignment_pow2 := rfl
  alignment_ge := by decide
  alignment_le := by decide
  maxSize_le := by decide
  maxCount_pos := by decide
  maxSize_pos := by decide
  maxSize_mod := rfl
  maxSize_guard := by decide
  alignofUint32_pos := by decide
  memorySize_lt := by decide
  maxCount_lt := by decide
  base := 4096
  allocatorsBase := 8192
  base_pos := by decide
  allocatorsBase_pos := by decide
  base_aligned := by decide
  base_fits := by decide

/-- A build for a 32-bit target, with an arena of 64 MiB that one block may fill. -/
def widePlacement : Placement where
  sizeBits := 32
  ptrBits := 32
  alignofUint32 := 4
  alignofMaxAlign := 8
  sizeofAllocators := 12
  bufferMemorySize := 67108864
  maxAllocationCount := 1
  maxAllocationSize := 67108864
  alignment := 4
  zeroOnFree := false
  alignment_pow2 := rfl
  alignment_ge := by decide
  alignment_le := by decide
  maxSize_le := by decide
  maxCount_pos := by decide
  maxSize_pos := by decide
  maxSize_mod := rfl
  maxSize_guard := by decide
  alignofUint32_pos := by decide
  memorySize_lt := by decide
  maxCount_lt := by decide
  base := 4096
  allocatorsBase := 2048
  base_pos := by decide
  allocatorsBase_pos := by decide
  base_aligned := by decide
  base_fits := by decide

/-- A structure of zero bytes, as static storage starts. -/
def zeroBuffer : DynostaticBuffer where
  initMagic := 0
  dataHead := 0
  usedAllocators := 0
  memory := fun _ => 0
  allocators := fun _ => DsAllocator.zero

theorem zeroBuffer_fresh : zeroBuffer.initMagic ≠ dsMagicNumber := by
  decide

/-- An instance with two live blocks, at `4096` and `4108`. -/
def twoLive : DynostaticBuffer :=
  run (next defaultPlacement) (freshInstance defaultPlacement zeroBuffer)
    [.call (.malloc .self (some 0) 10), .call (.malloc .self (some 0) 10)]

theorem twoLive_reachable : Reachable defaultPlacement twoLive :=
  (Reachable.freshInstance zeroBuffer_fresh).run _

end Dynostatic
