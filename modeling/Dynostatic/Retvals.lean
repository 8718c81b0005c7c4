/-
**The documented codes of each function.**

The header lists with each function the codes it returns. `retvals_exact` says that the lists are
exact: no function returns a code that its list does not have, and each code of each list is
returned in some run of some build. The exception is `ERROR_DS_CRITICAL_ERR`, which
`ds_get_memory_usage` keeps for an instance that is corrupted.

What a code means decides which functions can return it (`cause_of_code`).
-/

import Dynostatic.Atomicity
import Dynostatic.ErrorCodes

namespace Dynostatic

open Runs

/-- The public functions. -/
inductive ApiFunction where
  | initializeAllocation
  | malloc
  | free
  | calloc
  | realloc
  | getMemoryUsage
  | getMaxNewAllocationSize
  | getFreeAllocatorCnt
  | deinitAllocation
  | safeMemoryCopy
  | safeMemorySet
  deriving DecidableEq, Repr

/-- The function that is called. -/
def Op.function : Op → ApiFunction
  | .initializeAllocation _ => .initializeAllocation
  | .malloc _ _ _ => .malloc
  | .free _ _ => .free
  | .calloc _ _ _ _ => .calloc
  | .realloc _ _ _ => .realloc
  | .getMemoryUsage _ _ => .getMemoryUsage
  | .getMaxNewAllocationSize _ _ => .getMaxNewAllocationSize
  | .getFreeAllocatorCnt _ _ => .getFreeAllocatorCnt
  | .deinitAllocation _ => .deinitAllocation
  | .safeMemoryCopy _ _ _ _ _ => .safeMemoryCopy
  | .safeMemorySet _ _ _ _ => .safeMemorySet

/-- The `@retval` list of a function, in the order of the header. -/
def ApiFunction.retvals : ApiFunction → List DsErrCode
  | .initializeAllocation => [.ok, .invalidArg, .alreadyInit]
  | .malloc =>
    [.ok, .noInit, .invalidArg, .tooBigChunk, .ptrAllocYet, .noAllocators, .noMemory]
  | .free => [.ok, .noInit, .invalidArg, .memoryOutOfDs, .allocatorNotFound]
  | .calloc =>
    [.ok, .noInit, .invalidArg, .tooBigChunk, .ptrAllocYet, .noAllocators, .noMemory]
  | .realloc =>
    [.ok, .noInit, .invalidArg, .tooBigChunk, .memoryOutOfDs, .allocatorNotFound, .noAllocators,
      .noMemory]
  | .getMemoryUsage => [.ok, .noInit, .invalidArg, .criticalErr]
  | .getMaxNewAllocationSize => [.ok, .noInit, .invalidArg]
  | .getFreeAllocatorCnt => [.ok, .noInit, .invalidArg]
  | .deinitAllocation => [.ok, .noInit, .invalidArg]
  | .safeMemoryCopy => [.ok, .noInit, .invalidArg, .memoryOutOfDs, .allocatorNotFound, .noMemory]
  | .safeMemorySet => [.ok, .noInit, .invalidArg, .memoryOutOfDs, .allocatorNotFound, .noMemory]

/-- In some build some run comes to a call of the function that returns the code. -/
def ApiFunction.Returns (f : ApiFunction) (code : DsErrCode) : Prop :=
  ∃ q s op, Reachable q s ∧ op.function = f ∧ (reply q s op).code = code

/-! ### No other code is returned -/

section Sound

variable {q : Placement} {s : DynostaticBuffer} {op : Op}

theorem ok_mem_retvals (f : ApiFunction) : .ok ∈ f.retvals := by
  cases f <;> decide

theorem invalidArg_mem_retvals (f : ApiFunction) : .invalidArg ∈ f.retvals := by
  cases f <;> decide

/-- A function that serves requests. -/
theorem retvals_of_requested {size : Nat} (requested : op.requested = some size) :
    .noMemory ∈ op.function.retvals ∧ .noAllocators ∈ op.function.retvals ∧
      .tooBigChunk ∈ op.function.retvals := by
  cases op with
  | malloc => simp [Op.function, ApiFunction.retvals]
  | calloc => simp [Op.function, ApiFunction.retvals]
  | realloc => simp [Op.function, ApiFunction.retvals]
  | _ => cases requested

/-- A function that is given a block. -/
theorem retvals_of_target {p : Nat} (target : op.target = some p) :
    .memoryOutOfDs ∈ op.function.retvals ∧ .allocatorNotFound ∈ op.function.retvals := by
  cases op with
  | free => simp [Op.function, ApiFunction.retvals]
  | realloc => simp [Op.function, ApiFunction.retvals]
  | _ => cases target

/-- A function that writes to a block. -/
theorem retvals_of_writes {dst count : Nat} {source : Nat → UInt8}
    (writes : op.Writes q s dst count source) :
    .noMemory ∈ op.function.retvals ∧ .memoryOutOfDs ∈ op.function.retvals ∧
      .allocatorNotFound ∈ op.function.retvals := by
  cases writes <;> simp [Op.function, ApiFunction.retvals]

/-- A function whose caller may hold a live block already: not `ds_realloc`, which starts from
`NULL`. -/
theorem retvals_of_live {p size zeroed capacity : Nat} (requests : op.Requests p size zeroed)
    (live : LiveBlock q s p capacity) : .ptrAllocYet ∈ op.function.retvals := by
  cases requests with
  | malloc => simp [Op.function, ApiFunction.retvals]
  | calloc => simp [Op.function, ApiFunction.retvals]
  | realloc =>
    obtain ⟨-, index, -, -, -, null⟩ := live
    have based := q.base_pos
    omega

/-- **What is wrong with a call is on the list of its function.** -/
theorem Cause.mem_retvals {code : DsErrCode} (cause : Cause q s op code)
    (other : op.function ≠ .initializeAllocation) : code ∈ op.function.retvals := by
  cases cause with
  | noInit =>
    have listed : ∀ f, f ≠ ApiFunction.initializeAllocation → .noInit ∈ f.retvals := by
      intro f
      cases f <;> decide
    exact listed _ other
  | invalidArg => exact invalidArg_mem_retvals _
  | alreadyInit _ same => exact absurd (congrArg Op.function same) other
  | noMemory needs => exact (retvals_of_requested needs.requested_eq).1
  | shortBlock writes => exact (retvals_of_writes writes).1
  | noAllocators needs => exact (retvals_of_requested needs.requested_eq).2.1
  | tooBigChunk requested => exact (retvals_of_requested requested).2.2
  | foreign target => exact (retvals_of_target target).1
  | foreignWrite writes => exact (retvals_of_writes writes).2.1
  | stale target => exact (retvals_of_target target).2
  | staleWrite writes => exact (retvals_of_writes writes).2.2
  | ptrAllocYet requests live => exact retvals_of_live requests live

theorem initialize_mem_retvals (p : BufferArg) :
    (reply q s (.initializeAllocation p)).code ∈ ApiFunction.initializeAllocation.retvals := by
  cases p
  · exact invalidArg_mem_retvals .initializeAllocation
  · have twice : .alreadyInit ∈ ApiFunction.initializeAllocation.retvals := by decide
    by_cases initialized : s.initMagic = dsMagicNumber
    · have answer : (reply q s (.initializeAllocation .self)).code = .alreadyInit := by
        simp [reply, call, dsInitializeAllocation, initialized]
      rwa [answer]
    · rw [show (reply q s (.initializeAllocation .self)).code = .ok from
        congrArg Reply.code (yields_dsInitializeAllocation initialized).value]
      exact ok_mem_retvals _

/-- **A call returns a code of its function's list.** -/
theorem code_mem_retvals (formed : WellFormed q s) (op : Op) :
    (reply q s op).code ∈ op.function.retvals := by
  by_cases ok : (reply q s op).code = .ok
  · rw [ok]
    exact ok_mem_retvals _
  · by_cases first : op.function = .initializeAllocation
    · cases op with
      | initializeAllocation p => exact initialize_mem_retvals p
      | _ => cases first
    · exact (cause_of_code formed ok).mem_retvals first

end Sound

/-! ### Every code is returned -/

section Complete

/-- A call of the function with an address and a size. -/
def ApiFunction.sample (f : ApiFunction) (p : BufferArg) (address size : Nat) : Op :=
  match f with
  | .initializeAllocation => .initializeAllocation p
  | .malloc => .malloc p (some address) size
  | .free => .free p (some address)
  | .calloc => .calloc p (some address) size 1
  | .realloc => .realloc p (some address) size
  | .getMemoryUsage => .getMemoryUsage p (some 0)
  | .getMaxNewAllocationSize => .getMaxNewAllocationSize p (some 0)
  | .getFreeAllocatorCnt => .getFreeAllocatorCnt p (some 0)
  | .deinitAllocation => .deinitAllocation p
  | .safeMemoryCopy => .safeMemoryCopy p (fun _ => 0) address address size
  | .safeMemorySet => .safeMemorySet p address 0 size

theorem function_sample (f : ApiFunction) (p : BufferArg) (address size : Nat) :
    (f.sample p address size).function = f := by
  cases f <;> rfl

theorem ApiFunction.Returns.sample {q : Placement} {s : DynostaticBuffer}
    (reachable : Reachable q s) {f : ApiFunction} (p : BufferArg) (address size : Nat)
    {code : DsErrCode} (answer : (reply q s (f.sample p address size)).code = code) :
    f.Returns code :=
  ⟨q, s, _, reachable, function_sample f p address size, answer⟩

/-- The arena of the default build, filled with four blocks. -/
def fullArena : DynostaticBuffer :=
  run (next defaultPlacement) (freshInstance defaultPlacement zeroBuffer)
    (List.replicate 4 (.call (.malloc .self (some 0) 256)))

/-- The only record of a build, in use. -/
def fullTable : DynostaticBuffer :=
  next widePlacement (freshInstance widePlacement zeroBuffer)
    (.call (.malloc .self (some 0) 4))

theorem zeroBuffer_reachable : Reachable defaultPlacement zeroBuffer :=
  ⟨zeroBuffer, [], zeroBuffer_fresh, rfl⟩

theorem fullArena_reachable : Reachable defaultPlacement fullArena :=
  (Reachable.freshInstance zeroBuffer_fresh).run _

theorem fullTable_reachable : Reachable widePlacement fullTable :=
  (Reachable.freshInstance zeroBuffer_fresh).run [.call (.malloc .self (some 0) 4)]

/-- **A code of a function's list is returned**, but for the one of a corrupted instance. -/
theorem returns_of_mem_retvals {f : ApiFunction} {code : DsErrCode} (listed : code ∈ f.retvals)
    (sound : code ≠ .criticalErr) : f.Returns code := by
  cases code with
  | ok =>
    cases f
    case initializeAllocation => exact .sample zeroBuffer_reachable .self 0 0 (by decide)
    case malloc => exact .sample twoLive_reachable .self 0 4 (by decide)
    case calloc => exact .sample twoLive_reachable .self 0 4 (by decide)
    all_goals exact .sample twoLive_reachable .self 4096 4 (by decide)
  | noInit =>
    refine .sample zeroBuffer_reachable .self 4096 4 ?_
    revert listed
    cases f <;> decide
  | invalidArg =>
    refine .sample zeroBuffer_reachable .null 4096 4 ?_
    cases f <;> decide
  | alreadyInit =>
    refine .sample twoLive_reachable .self 4096 4 ?_
    revert listed
    cases f <;> decide
  | noMemory =>
    cases f
    case safeMemoryCopy => exact .sample twoLive_reachable .self 4096 13 (by decide)
    case safeMemorySet => exact .sample twoLive_reachable .self 4096 13 (by decide)
    all_goals
      refine .sample fullArena_reachable .self 0 4 ?_
      revert listed
      decide
  | noAllocators =>
    refine .sample fullTable_reachable .self 0 4 ?_
    revert listed
    cases f <;> decide
  | tooBigChunk =>
    refine .sample twoLive_reachable .self 0 257 ?_
    revert listed
    cases f <;> decide
  | memoryOutOfDs =>
    refine .sample twoLive_reachable .self 1 4 ?_
    revert listed
    cases f <;> decide
  | criticalErr => exact absurd rfl sound
  | allocatorNotFound =>
    refine .sample twoLive_reachable .self 4500 4 ?_
    revert listed
    cases f <;> decide
  | ptrAllocYet =>
    refine .sample twoLive_reachable .self 4096 4 ?_
    revert listed
    cases f <;> decide

end Complete

/-- **The header's lists of codes are exact.** -/
theorem retvals_exact (f : ApiFunction) (code : DsErrCode) :
    f.Returns code ↔ code ∈ f.retvals ∧ code ≠ .criticalErr := by
  constructor
  · rintro ⟨q, s, op, reachable, rfl, rfl⟩
    have formed := reachable.wellFormed
    exact ⟨code_mem_retvals formed op, reply_code_ne_criticalErr formed op⟩
  · rintro ⟨listed, sound⟩
    exact returns_of_mem_retvals listed sound

end Dynostatic
