/-
**What an error code means.**

`Cause` says, in the fields of the instance, what each `ERROR_DS_*` reports of a call: the wording
of the header's list of codes and of the error reference. `error_contract` says that the codes can
be relied on, in both directions: a call that fails names something that is wrong, and a call for
which anything is wrong fails.

The proof goes over the machine's answer to a call. `Blames` and `Refuses` are its two halves, each
with a rule for every construct the machine is made of.
-/

import Dynostatic.FirstFit
import Dynostatic.Machine
import Dynostatic.Resize
import Dynostatic.Retention
import Dynostatic.Writes

namespace Dynostatic

open Tracing Tracing.Traced Tiling Rounding Runs

/-! ### Answers that fail -/

section Failure

variable {α β : Type} {P : DsErrCode → Prop}

/-- The codes the answer fails with, if it fails. -/
def Blames (P : DsErrCode → Prop) (answer : Except DsErrCode α) : Prop :=
  ∀ code, answer = .error code → P code

/-- The answer fails. -/
def Refuses (answer : Except DsErrCode α) : Prop := ∃ code, answer = .error code

theorem blames_ok (a : α) : Blames P (.ok a) := nofun

theorem blames_error {code : DsErrCode} (blames : P code) :
    Blames P (.error code : Except DsErrCode α) :=
  fun _ same => Except.error.inj same ▸ blames

theorem Blames.bind {first : Except DsErrCode α} {rest : α → Except DsErrCode β}
    (blames : Blames P first) (later : ∀ a, first = .ok a → Blames P (rest a)) :
    Blames P (first >>= rest) := by
  cases first with
  | error code => exact blames_error (blames code rfl)
  | ok a => exact later a rfl

/-- **The rule for a check**: it blames its own code where its condition holds. -/
theorem Blames.check {condition : Prop} [Decidable condition] {code : DsErrCode}
    {rest : Unit → Except DsErrCode α} (blames : condition → P code)
    (later : ¬ condition → Blames P (rest ())) : Blames P (reject condition code >>= rest) := by
  by_cases holds : condition
  · rw [reject_of_pos holds]
    exact blames_error (blames holds)
  · rw [reject_of_neg holds]
    exact later holds

theorem Refuses.bind {first : Except DsErrCode α} (refuses : Refuses first)
    (rest : α → Except DsErrCode β) : Refuses (first >>= rest) := by
  obtain ⟨code, rfl⟩ := refuses
  exact ⟨code, rfl⟩

theorem Refuses.later {first : Except DsErrCode α} {rest : α → Except DsErrCode β}
    (refuses : ∀ a, first = .ok a → Refuses (rest a)) : Refuses (first >>= rest) := by
  cases first with
  | error code => exact ⟨code, rfl⟩
  | ok a => exact refuses a rfl

theorem Refuses.check {condition : Prop} [Decidable condition] {code : DsErrCode}
    {rest : Unit → Except DsErrCode α} (refuses : ¬ condition → Refuses (rest ())) :
    Refuses (reject condition code >>= rest) := by
  by_cases holds : condition
  · exact ⟨code, reject_of_pos holds code rest⟩
  · rw [reject_of_neg holds]
    exact refuses holds

end Failure

/-! ### Causes -/

/-- An argument is invalid: a `NULL` pointer where one is required, a zero size, or a product that
overflows. -/
def Op.Malformed (c : Config) : Op → Prop
  | .initializeAllocation p => p = .null
  | .malloc p pMemory size => p = .null ∨ pMemory = none ∨ size = 0
  | .free p pMemory => p = .null ∨ pMemory = none ∨ pMemory = some 0
  | .calloc p pMemory len sizeOfElem =>
    p = .null ∨ pMemory = none ∨ len = 0 ∨ sizeOfElem = 0 ∨ 2 ^ c.sizeBits ≤ len * sizeOfElem
  | .realloc p pMemory size => p = .null ∨ pMemory = none ∨ size = 0 ∧ pMemory = some 0
  | .getMemoryUsage p out => p = .null ∨ out = none
  | .getMaxNewAllocationSize p out => p = .null ∨ out = none
  | .getFreeAllocatorCnt p out => p = .null ∨ out = none
  | .deinitAllocation p => p = .null
  | .safeMemoryCopy p _ dst src count => p = .null ∨ dst = 0 ∨ src = 0 ∨ count = 0
  | .safeMemorySet p dst _ count => p = .null ∨ dst = 0 ∨ count = 0

/-- The call needs a block of its own for a size that may be requested: it is a request, or it
resizes a block to a size that it neither has nor can grow to where it is. -/
inductive Needs (q : Placement) (s : DynostaticBuffer) : Op → Nat → Prop
  | request {op : Op} {p size zeroed : Nat} (initialized : s.initMagic = dsMagicNumber)
      (requests : op.Requests p size zeroed) (positive : 0 < size)
      (small : size ≤ q.maxAllocationSize) : Needs q s op size
  | resize {head capacity size : Nat} (live : LiveBlock q s (q.base + head) capacity)
      (positive : 0 < size) (small : size ≤ q.maxAllocationSize)
      (more : capacity < roundUp q.alignment size)
      (blocked : ¬ GrowsInPlace q.toConfig s head capacity (roundUp q.alignment size)) :
      Needs q s (.realloc .self (some (q.base + head)) size) size

/-- **What a code reports.** -/
inductive Cause (q : Placement) (s : DynostaticBuffer) (op : Op) : DsErrCode → Prop
  | noInit (raw : s.initMagic ≠ dsMagicNumber) (other : op ≠ .initializeAllocation .self) :
      Cause q s op .noInit
  | invalidArg (malformed : op.Malformed q.toConfig) : Cause q s op .invalidArg
  | alreadyInit (initialized : s.initMagic = dsMagicNumber)
      (same : op = .initializeAllocation .self) : Cause q s op .alreadyInit
  /-- No parked block is large enough, a record is left, and the space at the end is too small. -/
  | noMemory {size : Nat} (needs : Needs q s op size)
      (unfit : Fitting q.toConfig s (roundUp q.alignment size) = ∅)
      (left : ∃ index < q.maxAllocationCount, (s.allocators index).allocationStatus = .notUsed)
      (short : q.bufferMemorySize < s.dataHead + roundUp q.alignment size) : Cause q s op .noMemory
  /-- The live block that is written to ends too early. -/
  | shortBlock {dst count p capacity : Nat} {source : Nat → UInt8}
      (writes : op.Writes q s dst count source) (live : LiveBlock q s p capacity)
      (above : p ≤ dst) (below : dst < p + capacity) (short : p + capacity < dst + count) :
      Cause q s op .noMemory
  /-- No parked block is large enough, and every record is in use. -/
  | noAllocators {size : Nat} (needs : Needs q s op size)
      (unfit : Fitting q.toConfig s (roundUp q.alignment size) = ∅)
      (used : ∀ index < q.maxAllocationCount,
        (s.allocators index).allocationStatus ≠ .notUsed) : Cause q s op .noAllocators
  | tooBigChunk {size : Nat} (requested : op.requested = some size)
      (large : q.maxAllocationSize < size) : Cause q s op .tooBigChunk
  /-- The pointer that is freed or resized lies outside the arena. -/
  | foreign {p : Nat} (target : op.target = some p) (nonNull : p ≠ 0)
      (outside : ¬ (q.base ≤ p ∧ p < q.base + q.bufferMemorySize)) : Cause q s op .memoryOutOfDs
  /-- The range that is written starts outside the arena. -/
  | foreignWrite {dst count : Nat} {source : Nat → UInt8} (writes : op.Writes q s dst count source)
      (outside : ¬ (q.base ≤ dst ∧ dst < q.base + q.bufferMemorySize)) :
      Cause q s op .memoryOutOfDs
  /-- The pointer that is freed or resized lies in the arena, at the start of no live block. -/
  | stale {p : Nat} (target : op.target = some p)
      (inside : q.base ≤ p ∧ p < q.base + q.bufferMemorySize)
      (dead : ∀ capacity, ¬ LiveBlock q s p capacity) : Cause q s op .allocatorNotFound
  /-- The range that is written starts in the arena, in no live block. -/
  | staleWrite {dst count : Nat} {source : Nat → UInt8} (writes : op.Writes q s dst count source)
      (inside : q.base ≤ dst ∧ dst < q.base + q.bufferMemorySize)
      (dead : ¬ Owned q s (dst - q.base)) : Cause q s op .allocatorNotFound
  /-- The caller's variable holds the address of a live block. -/
  | ptrAllocYet {p size zeroed capacity : Nat} (requests : op.Requests p size zeroed)
      (live : LiveBlock q s p capacity) : Cause q s op .ptrAllocYet

theorem Cause.ne_ok {q : Placement} {s : DynostaticBuffer} {op : Op} {code : DsErrCode}
    (cause : Cause q s op code) : code ≠ .ok := by
  cases cause <;> nofun

section Needs

variable {q : Placement} {s : DynostaticBuffer} {op : Op} {size : Nat} (needs : Needs q s op size)

include needs

theorem Needs.requested_eq : op.requested = some size := by
  cases needs with
  | request _ requests positive => exact requests.requested_eq positive
  | resize _ positive => exact if_neg positive.ne'

theorem Needs.initialized : s.initMagic = dsMagicNumber := by
  cases needs with
  | request initialized => exact initialized
  | resize live => exact live.1

theorem Needs.size_le : size ≤ q.maxAllocationSize := by
  cases needs <;> assumption

end Needs

/-! ### A call that fails has a cause -/

section Sound

variable {q : Placement} {layout : Layout q.toConfig} {memory : Nat → UInt8} {op : Op}

/-- A grant that fails is one there is no room for. -/
theorem blames_grant {size : Nat} (needs : Needs q (layout.encode memory) op size) :
    Blames (Cause q (layout.encode memory) op)
      (grant q.toConfig layout.blocks (roundUp q.alignment size)) := by
  unfold grant
  rcases first : firstFit layout.blocks (roundUp q.alignment size) with _ | index
  · have unfit : Fitting q.toConfig (layout.encode memory) (roundUp q.alignment size) = ∅ := by
      rw [← Set.not_nonempty_iff_eq_empty]
      intro some
      obtain ⟨index, found⟩ := exists_firstFit some
      rw [first] at found
      cases found
    refine Blames.check (fun full => .noAllocators needs unfit ?_) fun slot =>
      Blames.check (fun short => .noMemory needs unfit (exists_notUsed_iff.mpr (by omega)) short)
        fun _ => blames_ok _
    intro index inside unused
    exact absurd (exists_notUsed_iff.mp ⟨index, inside, unused⟩) (Nat.not_lt.mpr full)
  · exact blames_ok _

theorem blames_serveRequest {p size zeroed : Nat} (requests : op.Requests p size zeroed)
    (positive : 0 < size) :
    Blames (Cause q (layout.encode memory) op) (serveRequest q layout.blocks p size) := by
  refine Blames.check (.tooBigChunk (requests.requested_eq positive)) fun small => ?_
  refine Blames.check (fun live => ?_) fun _ => ?_
  · obtain ⟨capacity, live⟩ := Option.ne_none_iff_exists'.mp live
    exact .ptrAllocYet requests (liveBlock_encode_iff.mpr live)
  · have needs : Needs q (layout.encode memory) op size :=
      .request rfl requests positive (Nat.le_of_not_lt small)
    exact (blames_grant needs).bind fun _ _ => blames_ok _

/-- A lookup that fails says where the address lies. -/
theorem blames_seekStart {p : Nat} (target : op.target = some p) (nonNull : p ≠ 0) :
    Blames (Cause q (layout.encode memory) op) (seekStart q layout.blocks p) := by
  rcases dead : blockAt q layout.blocks p with _ | capacity
  · rw [seekStart_dead dead]
    refine blames_error ?_
    unfold deadCode
    split
    · exact .foreign target nonNull (by omega)
    · exact .stale target (by omega) (not_liveBlock_encode_iff.mpr dead)
  · obtain ⟨index, found, rfl⟩ := exists_index_of_blockAt dead
    rw [seekStart_live found]
    exact blames_ok _

theorem blames_serveRelease {p : Nat} (target : op.target = some p) (nonNull : p ≠ 0) :
    Blames (Cause q (layout.encode memory) op) (serveRelease q layout.blocks p) :=
  (blames_seekStart target nonNull).bind fun _ _ => blames_ok _

theorem blames_serveResize {p size : Nat} (positive : size ≠ 0) (nonNull : p ≠ 0) :
    Blames (Cause q (layout.encode memory) (.realloc .self (some p) size))
      (serveResize q layout.blocks p size) := by
  refine Blames.check (.tooBigChunk (if_neg positive)) fun small => ?_
  refine (blames_seekStart rfl nonNull).bind fun found sought => ?_
  rcases dead : blockAt q layout.blocks p with _ | capacity
  · rw [seekStart_dead dead] at sought
    cases sought
  · obtain ⟨index, found', rfl⟩ := exists_index_of_blockAt dead
    rw [seekStart_live found'] at sought
    cases sought
    dsimp only
    split
    · exact blames_ok _
    · rename_i unfit
      split
      · exact blames_ok _
      · rename_i blocked
        have stays : ¬ GrowsInPlace q.toConfig (layout.encode memory) (start layout.blocks index)
            capacity (roundUp q.alignment size) := by
          rwa [growsInPlace_encode_iff found']
        have needs : Needs q (layout.encode memory) _ size :=
          .resize (liveBlock_start found') (Nat.pos_of_ne_zero positive) (Nat.le_of_not_lt small)
            (Nat.lt_of_not_le unfit) stays
        exact (blames_grant needs).bind fun _ _ => blames_ok _

theorem blames_serveWrite {dst count : Nat} {source : Nat → UInt8}
    (writes : op.Writes q (layout.encode memory) dst count source) :
    Blames (Cause q (layout.encode memory) op) (serveWrite q layout.blocks dst count) := by
  unfold serveWrite
  by_cases live : ∃ index size inside, layout.blocks[index]? = some ⟨size, true⟩ ∧ inside < size ∧
      dst = q.base + (start layout.blocks index + inside)
  · obtain ⟨index, size, inside, found, small, rfl⟩ := live
    rw [seek_live found small]
    refine Blames.check (fun short => ?_) fun _ => blames_ok _
    exact .shortBlock writes (liveBlock_start found) (by omega) (by omega) (by omega)
  · have dead : q.base ≤ dst → ¬ Owned q (layout.encode memory) (dst - q.base) := by
      rintro based ⟨p, capacity, block, above, below⟩
      obtain ⟨index, found, rfl⟩ := block.index
      exact live ⟨index, capacity, dst - (q.base + start layout.blocks index), found, by omega,
        by omega⟩
    rw [seek_dead fun index size inside found small same =>
      live ⟨index, size, inside, found, small, same⟩]
    refine blames_error ?_
    unfold deadCode
    split
    · exact .foreignWrite writes (by omega)
    · exact .staleWrite writes (by omega) (dead (by omega))

end Sound

section Sound

variable {q : Placement} {s : DynostaticBuffer} {op : Op}

/-- **The rule for the check of `init_magic`**: what is opened is the instance of a layout. -/
theorem Blames.opened (formed : WellFormed q s) (other : op ≠ .initializeAllocation .self)
    {rest : List Block → Except DsErrCode (Inventory × Option Nat)}
    (later : ∀ (layout : Layout q.toConfig) (memory : Nat → UInt8), s = layout.encode memory →
      Blames (Cause q s op) (rest layout.blocks)) :
    Blames (Cause q s op) (Dynostatic.opened (inventory q s) >>= rest) := by
  rcases formed with raw | ⟨layout, memory, rfl⟩
  · rw [inventory_uninitialized raw]
    exact blames_error (.noInit raw other)
  · rw [inventory_encode]
    exact later layout memory rfl

/-- **A call of the machine that fails has the cause it names.** -/
theorem blames_serve (formed : WellFormed q s) :
    Blames (Cause q s op) (serve q (inventory q s) op) := by
  cases op with
  | initializeAllocation p =>
    cases p
    · exact blames_error (.invalidArg rfl)
    · refine Blames.check (fun opened => .alreadyInit ?_ rfl) fun _ => blames_ok _
      by_contra raw
      exact opened (inventory_uninitialized raw)
  | malloc p pMemory size =>
    cases p <;> cases pMemory
    case self.some p =>
      refine Blames.check (fun zero => .invalidArg (.inr (.inr zero))) fun positive => ?_
      refine Blames.opened formed (by nofun) ?_
      rintro layout memory rfl
      exact blames_serveRequest (.malloc p size) (Nat.pos_of_ne_zero positive)
    all_goals exact blames_error (.invalidArg (by simp [Op.Malformed]))
  | free p pMemory =>
    cases p <;> cases pMemory
    case self.some p =>
      refine Blames.check (fun null => .invalidArg (.inr (.inr (congrArg some null))))
        fun nonNull => ?_
      refine Blames.opened formed (by nofun) ?_
      rintro layout memory rfl
      exact blames_serveRelease rfl nonNull
    all_goals exact blames_error (.invalidArg (by simp [Op.Malformed]))
  | calloc p pMemory len sizeOfElem =>
    cases p <;> cases pMemory
    case self.some p =>
      refine Blames.check (fun zero => .invalidArg (.inr (.inr ?_))) fun positive => ?_
      · exact zero.imp_right .inl
      refine Blames.opened formed (by nofun) ?_
      rintro layout memory rfl
      refine Blames.check (fun wraps => .invalidArg (.inr (.inr (.inr (.inr wraps))))) fun _ => ?_
      obtain ⟨len_pos, elem_pos⟩ := not_or.mp positive
      exact blames_serveRequest (.calloc p len sizeOfElem)
        (Nat.mul_pos (Nat.pos_of_ne_zero len_pos) (Nat.pos_of_ne_zero elem_pos))
    all_goals exact blames_error (.invalidArg (by simp [Op.Malformed]))
  | realloc p pMemory size =>
    cases p <;> cases pMemory
    case self.some p =>
      refine Blames.opened formed (by nofun) ?_
      rintro layout memory rfl
      by_cases zero : size = 0
      · rw [if_pos zero]
        refine Blames.check (fun null => .invalidArg (.inr (.inr ⟨zero, congrArg some null⟩)))
          fun nonNull => ?_
        exact blames_serveRelease rfl nonNull
      · rw [if_neg zero]
        by_cases null : p = 0
        · subst null
          exact blames_serveRequest (.realloc size) (Nat.pos_of_ne_zero zero)
        · rw [if_neg null]
          exact blames_serveResize zero null
    all_goals exact blames_error (.invalidArg (by simp [Op.Malformed]))
  | getMemoryUsage p out =>
    cases p <;> cases out
    case self.some out => exact Blames.opened formed (by nofun) fun _ _ _ => blames_ok _
    all_goals exact blames_error (.invalidArg (by simp [Op.Malformed]))
  | getMaxNewAllocationSize p out =>
    cases p <;> cases out
    case self.some out => exact Blames.opened formed (by nofun) fun _ _ _ => blames_ok _
    all_goals exact blames_error (.invalidArg (by simp [Op.Malformed]))
  | getFreeAllocatorCnt p out =>
    cases p <;> cases out
    case self.some out => exact Blames.opened formed (by nofun) fun _ _ _ => blames_ok _
    all_goals exact blames_error (.invalidArg (by simp [Op.Malformed]))
  | deinitAllocation p =>
    cases p
    · exact blames_error (.invalidArg rfl)
    · exact Blames.opened formed (by nofun) fun _ _ _ => blames_ok _
  | safeMemoryCopy p outside dst src count =>
    cases p
    · exact blames_error (.invalidArg (.inl rfl))
    · refine Blames.check (fun bad => .invalidArg (.inr bad)) fun _ => ?_
      refine Blames.opened formed (by nofun) ?_
      rintro layout memory rfl
      exact blames_serveWrite (.copy outside dst src count)
  | safeMemorySet p dst value count =>
    cases p
    · exact blames_error (.invalidArg (.inl rfl))
    · refine Blames.check (fun bad => .invalidArg (.inr bad)) fun _ => ?_
      refine Blames.opened formed (by nofun) ?_
      rintro layout memory rfl
      exact blames_serveWrite (.set dst value count)

end Sound

/-! ### A call with a cause fails -/

section Complete

variable {q : Placement} {op : Op}

theorem refuses_error {α : Type} (code : DsErrCode) :
    Refuses (.error code : Except DsErrCode α) :=
  ⟨code, rfl⟩

theorem refuses_of_pos {α : Type} {condition : Prop} [Decidable condition] (holds : condition)
    (code : DsErrCode) (rest : Unit → Except DsErrCode α) :
    Refuses (reject condition code >>= rest) :=
  ⟨code, reject_of_pos holds code rest⟩

/-- A malformed call fails whatever the instance holds. -/
theorem refuses_malformed (state : Inventory) (malformed : op.Malformed q.toConfig) :
    Refuses (serve q state op) := by
  cases op with
  | initializeAllocation p =>
    obtain rfl : p = .null := malformed
    exact refuses_error _
  | malloc p pMemory size =>
    cases p <;> cases pMemory
    case self.some p => exact refuses_of_pos (by simpa [Op.Malformed] using malformed) _ _
    all_goals exact refuses_error _
  | free p pMemory =>
    cases p <;> cases pMemory
    case self.some p => exact refuses_of_pos (by simpa [Op.Malformed] using malformed) _ _
    all_goals exact refuses_error _
  | calloc p pMemory len sizeOfElem =>
    cases p <;> cases pMemory
    case self.some p =>
      refine Refuses.check fun positive => Refuses.later fun blocks _ => ?_
      refine refuses_of_pos ?_ _ _
      obtain ⟨len_pos, elem_pos⟩ := not_or.mp positive
      simpa [Op.Malformed, len_pos, elem_pos] using malformed
    all_goals exact refuses_error _
  | realloc p pMemory size =>
    cases p <;> cases pMemory
    case self.some p =>
      obtain ⟨zero, null⟩ : size = 0 ∧ p = 0 := by simpa [Op.Malformed] using malformed
      refine Refuses.later fun blocks _ => ?_
      rw [if_pos zero]
      exact refuses_of_pos null _ _
    all_goals exact refuses_error _
  | getMemoryUsage p out =>
    cases p <;> cases out
    case self.some out => simp [Op.Malformed] at malformed
    all_goals exact refuses_error _
  | getMaxNewAllocationSize p out =>
    cases p <;> cases out
    case self.some out => simp [Op.Malformed] at malformed
    all_goals exact refuses_error _
  | getFreeAllocatorCnt p out =>
    cases p <;> cases out
    case self.some out => simp [Op.Malformed] at malformed
    all_goals exact refuses_error _
  | deinitAllocation p =>
    obtain rfl : p = .null := malformed
    exact refuses_error _
  | safeMemoryCopy p outside dst src count =>
    cases p
    · exact refuses_error _
    · exact refuses_of_pos (by simpa [Op.Malformed] using malformed) _ _
  | safeMemorySet p dst value count =>
    cases p
    · exact refuses_error _
    · exact refuses_of_pos (by simpa [Op.Malformed] using malformed) _ _

/-- On an instance that is not initialized every call fails but the initialization. -/
theorem refuses_none (other : op ≠ .initializeAllocation .self) : Refuses (serve q none op) := by
  have closed : ∀ {α : Type} (rest : List Block → Except DsErrCode α),
      Refuses (opened none >>= rest) := fun rest => (refuses_error .noInit).bind rest
  cases op with
  | initializeAllocation p =>
    cases p
    · exact refuses_error _
    · exact absurd rfl other
  | malloc p pMemory size =>
    cases p <;> cases pMemory
    case self.some p => exact Refuses.check fun _ => closed _
    all_goals exact refuses_error _
  | free p pMemory =>
    cases p <;> cases pMemory
    case self.some p => exact Refuses.check fun _ => closed _
    all_goals exact refuses_error _
  | calloc p pMemory len sizeOfElem =>
    cases p <;> cases pMemory
    case self.some p => exact Refuses.check fun _ => closed _
    all_goals exact refuses_error _
  | realloc p pMemory size => cases p <;> cases pMemory <;> exact refuses_error _
  | getMemoryUsage p out => cases p <;> cases out <;> exact refuses_error _
  | getMaxNewAllocationSize p out => cases p <;> cases out <;> exact refuses_error _
  | getFreeAllocatorCnt p out => cases p <;> cases out <;> exact refuses_error _
  | deinitAllocation p => cases p <;> exact refuses_error _
  | safeMemoryCopy p outside dst src count =>
    cases p
    · exact refuses_error _
    · exact Refuses.check fun _ => closed _
  | safeMemorySet p dst value count =>
    cases p
    · exact refuses_error _
    · exact Refuses.check fun _ => closed _

section Layout

variable {layout : Layout q.toConfig} {memory : Nat → UInt8} {p size : Nat}

theorem refuses_of_requests {zeroed : Nat} (requests : op.Requests p size zeroed)
    (refuses : Refuses (serveRequest q layout.blocks p size)) :
    Refuses (serve q (some layout.blocks) op) := by
  cases requests with
  | malloc => exact Refuses.check fun _ => refuses
  | calloc => exact Refuses.check fun _ => Refuses.check fun _ => refuses
  | realloc =>
    change Refuses (if size = 0 then _ else _)
    by_cases zero : size = 0
    · rw [if_pos zero]
      exact refuses_of_pos rfl _ _
    · rw [if_neg zero, if_pos rfl]
      exact refuses

/-- A pointer to no live block is neither freed nor resized. -/
theorem refuses_of_dead (target : op.target = some p) (nonNull : p ≠ 0)
    (dead : blockAt q layout.blocks p = none) : Refuses (serve q (some layout.blocks) op) := by
  have sought : Refuses (seekStart q layout.blocks p) := ⟨_, seekStart_dead dead⟩
  cases op with
  | free p' pMemory =>
    cases target
    cases p'
    · exact refuses_error _
    · exact Refuses.check fun _ => sought.bind _
  | realloc p' pMemory size =>
    cases target
    cases p'
    · exact refuses_error _
    · change Refuses (if size = 0 then _ else _)
      split
      · exact Refuses.check fun _ => sought.bind _
      · exact Refuses.check fun _ => sought.bind _
  | _ => cases target

theorem refuses_of_large (requested : op.requested = some size)
    (large : q.maxAllocationSize < size) : Refuses (serve q (some layout.blocks) op) := by
  cases op with
  | malloc p pMemory size =>
    cases requested
    cases p <;> cases pMemory
    case self.some p => exact Refuses.check fun _ => refuses_of_pos large _ _
    all_goals exact refuses_error _
  | calloc p pMemory len sizeOfElem =>
    cases requested
    cases p <;> cases pMemory
    case self.some p =>
      exact Refuses.check fun _ => Refuses.check fun _ => refuses_of_pos large _ _
    all_goals exact refuses_error _
  | realloc p pMemory size' =>
    have positive : size' ≠ 0 := by
      rintro rfl
      cases requested
    cases (if_neg positive).symm.trans requested
    cases p <;> cases pMemory
    case self.some p =>
      change Refuses (if size = 0 then _ else _)
      rw [if_neg positive]
      split <;> exact refuses_of_pos large _ _
    all_goals exact refuses_error _
  | _ => cases requested

/-- A call that needs a block fails where there is no room for one. -/
theorem refuses_of_needs (needs : Needs q (layout.encode memory) op size)
    (full : ¬ Room q.toConfig layout.blocks (roundUp q.alignment size)) :
    Refuses (serve q (some layout.blocks) op) := by
  have refused : Refuses (grant q.toConfig layout.blocks (roundUp q.alignment size)) :=
    ⟨_, grant_refused full⟩
  cases needs with
  | request _ requests =>
    exact refuses_of_requests requests
      (Refuses.check fun _ => Refuses.check fun _ => refused.bind _)
  | resize live positive small more blocked =>
    obtain ⟨index, found, same⟩ := live.index
    obtain rfl := Nat.add_left_cancel same
    rw [growsInPlace_encode_iff found] at blocked
    have based := q.base_pos
    change Refuses (if size = 0 then _ else _)
    rw [if_neg positive.ne', if_neg (by omega)]
    refine Refuses.check fun _ => Refuses.later fun found' sought => ?_
    rw [seekStart_live found] at sought
    cases sought
    dsimp only
    rw [if_neg (Nat.not_le.mpr more), if_neg blocked]
    exact refused.bind _

theorem refuses_of_writes {dst count : Nat} {source : Nat → UInt8}
    (writes : op.Writes q (layout.encode memory) dst count source)
    (outside : 0 < count → ¬ InsideBlock q (layout.encode memory) dst count) :
    Refuses (serve q (some layout.blocks) op) := by
  have refuses : count ≠ 0 → Refuses (serveWrite q layout.blocks dst count) := by
    intro nonZero
    unfold serveWrite
    by_cases live : ∃ index size inside, layout.blocks[index]? = some ⟨size, true⟩ ∧
        inside < size ∧ dst = q.base + (start layout.blocks index + inside)
    · obtain ⟨index, size, inside, found, small, rfl⟩ := live
      rw [seek_live found small]
      refine refuses_of_pos ?_ _ _
      by_contra fits
      exact outside (Nat.pos_of_ne_zero nonZero) (insideBlock_encode_iff.mpr
        ⟨index, size, inside, found, Nat.le_of_not_lt fits, rfl⟩)
    · rw [seek_dead fun index size inside found small same =>
        live ⟨index, size, inside, found, small, same⟩]
      exact (refuses_error _).bind _
  cases writes with
  | copy outside dst src count =>
    exact Refuses.check fun good => refuses fun zero => good (.inr (.inr zero))
  | set dst value count => exact Refuses.check fun good => refuses fun zero => good (.inr zero)

/-- Where no parked block fits, room is a record and the space at the end. -/
theorem room_of_fitting_empty (unfit : Fitting q.toConfig (layout.encode memory) size = ∅)
    (room : Room q.toConfig layout.blocks size) :
    layout.blocks.length < q.maxAllocationCount ∧
      extent layout.blocks + size ≤ q.bufferMemorySize := by
  refine room.resolve_left ?_
  rw [← firstFit_eq_none_iff]
  exact firstFit_of_fitting_empty unfit

/-- On an initialized instance. -/
theorem refuses_of_cause {code : DsErrCode} (cause : Cause q (layout.encode memory) op code) :
    Refuses (serve q (some layout.blocks) op) := by
  cases cause with
  | noInit raw => exact absurd rfl raw
  | invalidArg malformed => exact refuses_malformed _ malformed
  | alreadyInit _ same =>
    rw [same]
    exact refuses_of_pos nofun _ _
  | noMemory needs unfit _ short =>
    refine refuses_of_needs needs fun room => ?_
    exact absurd (room_of_fitting_empty unfit room).2 (Nat.not_le.mpr short)
  | @shortBlock dst count p capacity source writes live above below short =>
    refine refuses_of_writes writes fun positive => ?_
    rintro ⟨p', capacity', live', above', below'⟩
    obtain ⟨index, found, rfl⟩ := live.index
    obtain ⟨index', found', rfl⟩ := live'.index
    obtain rfl := @index_unique _ _ _ (dst - q.base) _ _ found found'
      ⟨by omega, by dsimp only; omega⟩ ⟨by omega, by dsimp only; omega⟩
    cases found.symm.trans found'
    omega
  | noAllocators needs unfit used =>
    refine refuses_of_needs needs fun room => ?_
    obtain ⟨index, inside, unused⟩ := exists_notUsed_iff.mpr (room_of_fitting_empty unfit room).1
    exact used index inside unused
  | tooBigChunk requested large => exact refuses_of_large requested large
  | foreign target nonNull outside =>
    refine refuses_of_dead target nonNull ?_
    rw [Option.eq_none_iff_forall_ne_some]
    intro capacity found
    have bounds := blockAt_inside found
    have positive := blockAt_pos found
    omega
  | foreignWrite writes outside =>
    refine refuses_of_writes writes fun positive => ?_
    rintro ⟨p, capacity, live, above, below⟩
    have bounds := blockAt_inside (liveBlock_encode_iff.mp live)
    omega
  | stale target inside dead =>
    have based := q.base_pos
    exact refuses_of_dead target (by omega) (not_liveBlock_encode_iff.mp dead)
  | staleWrite writes inside dead =>
    refine refuses_of_writes writes fun positive => ?_
    rintro ⟨p, capacity, live, above, below⟩
    exact dead ⟨p, capacity, live, by omega, by omega⟩
  | ptrAllocYet requests live =>
    refine refuses_of_requests requests (Refuses.check fun _ => refuses_of_pos ?_ _ _)
    rw [liveBlock_encode_iff.mp live]
    nofun

end Layout

/-- Nothing is wrong with the initialization of an instance that is not initialized. -/
theorem not_cause_first {s : DynostaticBuffer} (raw : s.initMagic ≠ dsMagicNumber)
    {code : DsErrCode} : ¬ Cause q s (.initializeAllocation .self) code := by
  rintro (⟨-, other⟩ | malformed | initialized | needs | writes | needs | requested | target |
    writes | target | writes | requests)
  · exact other rfl
  · cases malformed
  · exact raw initialized
  · exact raw needs.initialized
  · cases writes
  · exact raw needs.initialized
  · cases requested
  · cases target
  · cases writes
  · cases target
  · cases writes
  · cases requests

/-- **A call of the machine with a cause fails.** -/
theorem refuses_serve {s : DynostaticBuffer} (formed : WellFormed q s) {code : DsErrCode}
    (cause : Cause q s op code) : Refuses (serve q (inventory q s) op) := by
  rcases formed with raw | ⟨layout, memory, rfl⟩
  · rw [inventory_uninitialized raw]
    by_cases other : op = .initializeAllocation .self
    · subst other
      exact absurd cause (not_cause_first raw)
    · exact refuses_none other
  · rw [inventory_encode]
    exact refuses_of_cause cause

end Complete

/-- **The code of a call that fails has its cause.** -/
theorem cause_of_code {q : Placement} {s : DynostaticBuffer} (formed : WellFormed q s) {op : Op}
    (notOk : (reply q s op).code ≠ .ok) : Cause q s op (reply q s op).code := by
  have shown : (reply q s op).code = (attend q (inventory q s) op).code :=
    congrArg Shown.code (reply_shown formed op)
  rw [shown] at notOk ⊢
  unfold attend at notOk ⊢
  rcases served : serve q (inventory q s) op with code | answer
  · exact blames_serve formed code served
  · rw [served] at notOk
    exact absurd rfl notOk

/-- **The error contract.** In every reachable state, initialized or not, and for any arguments: a
call succeeds exactly if nothing is wrong with it, and the code of a call that fails names
something that is. -/
theorem error_contract {q : Placement} {s : DynostaticBuffer} (reachable : Reachable q s)
    (op : Op) :
    ((reply q s op).code = .ok ↔ ∀ code, ¬ Cause q s op code) ∧
      ((reply q s op).code ≠ .ok → Cause q s op (reply q s op).code) := by
  have formed := reachable.wellFormed
  refine ⟨⟨fun ok code cause => ?_, fun none => ?_⟩, cause_of_code formed⟩
  · obtain ⟨code', refused⟩ := refuses_serve formed cause
    have shown : (reply q s op).code = (attend q (inventory q s) op).code :=
      congrArg Shown.code (reply_shown formed op)
    rw [attend, refused] at shown
    obtain rfl : code' = .ok := shown.symm.trans ok
    exact (Cause.ne_ok (blames_serve formed _ refused)) rfl
  · by_contra notOk
    exact none _ (cause_of_code formed notOk)

/-- A pointer into a live block is not a block to free. -/
theorem error_contract_interior :
    Cause defaultPlacement twoLive (.free .self (some 4100)) .allocatorNotFound := by
  have code : (reply defaultPlacement twoLive (.free .self (some 4100))).code =
      .allocatorNotFound := by decide
  have contract := (error_contract twoLive_reachable (.free .self (some 4100))).2
  rw [code] at contract
  exact contract nofun

end Dynostatic
