/-
**An instance at another address.**

The records hold offsets, and the arena no address at all. So the bytes of an instance can be copied
to another place, and there it goes on as it did at the first: every call gets the same code and
leaves the same records, if each pointer of the client is moved along (`Corresponds`: an address in
one arena goes to the same offset in the other, `NULL` to `NULL`, and a foreign address to a foreign
one).

* `serve_relocated` — one call of the machine at both places;
* `relocation` — a run at one place and the run with its pointers moved at the other.
-/

import Dynostatic.Machine

namespace Dynostatic

open Tracing Tracing.Traced Tiling Rounding Runs

/-! ### Pointers and calls that are moved along -/

/-- An address means to one instance what the other means to the other. -/
inductive Corresponds (q q' : Placement) : Nat → Nat → Prop
  | null : Corresponds q q' 0 0
  | inside {offset : Nat} (small : offset < q.bufferMemorySize) :
      Corresponds q q' (q.base + offset) (q'.base + offset)
  | outside {p p' : Nat} (nonNull : p ≠ 0) (nonNull' : p' ≠ 0)
      (foreign : p < q.base ∨ q.base + q.bufferMemorySize ≤ p)
      (foreign' : p' < q'.base ∨ q'.base + q'.bufferMemorySize ≤ p') : Corresponds q q' p p'

/-- The same call, its pointers moved along. The bytes that a copy finds outside the arena and the
value of a fill may be any. -/
inductive Op.Relocated (q q' : Placement) : Op → Op → Prop
  | initializeAllocation (p : BufferArg) :
      Op.Relocated q q' (.initializeAllocation p) (.initializeAllocation p)
  | malloc (p : BufferArg) {pMemory pMemory' : Option Nat}
      (cells : Option.Rel (Corresponds q q') pMemory pMemory') (size : Nat) :
      Op.Relocated q q' (.malloc p pMemory size) (.malloc p pMemory' size)
  | free (p : BufferArg) {pMemory pMemory' : Option Nat}
      (cells : Option.Rel (Corresponds q q') pMemory pMemory') :
      Op.Relocated q q' (.free p pMemory) (.free p pMemory')
  | calloc (p : BufferArg) {pMemory pMemory' : Option Nat}
      (cells : Option.Rel (Corresponds q q') pMemory pMemory') (len sizeOfElem : Nat) :
      Op.Relocated q q' (.calloc p pMemory len sizeOfElem) (.calloc p pMemory' len sizeOfElem)
  | realloc (p : BufferArg) {pMemory pMemory' : Option Nat}
      (cells : Option.Rel (Corresponds q q') pMemory pMemory') (size : Nat) :
      Op.Relocated q q' (.realloc p pMemory size) (.realloc p pMemory' size)
  | getMemoryUsage (p : BufferArg) (out : Option Nat) :
      Op.Relocated q q' (.getMemoryUsage p out) (.getMemoryUsage p out)
  | getMaxNewAllocationSize (p : BufferArg) (out : Option Nat) :
      Op.Relocated q q' (.getMaxNewAllocationSize p out) (.getMaxNewAllocationSize p out)
  | getFreeAllocatorCnt (p : BufferArg) (out : Option Nat) :
      Op.Relocated q q' (.getFreeAllocatorCnt p out) (.getFreeAllocatorCnt p out)
  | deinitAllocation (p : BufferArg) :
      Op.Relocated q q' (.deinitAllocation p) (.deinitAllocation p)
  | safeMemoryCopy (p : BufferArg) (outside outside' : Nat → UInt8) {dst dst' src src' : Nat}
      (target : Corresponds q q' dst dst') (source : Corresponds q q' src src') (count : Nat) :
      Op.Relocated q q' (.safeMemoryCopy p outside dst src count)
        (.safeMemoryCopy p outside' dst' src' count)
  | safeMemorySet (p : BufferArg) {dst dst' : Nat} (target : Corresponds q q' dst dst')
      (value value' : Int) (count : Nat) :
      Op.Relocated q q' (.safeMemorySet p dst value count) (.safeMemorySet p dst' value' count)

/-- The same action: a store of the client may be any. -/
inductive Action.Relocated (q q' : Placement) : Action → Action → Prop
  | call {op op' : Op} (relocated : op.Relocated q q' op') :
      Action.Relocated q q' (.call op) (.call op')
  | store (offset offset' : Nat) (byte byte' : UInt8) :
      Action.Relocated q q' (.store offset byte) (.store offset' byte')

/-- What the content of the caller's variable is: a number for a getter, otherwise an address. -/
def Op.Means (q q' : Placement) : Op → Nat → Nat → Prop
  | .getMemoryUsage _ _ => Eq
  | .getMaxNewAllocationSize _ _ => Eq
  | .getFreeAllocatorCnt _ _ => Eq
  | _ => Corresponds q q'

/-- Two calls show the same, up to where the instances lie. -/
structure Shown.Relocated (q q' : Placement) (op : Op) (here there : Shown) : Prop where
  code_eq : here.code = there.code
  after_eq : here.after = there.after
  cells : Option.Rel (op.Means q q') here.cell there.cell

/-- What a call shows, with the call. -/
def tells (q : Placement) (s : DynostaticBuffer) : Action → Option (Op × Shown)
  | .call op => some (op, (reply q s op).shown q)
  | .store _ _ => none

/-! ### Lookups -/

section Lookups

variable {q q' : Placement} {blocks : List Block} {p p' : Nat}

theorem Corresponds.null_iff (corresponds : Corresponds q q' p p') : p = 0 ↔ p' = 0 := by
  have based := q.base_pos
  have based' := q'.base_pos
  cases corresponds with
  | null => exact Iff.rfl
  | inside small => omega
  | outside nonNull nonNull' => exact iff_of_false nonNull nonNull'

/-- In the arena a lookup depends on the offset alone. -/
theorem seek_inside {offset : Nat} (small : offset < q.bufferMemorySize) :
    seek q blocks (q.base + offset) =
      ((holding blocks offset).elim (.error .allocatorNotFound) .ok) := by
  unfold seek deadCode
  rw [if_pos (Nat.le_add_right _ _), Nat.add_sub_cancel_left, if_neg (by omega)]
  cases holding blocks offset <;> rfl

/-- Outside of it there is no block. -/
theorem seek_foreign (bound : extent blocks ≤ q.bufferMemorySize)
    (foreign : p < q.base ∨ q.base + q.bufferMemorySize ≤ p) :
    seek q blocks p = .error .memoryOutOfDs := by
  have missed : (if q.base ≤ p then holding blocks (p - q.base) else none) = none := by
    rw [Option.eq_none_iff_forall_ne_some]
    rintro ⟨index, size, inside⟩ held
    split at held
    · obtain ⟨found, small, same⟩ := holding_eq_some_iff.mp held
      have := end_le_extent found
      have : (⟨size, true⟩ : Block).size = size := rfl
      omega
    · cases held
  unfold seek deadCode
  rw [missed, if_pos foreign]

variable (build : q'.toConfig = q.toConfig) (bound : extent blocks ≤ q.bufferMemorySize)

include build bound

theorem Corresponds.seek_eq (corresponds : Corresponds q q' p p') :
    seek q' blocks p' = seek q blocks p := by
  have size : q'.bufferMemorySize = q.bufferMemorySize := congrArg Config.bufferMemorySize build
  have based := q.base_pos
  have based' := q'.base_pos
  cases corresponds with
  | null => rw [seek_foreign bound (.inl based), seek_foreign (size ▸ bound) (.inl based')]
  | inside small => rw [seek_inside small, seek_inside (size ▸ small)]
  | outside _ _ foreign foreign' =>
    rw [seek_foreign bound foreign, seek_foreign (size ▸ bound) foreign']

theorem Corresponds.seekStart_eq (corresponds : Corresponds q q' p p') :
    seekStart q' blocks p' = seekStart q blocks p := by
  unfold seekStart
  rw [corresponds.seek_eq build bound]

theorem Corresponds.blockAt_eq (corresponds : Corresponds q q' p p') :
    blockAt q' blocks p' = blockAt q blocks p := by
  have size : q'.bufferMemorySize = q.bufferMemorySize := congrArg Config.bufferMemorySize build
  have based := q.base_pos
  have based' := q'.base_pos
  -- a foreign address is the start of no block
  have foreign : ∀ (q'' : Placement) (address : Nat), q''.bufferMemorySize = q.bufferMemorySize →
      address < q''.base ∨ q''.base + q''.bufferMemorySize ≤ address →
        blockAt q'' blocks address = none := by
    intro q'' address same out
    rw [Option.eq_none_iff_forall_ne_some]
    intro capacity live
    obtain ⟨offset, here, rfl⟩ := blockAt_eq_some_iff.mp live
    have := liveAt_end_le here
    have := liveAt_pos here
    omega
  cases corresponds with
  | null => rw [foreign q 0 rfl (.inl based), foreign q' 0 size (.inl based')]
  | inside small => rw [blockAt_base, blockAt_base]
  | outside _ _ out out' => rw [foreign q p rfl out, foreign q' p' size out']

end Lookups

/-! ### Answers -/

/-- Two answers are the same, up to where the instances lie. -/
inductive SameAnswer (means : Nat → Nat → Prop) :
    Except DsErrCode (Inventory × Option Nat) → Except DsErrCode (Inventory × Option Nat) → Prop
  | error (code : DsErrCode) : SameAnswer means (.error code) (.error code)
  | ok (after : Inventory) {left left' : Option Nat} (cells : Option.Rel means left left') :
      SameAnswer means (.ok (after, left)) (.ok (after, left'))

section Answers

variable {means : Nat → Nat → Prop}

/-- **The rule for a check** that both make. -/
theorem SameAnswer.check {condition condition' : Prop} [Decidable condition]
    [Decidable condition'] {code : DsErrCode}
    {rest rest' : Unit → Except DsErrCode (Inventory × Option Nat)}
    (same : condition ↔ condition')
    (later : ¬ condition → SameAnswer means (rest ()) (rest' ())) :
    SameAnswer means (reject condition code >>= rest) (reject condition' code >>= rest') := by
  by_cases holds : condition
  · rw [reject_of_pos holds, reject_of_pos (same.mp holds)]
    exact .error code
  · rw [reject_of_neg holds, reject_of_neg (fun other => holds (same.mpr other))]
    exact later holds

/-- **The rule for a step** that gives both the same. -/
theorem SameAnswer.step {α : Type} {first first' : Except DsErrCode α}
    {rest rest' : α → Except DsErrCode (Inventory × Option Nat)} (same : first' = first)
    (later : ∀ a, first = .ok a → SameAnswer means (rest a) (rest' a)) :
    SameAnswer means (first >>= rest) (first' >>= rest') := by
  subst same
  cases first' with
  | error code => exact .error code
  | ok a => exact later a rfl

variable {q q' : Placement} (build : q'.toConfig = q.toConfig) (layout : Layout q.toConfig)
  {p p' : Nat} (corresponds : Corresponds q q' p p')

/-- The addresses of one block. -/
theorem corresponds_start {after : Layout q.toConfig} {index : Nat} {block : Block}
    (found : after.blocks[index]? = some block) :
    Corresponds q q' (q.base + start after.blocks index) (q'.base + start after.blocks index) := by
  have inside := after.end_le found
  have positive := (after.capacity_of_getElem? found).positive
  exact .inside (by omega)

include build

/-- What a grant leaves is a layout, and the block lies in it. -/
theorem sameAnswer_grant {size : Nat} (positive : 0 < size) (small : size ≤ q.maxAllocationSize)
    (leaves : List Block × Nat → Inventory) :
    SameAnswer (Corresponds q q')
      (grant q.toConfig layout.blocks (roundUp q.alignment size) >>= fun taken =>
        pure (leaves taken, some (q.base + start taken.1 taken.2)))
      (grant q'.toConfig layout.blocks (roundUp q.alignment size) >>= fun taken =>
        pure (leaves taken, some (q'.base + start taken.1 taken.2))) := by
  refine SameAnswer.step (by rw [build]) fun taken granted => ?_
  rcases grant_cases layout (fun _ => 0) positive small with
    ⟨after, index, placed, granted', -⟩ | ⟨-, refused⟩
  · rw [granted'] at granted
    cases granted
    obtain ⟨capacity, -, found⟩ := placed.getElem?_eq
    exact .ok _ (.some (corresponds_start found))
  · rw [refused] at granted
    cases granted

include corresponds

theorem sameAnswer_serveRequest {size : Nat} (positive : 0 < size) :
    SameAnswer (Corresponds q q') (serveRequest q layout.blocks p size)
      (serveRequest q' layout.blocks p' size) := by
  refine SameAnswer.check (by rw [build]) fun small => ?_
  refine SameAnswer.check (by rw [corresponds.blockAt_eq build layout.extent_le]) fun _ => ?_
  rw [congrArg Config.alignment build]
  exact sameAnswer_grant build layout positive (Nat.le_of_not_lt small) fun taken => some taken.1

theorem sameAnswer_serveRelease :
    SameAnswer (Corresponds q q') (serveRelease q layout.blocks p)
      (serveRelease q' layout.blocks p') :=
  SameAnswer.step (corresponds.seekStart_eq build layout.extent_le) fun _ _ =>
    .ok _ (.some .null)

theorem sameAnswer_serveResize {size : Nat} (positive : 0 < size) :
    SameAnswer (Corresponds q q') (serveResize q layout.blocks p size)
      (serveResize q' layout.blocks p' size) := by
  refine SameAnswer.check (by rw [build]) fun small => ?_
  refine SameAnswer.step (corresponds.seekStart_eq build layout.extent_le) fun found _ => ?_
  obtain ⟨index, capacity⟩ := found
  have arena : q'.bufferMemorySize = q.bufferMemorySize := congrArg Config.bufferMemorySize build
  have unit : q'.alignment = q.alignment := congrArg Config.alignment build
  dsimp only
  rw [arena, unit]
  split
  · exact .ok _ (.some corresponds)
  · split
    · exact .ok _ (.some corresponds)
    · exact sameAnswer_grant build layout positive (Nat.le_of_not_lt small) fun taken =>
        some (release taken.1 index)

theorem sameAnswer_serveWrite {means : Nat → Nat → Prop} (count : Nat) :
    SameAnswer means (serveWrite q layout.blocks p count) (serveWrite q' layout.blocks p' count) :=
  SameAnswer.step (corresponds.seek_eq build layout.extent_le) fun _ _ =>
    SameAnswer.check Iff.rfl fun _ => .ok _ .none

omit corresponds build

/-- **The rule for the check of `init_magic`.** -/
theorem SameAnswer.opened {state : Inventory}
    (formed : ∀ blocks ∈ state, ∃ layout : Layout q.toConfig, layout.blocks = blocks)
    {rest rest' : List Block → Except DsErrCode (Inventory × Option Nat)}
    (later : ∀ layout : Layout q.toConfig, state = some layout.blocks →
      SameAnswer means (rest layout.blocks) (rest' layout.blocks)) :
    SameAnswer means (opened state >>= rest) (opened state >>= rest') := by
  refine SameAnswer.step rfl fun blocks here => ?_
  cases state with
  | none => cases here
  | some blocks' =>
    cases here
    obtain ⟨layout, rfl⟩ := formed blocks rfl
    exact later layout rfl

include build

/-- **A call of the machine at both places.** -/
theorem serve_relocated {op op' : Op} (relocated : op.Relocated q q' op') {state : Inventory}
    (formed : ∀ blocks ∈ state, ∃ layout : Layout q.toConfig, layout.blocks = blocks) :
    SameAnswer (op.Means q q') (serve q state op) (serve q' state op') := by
  cases relocated with
  | initializeAllocation p =>
    cases p with
    | null => exact .error _
    | self => exact SameAnswer.check Iff.rfl fun _ => .ok _ .none
  | malloc p cells size =>
    cases p <;> cases cells
    case self.some corresponds =>
      refine SameAnswer.check Iff.rfl fun positive => SameAnswer.opened formed fun layout _ => ?_
      exact sameAnswer_serveRequest build layout corresponds (Nat.pos_of_ne_zero positive)
    all_goals exact .error _
  | free p cells =>
    cases p <;> cases cells
    case self.some corresponds =>
      refine SameAnswer.check corresponds.null_iff fun _ => SameAnswer.opened formed ?_
      exact fun layout _ => sameAnswer_serveRelease build layout corresponds
    all_goals exact .error _
  | calloc p cells len sizeOfElem =>
    cases p <;> cases cells
    case self.some corresponds =>
      refine SameAnswer.check Iff.rfl fun given => SameAnswer.opened formed fun layout _ => ?_
      refine SameAnswer.check (by rw [build]) fun _ => ?_
      obtain ⟨left, right⟩ := not_or.mp given
      exact sameAnswer_serveRequest build layout corresponds
        (Nat.mul_pos (Nat.pos_of_ne_zero left) (Nat.pos_of_ne_zero right))
    all_goals exact .error _
  | realloc p cells size =>
    cases p <;> cases cells
    case self.some p p' corresponds =>
      refine SameAnswer.opened formed fun layout _ => ?_
      by_cases zero : size = 0
      · rw [if_pos zero, if_pos zero]
        exact SameAnswer.check corresponds.null_iff fun _ =>
          sameAnswer_serveRelease build layout corresponds
      · rw [if_neg zero, if_neg zero]
        by_cases null : p = 0
        · rw [if_pos null, if_pos (corresponds.null_iff.mp null)]
          exact sameAnswer_serveRequest build layout .null (Nat.pos_of_ne_zero zero)
        · rw [if_neg null, if_neg fun null' => null (corresponds.null_iff.mpr null')]
          exact sameAnswer_serveResize build layout corresponds (Nat.pos_of_ne_zero zero)
    all_goals exact .error _
  | getMemoryUsage p out =>
    cases p <;> cases out
    case self.some =>
      exact SameAnswer.opened formed fun layout _ => .ok _ (.some (by rw [build]; rfl))
    all_goals exact .error _
  | getMaxNewAllocationSize p out =>
    cases p <;> cases out
    case self.some =>
      exact SameAnswer.opened formed fun layout _ => .ok _ (.some (by rw [build]; rfl))
    all_goals exact .error _
  | getFreeAllocatorCnt p out =>
    cases p <;> cases out
    case self.some =>
      exact SameAnswer.opened formed fun layout _ => .ok _ (.some (by rw [build]; rfl))
    all_goals exact .error _
  | deinitAllocation p =>
    cases p with
    | null => exact .error _
    | self => exact SameAnswer.opened formed fun _ _ => .ok _ .none
  | safeMemoryCopy p outside outside' target source count =>
    cases p with
    | null => exact .error _
    | self =>
      refine SameAnswer.check (or_congr target.null_iff (or_congr source.null_iff Iff.rfl)) ?_
      exact fun _ => SameAnswer.opened formed fun layout _ =>
        sameAnswer_serveWrite build layout target count
  | safeMemorySet p target value value' count =>
    cases p with
    | null => exact .error _
    | self =>
      refine SameAnswer.check (or_congr target.null_iff Iff.rfl) fun _ => ?_
      exact SameAnswer.opened formed fun layout _ =>
        sameAnswer_serveWrite build layout target count

end Answers

/-! ### Runs -/

section Run

variable {q q' : Placement}

/-- The caller's variable before the call is moved along. -/
theorem Op.Relocated.cell_rel {op op' : Op} (relocated : op.Relocated q q' op') :
    Option.Rel (op.Means q q') op.cell op'.cell := by
  cases relocated with
  | malloc _ cells => exact cells
  | free _ cells => exact cells
  | calloc _ cells => exact cells
  | realloc _ cells => exact cells
  | getMemoryUsage _ out => cases out <;> constructor; rfl
  | getMaxNewAllocationSize _ out => cases out <;> constructor; rfl
  | getFreeAllocatorCnt _ out => cases out <;> constructor; rfl
  | _ => exact .none

theorem attend_relocated (build : q'.toConfig = q.toConfig) {op op' : Op}
    (relocated : op.Relocated q q' op') {state : Inventory}
    (formed : ∀ blocks ∈ state, ∃ layout : Layout q.toConfig, layout.blocks = blocks) :
    Shown.Relocated q q' op (attend q state op) (attend q' state op') := by
  have answer := serve_relocated build relocated formed
  have cells := relocated.cell_rel
  unfold attend
  generalize serve q state op = here at answer
  generalize serve q' state op' = there at answer
  cases answer with
  | error code => exact ⟨rfl, rfl, cells⟩
  | ok after left => exact ⟨rfl, rfl, left⟩

/-- The bytes of an instance that is well formed at one place are well formed at another. -/
theorem WellFormed.relocated (build : q'.toConfig = q.toConfig) {s : DynostaticBuffer}
    (formed : WellFormed q s) : WellFormed q' s := by
  obtain ⟨c, base⟩ := q
  obtain ⟨c', base'⟩ := q'
  obtain rfl : c' = c := build
  exact formed

/-- The blocks of a well formed instance are a layout. -/
theorem WellFormed.exists_layout {s : DynostaticBuffer} (formed : WellFormed q s) :
    ∀ blocks ∈ inventory q s, ∃ layout : Layout q.toConfig, layout.blocks = blocks := by
  rcases formed with raw | ⟨layout, memory, rfl⟩
  · rw [inventory_uninitialized raw]
    exact nofun
  · rw [inventory_encode]
    rintro blocks ⟨⟩
    exact ⟨layout, rfl⟩

/-- **One step at both places.** -/
theorem InStep.relocated (build : q'.toConfig = q.toConfig) {s t : DynostaticBuffer}
    (inStep : InStep q q' s t) {action action' : Action}
    (relocated : action.Relocated q q' action') :
    Option.Rel (fun here there => Shown.Relocated q q' here.1 here.2 there.2) (tells q s action)
        (tells q' t action') ∧
      InStep q q' (next q s action) (next q' t action') := by
  have same := inStep.inventory_eq
  cases relocated with
  | @call op op' relocated =>
    have shown := attend_relocated build relocated inStep.formed.exists_layout
    conv at shown => rhs; rw [same]
    rw [← reply_shown inStep.formed, ← reply_shown inStep.formed'] at shown
    exact ⟨.some shown, inStep.formed.next _, inStep.formed'.next _, shown.after_eq⟩
  | store offset offset' byte byte' =>
    refine ⟨.none, inStep.formed.next _, inStep.formed'.next _, ?_⟩
    exact (inventory_storeByte s _).trans (same.trans (inventory_storeByte t _).symm)

/-- **Moving an instance.** Copy the bytes of a reachable instance to where another instance of the
build may lie, and move the client's pointers along. From there on every run shows the same codes,
the same records and, up to the distance, the same addresses. -/
theorem relocation (build : q'.toConfig = q.toConfig) {s : DynostaticBuffer}
    (reachable : Reachable q s) {actions actions' : List Action}
    (relocated : List.Forall₂ (Action.Relocated q q') actions actions') :
    List.Forall₂
        (Option.Rel fun here there => Shown.Relocated q q' here.1 here.2 there.2)
        (trace (next q) (tells q) s actions) (trace (next q') (tells q') s actions') ∧
      inventory q (run (next q) s actions) = inventory q' (run (next q') s actions') := by
  have formed := reachable.wellFormed
  have step : ∀ s t action action', InStep q q' s t → action.Relocated q q' action' →
      Option.Rel (fun here there => Shown.Relocated q q' here.1 here.2 there.2)
          (tells q s action) (tells q' t action') ∧
        InStep q q' (next q s action) (next q' t action') :=
    fun _ _ _ _ inStep moved => inStep.relocated build moved
  have first : InStep q q' s s := ⟨formed, formed.relocated build, by unfold inventory; rw [build]⟩
  obtain ⟨shown, last⟩ := trace_related step relocated first
  exact ⟨shown, last.inventory_eq⟩

end Run

/-- Another place for the default build. -/
def elsewhere : Placement :=
  { defaultPlacement with
    base := 20480
    allocatorsBase := 24576
    base_pos := by decide
    allocatorsBase_pos := by decide
    base_aligned := by decide
    base_fits := by decide }

/-- A block is freed, a stale and a foreign pointer are refused, and the other block is moved. -/
theorem relocation_twoLive :
    inventory defaultPlacement (run (next defaultPlacement) twoLive
      [.call (.free .self (some 4096)), .call (.free .self (some 4096)),
        .call (.free .self (some 7)), .call (.malloc .self (some 0) 5), .store 12 1,
        .call (.malloc .self (some 0) 5), .call (.realloc .self (some 4108) 40)]) =
    inventory elsewhere (run (next elsewhere) twoLive
      [.call (.free .self (some 20480)), .call (.free .self (some 20480)),
        .call (.free .self (some 9)), .call (.malloc .self (some 0) 5), .store 12 1,
        .call (.malloc .self (some 0) 5), .call (.realloc .self (some 20492) 40)]) := by
  have first : Corresponds defaultPlacement elsewhere 4096 20480 :=
    @Corresponds.inside _ _ 0 (by decide)
  have second : Corresponds defaultPlacement elsewhere 4108 20492 :=
    @Corresponds.inside _ _ 12 (by decide)
  have foreign : Corresponds defaultPlacement elsewhere 7 9 :=
    .outside (by decide) (by decide) (by decide) (by decide)
  have fresh : Option.Rel (Corresponds defaultPlacement elsewhere) (some 0) (some 0) :=
    .some .null
  have build : elsewhere.toConfig = defaultPlacement.toConfig := rfl
  exact (relocation build twoLive_reachable
    (.cons (.call (.free _ (.some first))) (.cons (.call (.free _ (.some first)))
      (.cons (.call (.free _ (.some foreign))) (.cons (.call (.malloc _ fresh 5))
        (.cons (.store 12 12 1 1) (.cons (.call (.malloc _ fresh 5))
          (.cons (.call (.realloc _ (.some second) 40)) .nil)))))))).2

end Dynostatic
