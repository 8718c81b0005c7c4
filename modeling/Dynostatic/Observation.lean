/-
**What the calls reveal.**

A client sees of an instance the codes its calls return and what they leave in its variables. From
that alone it can find out the whole bookkeeping, and nothing else is in there to be found out:

* `same_answers_iff` — two instances answer every run alike exactly when their inventories are the
  same. The live blocks are found by `ds_free` and `ds_safe_memory_set` (`blockAt_of_sameAnswers`).
  The parked ones are found by requests for one byte, which revive them one after the other
  (`blocks_eq_of_sameAnswers`);
* `data_independence` — no byte has any part in it: not the arena's, not those of a safe write, not
  those a client stores in the arena, in its blocks or outside.
-/

import Dynostatic.Machine
import Dynostatic.Transparency

namespace Dynostatic

open Tracing Tracing.Traced Tiling Rounding Runs

/-! ### Answers -/

/-- The part of what is shown that the client sees. -/
def Shown.answer (shown : Shown) : DsErrCode × Option Nat := (shown.code, shown.cell)

/-- The machine's answer to an action. -/
def machineAnswer (q : Placement) (state : Inventory) (action : Action) :
    Option (DsErrCode × Option Nat) :=
  (machineShows q state action).map Shown.answer

theorem answer_eq_machineAnswer {q : Placement} {s : DynostaticBuffer} (formed : WellFormed q s)
    (action : Action) : answer q s action = machineAnswer q (inventory q s) action := by
  unfold machineAnswer
  rw [← shows_eq formed]
  cases action <;> rfl

/-- The machine answers every run alike from the two states. -/
def SameAnswers (q : Placement) (first second : Inventory) : Prop :=
  Alike (machineNext q) (machineAnswer q) first second

section Answers

variable {q : Placement}

/-- An answer to one call. -/
theorem SameAnswers.call {first second : Inventory} (same : SameAnswers q first second) (op : Op) :
    (attend q first op).answer = (attend q second op).answer :=
  Option.some.inj (same.label_eq (.call op))

theorem SameAnswers.code {first second : Inventory} (same : SameAnswers q first second) (op : Op) :
    (attend q first op).code = (attend q second op).code :=
  congrArg Prod.fst (same.call op)

/-- They stay alike after the same call. -/
theorem SameAnswers.next {first second : Inventory} (same : SameAnswers q first second) (op : Op) :
    SameAnswers q (attend q first op).after (attend q second op).after :=
  same.step (.call op)

variable {layout other : Layout q.toConfig}

/-! ### The live blocks -/

theorem blockAt_some_of_sameAnswers
    (same : SameAnswers q (some layout.blocks) (some other.blocks)) {p size : Nat}
    (live : blockAt q layout.blocks p = some size) : blockAt q other.blocks p = some size := by
  obtain ⟨index, found, rfl⟩ := exists_index_of_blockAt live
  have based := q.base_pos
  have freed := same.code (.free .self (some (q.base + start layout.blocks index)))
  rw [attend_free_live layout found] at freed
  rcases dead : blockAt q other.blocks (q.base + start layout.blocks index) with _ | size'
  · rw [attend_free_dead other (by omega) dead] at freed
    exact absurd freed.symm (deadCode_ne_ok _)
  · obtain ⟨index', found', begins⟩ := exists_index_of_blockAt dead
    -- the fills that fit are the same, so the sizes are
    have fits : ∀ count, 0 < count → (count ≤ size ↔ count ≤ size') := by
      intro count positive
      have filled := same.code (.safeMemorySet .self (q.base + start layout.blocks index) 0 count)
      rw [← attend_set_code_iff layout 0 found positive, filled, begins,
        attend_set_code_iff other 0 found' positive]
    have large := (layout.capacity_of_getElem? found).positive
    have large' := (other.capacity_of_getElem? found').positive
    rw [((fits size large).mp le_rfl).antisymm ((fits size' large').mpr le_rfl)]

/-- **The live blocks are revealed.** -/
theorem blockAt_of_sameAnswers (same : SameAnswers q (some layout.blocks) (some other.blocks)) :
    blockAt q layout.blocks = blockAt q other.blocks := by
  funext p
  ext size
  exact ⟨blockAt_some_of_sameAnswers same, blockAt_some_of_sameAnswers same.symm⟩

theorem Layout.positive (layout : Layout q.toConfig) : ∀ block ∈ layout.blocks, 0 < block.size :=
  fun block member => (layout.capacity block member).positive

/-- Where no block is parked there is nothing else. -/
theorem blocks_eq_of_all_live (same : SameAnswers q (some layout.blocks) (some other.blocks))
    (all : ∀ block ∈ layout.blocks, block.live = true)
    (all' : ∀ block ∈ other.blocks, block.live = true) : layout.blocks = other.blocks := by
  refine eq_of_liveAt_eq all all' layout.positive other.positive (funext fun offset => ?_)
  rw [← blockAt_base (q := q), ← blockAt_base (q := q), blockAt_of_sameAnswers same]

/-! ### The parked blocks -/

/-- A request for one byte. -/
def probe : Op := .malloc .self (some 0) 1

/-- The number of parked blocks. -/
def parkedCount (blocks : List Block) : Nat := blocks.length - liveCount blocks

/-- Every parked block fits one byte. -/
theorem all_live_of_firstFit_none (none : firstFit layout.blocks (roundUp q.alignment 1) = none) :
    ∀ block ∈ layout.blocks, block.live = true := by
  intro block member
  by_contra parked
  refine firstFit_eq_none_iff.mp none ⟨block, member, fits_iff.mpr ⟨by simpa using parked, ?_⟩⟩
  have capacity := layout.capacity block member
  rw [roundUp_le_iff q.alignment_pos capacity.multiple]
  exact capacity.positive

/-- Where a block is parked, the first is revived. -/
theorem attend_probe_revived {index : Nat}
    (first : firstFit layout.blocks (roundUp q.alignment 1) = some index) :
    attend q (some layout.blocks) probe =
      ⟨.ok, some (q.base + start layout.blocks index), some (layout.revive index).blocks⟩ := by
  rw [probe, attend_malloc_granted layout Nat.one_pos q.maxSize_pos (blockAt_null _)
    (grant_revived first), start_mark]
  rfl

/-- Where none is, a block is added at the end, if at all. -/
theorem attend_probe_pushed (none : firstFit layout.blocks (roundUp q.alignment 1) = none)
    (ok : (attend q (some layout.blocks) probe).code = .ok) :
    ∃ after : Layout q.toConfig,
      after.blocks = layout.blocks ++ [⟨roundUp q.alignment 1, true⟩] ∧
      attend q (some layout.blocks) probe =
        ⟨.ok, some (q.base + extent layout.blocks), some after.blocks⟩ := by
  by_cases room : Room q.toConfig layout.blocks (roundUp q.alignment 1)
  · obtain ⟨slot, space⟩ := room.resolve_left (firstFit_eq_none_iff.mp none)
    refine ⟨layout.push (isCapacity_roundUp Nat.one_pos q.maxSize_pos) slot space, rfl, ?_⟩
    rw [probe, attend_malloc_granted layout Nat.one_pos q.maxSize_pos (blockAt_null _)
      (grant_pushed none slot space), start_append_of_le le_rfl, start_length]
    rfl
  · rw [probe, attend_malloc_refused layout Nat.one_pos q.maxSize_pos (blockAt_null _)
      (grant_refused room)] at ok
    exact absurd ok (refusal_ne_ok _ _)

theorem parkedCount_revive {index capacity : Nat}
    (found : layout.blocks[index]? = some ⟨capacity, false⟩) :
    parkedCount (layout.revive index).blocks < parkedCount layout.blocks := by
  have counted : liveCount (mark layout.blocks index true) = liveCount layout.blocks + 1 :=
    liveCount_mark true found
  have bound := liveCount_lt_length found rfl
  show (mark layout.blocks index true).length - liveCount (mark layout.blocks index true) < _
  rw [length_mark, counted, parkedCount]
  omega

theorem parkedCount_push (blocks : List Block) (size : Nat) :
    parkedCount (blocks ++ [⟨size, true⟩]) = parkedCount blocks := by
  unfold parkedCount
  rw [liveCount_append, List.length_append]
  exact Nat.add_sub_add_right _ _ _

/-- A block revived in one instance is not added at the end in the other: it was parked, and the
last block never is. -/
theorem revived_ne_pushed {index capacity size : Nat}
    (found : layout.blocks[index]? = some ⟨capacity, false⟩) (large : 0 < capacity)
    (same : (layout.revive index).blocks = other.blocks ++ [⟨size, true⟩])
    (starts : start layout.blocks index = extent other.blocks) (positive : 0 < size) : False := by
  have revived : (layout.revive index).blocks[index]? = some ⟨capacity, true⟩ :=
    getElem?_mark_self found true
  have last : (layout.revive index).blocks[other.blocks.length]? = some ⟨size, true⟩ := by
    rw [same, List.getElem?_concat_length]
  have top : index = other.blocks.length := by
    refine start_injective revived last large positive ?_
    have begins : start (layout.revive index).blocks other.blocks.length =
        extent other.blocks := by rw [same, start_append_of_le le_rfl, start_length]
    rw [begins, ← starts]
    exact start_mark _ _ _ _
  have count : layout.blocks.length = other.blocks.length + 1 := by
    have lengths := congrArg List.length same
    rw [List.length_append, List.length_singleton] at lengths
    exact (length_mark _ _ _).symm.trans lengths
  exact Bool.false_ne_true (tight_iff.mp layout.tight index _ found (by omega))

/-- Two instances that are alike have a parked block together, if what they become is the same. -/
theorem exists_firstFit_of_sameAnswers {index : Nat}
    (same : SameAnswers q (some layout.blocks) (some other.blocks))
    (first : firstFit layout.blocks (roundUp q.alignment 1) = some index)
    (equal : ∀ after : Layout q.toConfig,
      after.blocks = other.blocks ++ [⟨roundUp q.alignment 1, true⟩] →
      SameAnswers q (some (layout.revive index).blocks) (some after.blocks) →
      (layout.revive index).blocks = after.blocks) :
    ∃ index', firstFit other.blocks (roundUp q.alignment 1) = some index' := by
  rw [← Option.ne_none_iff_exists']
  intro none
  obtain ⟨⟨capacity, found, -⟩, -⟩ := firstFit_eq_some first
  have revived := attend_probe_revived first
  have probed := same.call probe
  have later := same.next probe
  rw [revived] at probed later
  obtain ⟨after, added, pushed⟩ := attend_probe_pushed none (congrArg Prod.fst probed).symm
  rw [pushed] at probed later
  have starts : q.base + start layout.blocks index = q.base + extent other.blocks :=
    Option.some.inj (congrArg Prod.snd probed)
  exact revived_ne_pushed found (layout.capacity_of_getElem? found).positive
    ((equal after added later).trans added) (Nat.add_left_cancel starts)
    (roundUp_pos Nat.one_pos)

/-- The two blocks revived are the same, if what the instances become is. -/
theorem blocks_eq_of_revived {index index' : Nat}
    (first : firstFit layout.blocks (roundUp q.alignment 1) = some index)
    (first' : firstFit other.blocks (roundUp q.alignment 1) = some index')
    (starts : start layout.blocks index = start other.blocks index')
    (equal : (layout.revive index).blocks = (other.revive index').blocks) :
    layout.blocks = other.blocks := by
  obtain ⟨⟨capacity, found, -⟩, -⟩ := firstFit_eq_some first
  obtain ⟨⟨capacity', found', -⟩, -⟩ := firstFit_eq_some first'
  have revived : (layout.revive index).blocks[index]? = some ⟨capacity, true⟩ :=
    getElem?_mark_self found true
  have revived' : (layout.revive index).blocks[index']? = some ⟨capacity', true⟩ := by
    rw [equal]
    exact getElem?_mark_self found' true
  have begins : start (layout.revive index).blocks index =
      start (layout.revive index).blocks index' := by
    conv_rhs => rw [equal]
    exact ((start_mark _ _ _ _).trans starts).trans (start_mark _ _ _ _).symm
  obtain rfl := start_injective revived revived' (layout.capacity_of_getElem? found).positive
    (other.capacity_of_getElem? found').positive begins
  calc layout.blocks
      = mark (mark layout.blocks index true) index false := (mark_mark found true).symm
    _ = mark (mark other.blocks index true) index false :=
        congrArg (mark · index false) equal
    _ = other.blocks := mark_mark found' true

/-- **The parked blocks are revealed**, by induction on their number: a probe revives one. -/
theorem blocks_eq_of_sameAnswers :
    ∀ (count : Nat) (layout other : Layout q.toConfig),
      parkedCount layout.blocks + parkedCount other.blocks < count →
      SameAnswers q (some layout.blocks) (some other.blocks) → layout.blocks = other.blocks := by
  intro count
  induction count with
  | zero => exact fun _ _ bound => absurd bound (Nat.not_lt_zero _)
  | succ count ih =>
    -- a probe of one instance that revives a block is one of the other that does
    have step : ∀ {layout other : Layout q.toConfig} {index : Nat},
        parkedCount layout.blocks + parkedCount other.blocks < count + 1 →
        SameAnswers q (some layout.blocks) (some other.blocks) →
        firstFit layout.blocks (roundUp q.alignment 1) = some index →
        ∃ index', firstFit other.blocks (roundUp q.alignment 1) = some index' := by
      intro layout other index bound same first
      obtain ⟨⟨capacity, found, -⟩, -⟩ := firstFit_eq_some first
      refine exists_firstFit_of_sameAnswers same first fun after added later => ?_
      refine ih _ _ ?_ later
      have fewer := parkedCount_revive found
      rw [added, parkedCount_push]
      omega
    intro layout other bound same
    rcases first : firstFit layout.blocks (roundUp q.alignment 1) with _ | index
    · rcases first' : firstFit other.blocks (roundUp q.alignment 1) with _ | index'
      · exact blocks_eq_of_all_live same (all_live_of_firstFit_none first)
          (all_live_of_firstFit_none first')
      · obtain ⟨index, revived⟩ := step (by omega) same.symm first'
        rw [first] at revived
        cases revived
    · obtain ⟨index', first'⟩ := step bound same first
      obtain ⟨⟨capacity, found, -⟩, -⟩ := firstFit_eq_some first
      obtain ⟨⟨capacity', found', -⟩, -⟩ := firstFit_eq_some first'
      have probed := same.call probe
      have later := same.next probe
      rw [attend_probe_revived first, attend_probe_revived first'] at probed later
      have starts : q.base + start layout.blocks index = q.base + start other.blocks index' :=
        Option.some.inj (congrArg Prod.snd probed)
      refine blocks_eq_of_revived first first' (Nat.add_left_cancel starts) (ih _ _ ?_ later)
      have fewer := parkedCount_revive found
      have fewer' := parkedCount_revive found'
      omega

end Answers

/-- The two instances answer every run alike. -/
theorem alike_iff_sameAnswers {q : Placement} {s s' : DynostaticBuffer} (formed : WellFormed q s)
    (formed' : WellFormed q s') :
    Alike (next q) (answer q) s s' ↔ SameAnswers q (inventory q s) (inventory q s') :=
  alike_iff_of_lockstep (fun _ action formed => answer_eq_machineAnswer formed action)
    (fun _ action formed => inventory_next formed action)
    (fun _ action formed => formed.next action) formed formed'

/-- Of an initialized instance the inventory is the whole bookkeeping. -/
theorem inventory_eq_iff_books {q : Placement} {s s' : DynostaticBuffer} (encoded : Encoded q s)
    (encoded' : Encoded q s') : inventory q s = inventory q s' ↔ s.books = s'.books := by
  constructor
  · obtain ⟨layout, memory, rfl⟩ := encoded
    obtain ⟨layout', memory', rfl⟩ := encoded'
    rw [inventory_encode, inventory_encode]
    intro same
    exact congrArg (encode · fun _ => 0) (Option.some.inj same)
  · intro same
    have forget := inventory_storeByte (q := q) s fun _ => 0
    have forget' := inventory_storeByte (q := q) s' fun _ => 0
    rw [← forget, ← forget']
    exact congrArg (inventory q) same

/-- **Full abstraction.** Two reachable states of instances of one build answer every sequence of
calls and stores alike, codes and callers' variables, exactly when their inventories are the
same; where both are initialized, exactly when their whole bookkeeping is. -/
theorem same_answers_iff (q : Placement) {s s' : DynostaticBuffer} (reachable : Reachable q s)
    (reachable' : Reachable q s') :
    (Alike (next q) (answer q) s s' ↔ inventory q s = inventory q s') ∧
      (s.initMagic = dsMagicNumber → s'.initMagic = dsMagicNumber →
        (Alike (next q) (answer q) s s' ↔ s.books = s'.books)) := by
  have revealed : Alike (next q) (answer q) s s' ↔ inventory q s = inventory q s' := by
    rw [alike_iff_sameAnswers reachable.wellFormed reachable'.wellFormed]
    constructor
    · intro same
      have started := same.code (.initializeAllocation .self)
      rcases reachable.wellFormed with raw | ⟨layout, memory, rfl⟩ <;>
        rcases reachable'.wellFormed with raw' | ⟨layout', memory', rfl⟩
      · rw [inventory_uninitialized raw, inventory_uninitialized raw']
      · rw [inventory_uninitialized raw, inventory_encode] at started
        cases started
      · rw [inventory_encode, inventory_uninitialized raw'] at started
        cases started
      · rw [inventory_encode, inventory_encode] at same ⊢
        exact congrArg some (blocks_eq_of_sameAnswers _ _ _ (Nat.lt_succ_self _) same)
    · intro equal
      rw [equal]
      exact fun actions => rfl
  refine ⟨revealed, fun initialized initialized' => revealed.trans ?_⟩
  exact inventory_eq_iff_books (reachable.of_initialized initialized)
    (reachable'.of_initialized initialized')

theorem same_answers_iff_parkedBelow :
    ¬ Alike (next defaultPlacement) (answer defaultPlacement) twoLive
      (run (next defaultPlacement) twoLive [.call (.free .self (some 4096))]) := by
  rw [(same_answers_iff defaultPlacement twoLive_reachable (twoLive_reachable.run _)).1]
  decide

/-! ### Data -/

/-- The same call with other data: the bytes a safe copy reads outside the arena, and the value of a
fill, are left out. -/
def Op.blank : Op → Op
  | .safeMemoryCopy p _ dst src count => .safeMemoryCopy p (fun _ => 0) dst src count
  | .safeMemorySet p dst _ count => .safeMemorySet p dst 0 count
  | op => op

/-- The call of an action without its data. A store has none. -/
def Action.blank : Action → Option Op
  | .call op => some op.blank
  | .store _ _ => none

/-- A call of the machine follows from the call without its data, in builds that scrub and in builds
that do not. -/
theorem attend_blank (q : Placement) (zero : Bool) (state : Inventory) (op : Op) :
    attend (q.setZeroOnFree zero) state op = attend q state op.blank := by
  cases op with
  | safeMemoryCopy p => cases p <;> rfl
  | safeMemorySet p => cases p <;> rfl
  | _ => rfl

section Blank

variable (q : Placement) (zero : Bool)

theorem machineNext_blank (state : Inventory) (action : Action) :
    machineNext (q.setZeroOnFree zero) state action =
      action.blank.elim state (attendNext q state) := by
  cases action with
  | call op => exact congrArg Shown.after (attend_blank q zero state op)
  | store offset byte => rfl

theorem machineShows_blank (state : Inventory) (action : Action) :
    machineShows (q.setZeroOnFree zero) state action =
      action.blank.map (attend q state) := by
  cases action with
  | call op => exact congrArg some (attend_blank q zero state op)
  | store offset byte => rfl

end Blank

/-- **Data independence.** Take two runs of the same calls that differ in everything else: what the
structures held before the first call, the bytes and values the safe writes pass, the stores in the
arena, to blocks or outside, and whether the build scrubs. Every call shows the same in both: the
code, the caller's variable and the inventory. -/
theorem data_independence (q : Placement) (zero zero' : Bool) {first first' : DynostaticBuffer}
    (fresh : first.initMagic ≠ dsMagicNumber) (fresh' : first'.initMagic ≠ dsMagicNumber)
    {actions actions' : List Action}
    (same : actions.filterMap Action.blank = actions'.filterMap Action.blank) :
    (trace (next (q.setZeroOnFree zero)) (shows (q.setZeroOnFree zero)) first
        actions).reduceOption =
      (trace (next (q.setZeroOnFree zero')) (shows (q.setZeroOnFree zero')) first'
        actions').reduceOption ∧
      inventory (q.setZeroOnFree zero) (run (next (q.setZeroOnFree zero)) first actions) =
        inventory (q.setZeroOnFree zero') (run (next (q.setZeroOnFree zero')) first' actions') := by
  obtain ⟨shown, last⟩ := run_follows_machine (q.setZeroOnFree zero) fresh actions
  obtain ⟨shown', last'⟩ := run_follows_machine (q.setZeroOnFree zero') fresh' actions'
  rw [shown, shown', last, last',
    reduceOption_trace (machineNext_blank q zero) (machineShows_blank q zero),
    reduceOption_trace (machineNext_blank q zero') (machineShows_blank q zero'),
    run_filterMap (machineNext_blank q zero), run_filterMap (machineNext_blank q zero'), same]
  exact ⟨rfl, rfl⟩

/-- A client that stores past the end of its block. -/
theorem data_independence_overrun :
    inventory (defaultPlacement.setZeroOnFree true)
        (run (next (defaultPlacement.setZeroOnFree true)) zeroBuffer
          [.call (.initializeAllocation .self), .call (.malloc .self (some 0) 10),
            .store 12 255, .call (.safeMemorySet .self 4096 7 10)]) =
      inventory (defaultPlacement.setZeroOnFree false)
        (run (next (defaultPlacement.setZeroOnFree false)) zeroBuffer
          [.call (.initializeAllocation .self), .call (.malloc .self (some 0) 10),
            .call (.safeMemorySet .self 4096 9 10)]) :=
  (data_independence defaultPlacement true false zeroBuffer_fresh zeroBuffer_fresh
    (by simp only [List.filterMap_cons, List.filterMap_nil, Action.blank, Op.blank])).2

end Dynostatic
