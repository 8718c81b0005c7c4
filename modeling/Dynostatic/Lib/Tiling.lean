/-
**Blocks laid end to end.**

A tiling is a list of blocks: each has a size and is live or parked. The blocks sit one after the
other from offset `0`, so a block's offset is the total size of the blocks below it (`start`), and
the whole tiling covers `[0, extent)`. Nothing else is stored; that offsets are disjoint, ordered
and gapless is therefore a fact about lists and never an invariant to keep.

* `locate` finds the block an offset falls in, and `locate_eq_some_iff` says it is the only one;
* `mark` sets the flag of one block and moves nothing;
* `firstFit` finds the first parked block that is large enough;
* `strip` drops the parked blocks at the end, `release` is a mark followed by a strip;
* `release_comm` — releasing two live blocks in either order gives the same tiling;
* `liveAt` forgets the indices: it is the partial map from the offset of a live block to its size.
  Every change of a tiling is one update of that map (`Placed.liveAt_eq`, `liveAt_release`);
* `Placed` — a block is taken by reviving a parked one or by adding one at the end.
-/

import Mathlib.Algebra.Ring.Nat
import Mathlib.Data.List.DropRight
import Mathlib.Logic.Function.Basic
import Mathlib.Order.MinMax

namespace Tiling

/-- One block of a tiling. -/
structure Block where
  /-- Its size. -/
  size : Nat
  /-- Live, or parked. -/
  live : Bool
  deriving DecidableEq, Repr

/-! ### Extents and offsets -/

/-- The total size of a tiling. -/
def extent (blocks : List Block) : Nat := (blocks.map Block.size).sum

/-- The offset of the block at an index: the total size of the blocks below it. -/
def start (blocks : List Block) (index : Nat) : Nat := extent (blocks.take index)

@[simp] theorem extent_nil : extent [] = 0 := rfl

@[simp] theorem extent_cons (block : Block) (blocks : List Block) :
    extent (block :: blocks) = block.size + extent blocks := by
  simp only [extent, List.map_cons, List.sum_cons]

@[simp] theorem extent_append (first second : List Block) :
    extent (first ++ second) = extent first + extent second := by
  simp only [extent, List.map_append, List.sum_append]

@[simp] theorem start_zero (blocks : List Block) : start blocks 0 = 0 := rfl

@[simp] theorem start_cons_succ (block : Block) (blocks : List Block) (index : Nat) :
    start (block :: blocks) (index + 1) = block.size + start blocks index := by
  simp only [start, List.take_succ_cons, extent_cons]

theorem start_of_length_le {blocks : List Block} {index : Nat} (past : blocks.length ≤ index) :
    start blocks index = extent blocks := by
  unfold start
  rw [List.take_of_length_le past]

@[simp] theorem start_length (blocks : List Block) : start blocks blocks.length = extent blocks :=
  start_of_length_le le_rfl

theorem start_append_of_le {first second : List Block} {index : Nat}
    (inside : index ≤ first.length) : start (first ++ second) index = start first index := by
  rw [start, start, List.take_append_of_le_length inside]

theorem start_succ {blocks : List Block} {index : Nat} {block : Block}
    (found : blocks[index]? = some block) :
    start blocks (index + 1) = start blocks index + block.size := by
  rw [start, start, List.take_add_one, found, Option.toList_some, extent_append, extent_cons,
    extent_nil, Nat.add_zero]

theorem start_add_le (blocks : List Block) (index extra : Nat) :
    start blocks index ≤ start blocks (index + extra) := by
  rw [start, start, List.take_add, extent_append]
  exact Nat.le_add_right _ _

theorem start_mono (blocks : List Block) {low high : Nat} (ordered : low ≤ high) :
    start blocks low ≤ start blocks high := by
  obtain ⟨extra, rfl⟩ := Nat.exists_eq_add_of_le ordered
  exact start_add_le blocks low extra

/-- **A block ends before any later block begins.** -/
theorem end_le_start {blocks : List Block} {low high : Nat} {block : Block}
    (found : blocks[low]? = some block) (ordered : low < high) :
    start blocks low + block.size ≤ start blocks high := by
  rw [← start_succ found]
  exact start_mono blocks ordered

theorem lt_length_of_getElem? {blocks : List Block} {index : Nat} {block : Block}
    (found : blocks[index]? = some block) : index < blocks.length :=
  (List.getElem?_eq_some_iff.mp found).1

theorem exists_getElem? {blocks : List Block} {index : Nat} (inside : index < blocks.length) :
    ∃ block, blocks[index]? = some block :=
  ⟨_, List.getElem?_eq_getElem inside⟩

/-- A block added at the end leaves the other indices as they were. -/
theorem getElem?_push_of_ne (blocks : List Block) (block : Block) {other : Nat}
    (different : blocks.length ≠ other) : (blocks ++ [block])[other]? = blocks[other]? := by
  rcases Nat.lt_or_gt_of_ne different with past | inside
  · rw [List.getElem?_eq_none past.le, List.getElem?_eq_none]
    rw [List.length_append, List.length_singleton]
    exact past
  · exact List.getElem?_append_left inside

/-! A tiling with a last block. -/

section Last

variable {blocks front : List Block} {block : Block}

theorem getElem?_of_last (last : blocks = front ++ [block]) :
    blocks[front.length]? = some block := by
  rw [last, List.getElem?_concat_length]

/-- The last block starts where the blocks below it end. -/
theorem start_of_last (last : blocks = front ++ [block]) :
    start blocks front.length = extent front := by
  rw [last, start_append_of_le le_rfl, start_length]

theorem extent_of_last (last : blocks = front ++ [block]) :
    extent blocks = extent front + block.size := by
  rw [last, extent_append, extent_cons, extent_nil, Nat.add_zero]

end Last

theorem drop_of_getElem? {blocks : List Block} {index : Nat} {block : Block}
    (found : blocks[index]? = some block) :
    blocks.drop index = block :: blocks.drop (index + 1) := by
  rw [List.drop_eq_getElem?_toList_append, found]
  rfl

theorem end_le_extent {blocks : List Block} {index : Nat} {block : Block}
    (found : blocks[index]? = some block) : start blocks index + block.size ≤ extent blocks := by
  rw [← start_length blocks]
  exact end_le_start found (lt_length_of_getElem? found)

/-- A block that ends where the tiling does is the last, as no block is empty. -/
theorem exists_front_of_end {blocks : List Block} {index : Nat} {block : Block}
    (found : blocks[index]? = some block) (top : start blocks index + block.size = extent blocks)
    (positive : ∀ other ∈ blocks, 0 < other.size) :
    ∃ front, blocks = front ++ [block] ∧ index = front.length := by
  have inside := lt_length_of_getElem? found
  have whole : blocks = blocks.take index ++ block :: blocks.drop (index + 1) := by
    rw [← drop_of_getElem? found, List.take_append_drop]
  have above : extent (blocks.drop (index + 1)) = 0 := by
    have total := congrArg extent whole
    rw [extent_append, extent_cons, ← start] at total
    omega
  refine ⟨blocks.take index, ?_, (List.length_take_of_le inside.le).symm⟩
  rcases rest : blocks.drop (index + 1) with _ | ⟨next, tail⟩
  · rwa [rest] at whole
  · have large := positive next (List.mem_of_mem_drop (rest ▸ List.mem_cons_self))
    rw [rest, extent_cons] at above
    omega

/-- A block that ends elsewhere has another block above it. -/
theorem succ_lt_length_of_end_ne {blocks : List Block} {index : Nat} {block : Block}
    (found : blocks[index]? = some block)
    (inner : start blocks index + block.size ≠ extent blocks) : index + 1 < blocks.length := by
  refine (Nat.succ_le_of_lt (lt_length_of_getElem? found)).lt_of_ne ?_
  intro outer
  rw [← start_succ found, Nat.add_one, outer, start_length] at inner
  exact inner rfl

/-- **Two blocks lie apart.** -/
theorem apart_of_ne {blocks : List Block} {first second : Nat} {block other : Block}
    (found : blocks[first]? = some block) (found' : blocks[second]? = some other)
    (different : first ≠ second) :
    start blocks first + block.size ≤ start blocks second ∨
      start blocks second + other.size ≤ start blocks first := by
  rcases Nat.lt_or_gt_of_ne different with below | above
  · exact .inl (end_le_start found below)
  · exact .inr (end_le_start found' above)

/-- **Two blocks that share an offset are one block.** -/
theorem index_unique {blocks : List Block} {first second offset : Nat} {block other : Block}
    (found : blocks[first]? = some block) (found' : blocks[second]? = some other)
    (inside : start blocks first ≤ offset ∧ offset < start blocks first + block.size)
    (inside' : start blocks second ≤ offset ∧ offset < start blocks second + other.size) :
    first = second := by
  by_contra different
  rcases apart_of_ne found found' different with before | behind <;> omega

/-- Blocks of positive size are told apart by their offsets. -/
theorem start_injective {blocks : List Block} {first second : Nat} {block other : Block}
    (found : blocks[first]? = some block) (found' : blocks[second]? = some other)
    (positive : 0 < block.size) (positive' : 0 < other.size)
    (same : start blocks first = start blocks second) : first = second :=
  index_unique found found' ⟨le_refl (start blocks first), by omega⟩ ⟨by omega, by omega⟩

/-! ### The block an offset falls in -/

/-- The index of the block an offset falls in, with the distance from that block's start. -/
def locate : List Block → Nat → Option (Nat × Nat)
  | [], _ => none
  | block :: blocks, offset =>
      if offset < block.size then some (0, offset)
      else (locate blocks (offset - block.size)).map fun found => (found.1 + 1, found.2)

/-- **`locate` is exact.** -/
theorem locate_eq_some_iff {blocks : List Block} {offset index inside : Nat} :
    locate blocks offset = some (index, inside) ↔
      ∃ block, blocks[index]? = some block ∧ inside < block.size ∧
        offset = start blocks index + inside := by
  induction blocks generalizing offset index with
  | nil => simp [locate]
  | cons block blocks ih =>
    unfold locate
    split
    · rename_i here
      cases index with
      | zero =>
        constructor
        · intro found
          cases found
          exact ⟨block, rfl, here, (Nat.zero_add _).symm⟩
        · rintro ⟨found, -, -, same⟩
          rw [start_zero, Nat.zero_add] at same
          rw [same]
      | succ index =>
        simp only [start_cons_succ]
        constructor
        · intro absurd
          cases absurd
        · rintro ⟨found, -, -, same⟩
          omega
    · rename_i past
      cases index with
      | zero =>
        simp only [Option.map_eq_some_iff, List.getElem?_cons_zero, start_zero]
        constructor
        · rintro ⟨found, -, same⟩
          cases same
        · rintro ⟨found, same, small, rfl⟩
          cases same
          omega
      | succ index =>
        simp only [Option.map_eq_some_iff, Prod.exists, Prod.mk.injEq, Nat.add_right_cancel_iff,
          List.getElem?_cons_succ, start_cons_succ]
        constructor
        · rintro ⟨found, distance, located, rfl, rfl⟩
          obtain ⟨block', found', small, same⟩ := ih.mp located
          exact ⟨block', found', small, by omega⟩
        · rintro ⟨block', found', small, same⟩
          exact ⟨index, inside, ih.mpr ⟨block', found', small, by omega⟩, rfl, rfl⟩

/-- Every offset below the end falls in a block. -/
theorem locate_of_lt_extent {blocks : List Block} {offset : Nat} (inside : offset < extent blocks) :
    ∃ found, locate blocks offset = some found := by
  induction blocks generalizing offset with
  | nil => exact absurd inside (Nat.not_lt_zero _)
  | cons block blocks ih =>
    rw [extent_cons] at inside
    unfold locate
    by_cases here : offset < block.size
    · exact ⟨(0, offset), if_pos here⟩
    · obtain ⟨found, located⟩ := ih (show offset - block.size < extent blocks by omega)
      exact ⟨_, by rw [if_neg here, located]; rfl⟩

/-! ### Flags -/

/-- Set the flag of the block at an index. -/
def mark (blocks : List Block) (index : Nat) (live : Bool) : List Block :=
  blocks.modify index fun block => { block with live }

/-- The number of live blocks. -/
def liveCount (blocks : List Block) : Nat := blocks.countP Block.live

@[simp] theorem length_mark (blocks : List Block) (index : Nat) (live : Bool) :
    (mark blocks index live).length = blocks.length :=
  List.length_modify _ _ _

theorem getElem?_mark_self {blocks : List Block} {index : Nat} {block : Block}
    (found : blocks[index]? = some block) (live : Bool) :
    (mark blocks index live)[index]? = some { block with live } := by
  unfold mark
  rw [List.getElem?_modify_eq, found]
  rfl

theorem getElem?_mark_of_ne (blocks : List Block) {index other : Nat} (live : Bool)
    (different : index ≠ other) : (mark blocks index live)[other]? = blocks[other]? :=
  List.getElem?_modify_ne _ _ different

/-- A mark can be taken back. -/
theorem mark_mark {blocks : List Block} {index : Nat} {block : Block}
    (found : blocks[index]? = some block) (live : Bool) :
    mark (mark blocks index live) index block.live = blocks := by
  apply List.ext_getElem?
  intro other
  by_cases here : index = other
  · subst here
    rw [getElem?_mark_self (getElem?_mark_self found live), found]
  · rw [getElem?_mark_of_ne _ _ here, getElem?_mark_of_ne _ _ here]

/-- Marking moves no block. -/
@[simp] theorem map_size_mark (blocks : List Block) (index : Nat) (live : Bool) :
    (mark blocks index live).map Block.size = blocks.map Block.size := by
  induction blocks generalizing index with
  | nil => rw [mark, List.modify_nil]
  | cons block blocks ih =>
    cases index with
    | zero => rfl
    | succ index => exact congrArg (block.size :: ·) (ih index)

@[simp] theorem extent_mark (blocks : List Block) (index : Nat) (live : Bool) :
    extent (mark blocks index live) = extent blocks := by
  rw [extent, map_size_mark, extent]

@[simp] theorem start_mark (blocks : List Block) (index other : Nat) (live : Bool) :
    start (mark blocks index live) other = start blocks other := by
  rw [start, start, mark, List.take_modify]
  exact extent_mark _ _ _

theorem mark_append_of_lt {first second : List Block} {index : Nat} (live : Bool)
    (inside : index < first.length) :
    mark (first ++ second) index live = mark first index live ++ second := by
  induction first generalizing index with
  | nil => exact absurd inside (Nat.not_lt_zero _)
  | cons block first ih =>
    cases index with
    | zero => rfl
    | succ index => exact congrArg (block :: ·) (ih (Nat.lt_of_succ_lt_succ inside))

theorem mark_comm (blocks : List Block) {first second : Nat} (live live' : Bool)
    (different : first ≠ second) :
    mark (mark blocks first live) second live' = mark (mark blocks second live') first live :=
  List.modify_modify_ne _ _ _ different

@[simp] theorem liveCount_append (first second : List Block) :
    liveCount (first ++ second) = liveCount first + liveCount second :=
  List.countP_append

theorem liveCount_le_length (blocks : List Block) : liveCount blocks ≤ blocks.length :=
  List.countP_le_length

/-- A mark changes the live count by the block it flips. -/
theorem liveCount_mark {blocks : List Block} {index : Nat} {block : Block} (live : Bool)
    (found : blocks[index]? = some block) :
    liveCount (mark blocks index live) + block.live.toNat = liveCount blocks + live.toNat := by
  induction blocks generalizing index with
  | nil => cases found
  | cons head blocks ih =>
    cases index with
    | zero =>
      cases found
      show List.countP Block.live ({ block with live } :: blocks) + _ = _
      simp only [liveCount, List.countP_cons]
      cases live <;> cases block.live <;> simp
    | succ index =>
      have tail := ih (show blocks[index]? = some block from found)
      show List.countP Block.live (head :: mark blocks index live) + _ = _
      simp only [liveCount, List.countP_cons] at tail ⊢
      omega

/-- A parked block keeps the live count below the number of blocks. -/
theorem liveCount_lt_length {blocks : List Block} {index : Nat} {block : Block}
    (found : blocks[index]? = some block) (parked : block.live = false) :
    liveCount blocks < blocks.length := by
  have counted := liveCount_mark true found
  have bound := liveCount_le_length (mark blocks index true)
  rw [parked] at counted
  rw [length_mark] at bound
  simp only [Bool.toNat_false, Bool.toNat_true] at counted
  omega

theorem liveCount_pos {blocks : List Block} {index : Nat} {block : Block}
    (found : blocks[index]? = some block) (live : block.live = true) : 0 < liveCount blocks :=
  List.countP_pos_iff.mpr ⟨block, List.mem_of_getElem? found, live⟩

/-- The total size of the live blocks. -/
def liveExtent (blocks : List Block) : Nat := extent (blocks.filter Block.live)

theorem liveExtent_cons (block : Block) (blocks : List Block) :
    liveExtent (block :: blocks) = (if block.live then block.size else 0) + liveExtent blocks := by
  unfold liveExtent
  rw [List.filter_cons]
  split
  · exact extent_cons _ _
  · exact (Nat.zero_add _).symm

theorem liveExtent_append (first second : List Block) :
    liveExtent (first ++ second) = liveExtent first + liveExtent second := by
  unfold liveExtent
  rw [List.filter_append, extent_append]

theorem liveExtent_le (blocks : List Block) : liveExtent blocks ≤ extent blocks := by
  induction blocks with
  | nil => exact le_rfl
  | cons block blocks ih =>
    rw [liveExtent_cons, extent_cons]
    split <;> omega

/-- A parked block takes its size away from the live ones. -/
theorem liveExtent_add_le {blocks : List Block} {block : Block} (member : block ∈ blocks)
    (parked : block.live = false) : liveExtent blocks + block.size ≤ extent blocks := by
  obtain ⟨front, back, rfl⟩ := List.append_of_mem member
  have below := liveExtent_le front
  have above := liveExtent_le back
  rw [liveExtent_append, liveExtent_cons, parked, extent_append, extent_cons]
  simp only [Bool.false_eq_true, if_false]
  omega

/-- Without an empty block, nothing is live exactly when the live blocks have no size. -/
theorem liveExtent_eq_zero_iff {blocks : List Block} (positive : ∀ block ∈ blocks, 0 < block.size) :
    liveExtent blocks = 0 ↔ ∀ block ∈ blocks, block.live = false := by
  constructor
  · intro zero block member
    have large := positive block member
    obtain ⟨front, back, rfl⟩ := List.append_of_mem member
    rw [liveExtent_append, liveExtent_cons] at zero
    cases live : block.live
    · rfl
    · rw [live, if_pos rfl] at zero
      omega
  · intro none
    have filtered : blocks.filter Block.live = [] :=
      List.filter_eq_nil_iff.mpr fun block member => Bool.eq_false_iff.mp (none block member)
    exact congrArg extent filtered

/-- Without a parked block everything is live. -/
theorem liveExtent_of_all_live {blocks : List Block}
    (all : ∀ block ∈ blocks, block.live = true) : liveExtent blocks = extent blocks :=
  congrArg extent (List.filter_eq_self.mpr all)

theorem liveCount_eq_length_iff {blocks : List Block} :
    liveCount blocks = blocks.length ↔ ∀ block ∈ blocks, block.live = true :=
  List.countP_eq_length

/-- The largest size of a parked block, `0` where there is none. -/
def parkedMax : List Block → Nat
  | [] => 0
  | block :: blocks => if block.live then parkedMax blocks else max block.size (parkedMax blocks)

/-- A size is at most the largest parked one exactly when it fits some parked block. -/
theorem le_parkedMax_iff {blocks : List Block} {size : Nat} (positive : 0 < size) :
    size ≤ parkedMax blocks ↔ ∃ block ∈ blocks, block.live = false ∧ size ≤ block.size := by
  induction blocks with
  | nil => simp only [parkedMax, Nat.le_zero, positive.ne', List.not_mem_nil, false_and,
      exists_false]
  | cons block blocks ih =>
    unfold parkedMax
    cases live : block.live
    · simp only [Bool.false_eq_true, if_false, le_max_iff, ih, List.mem_cons, exists_eq_or_imp,
        live, true_and]
    · simp only [if_true, ih, List.mem_cons, exists_eq_or_imp, live, Bool.true_eq_false, false_and,
        false_or]

theorem parkedMax_of_all_live {blocks : List Block}
    (all : ∀ block ∈ blocks, block.live = true) : parkedMax blocks = 0 := by
  by_contra some
  obtain ⟨block, member, parked, -⟩ := (le_parkedMax_iff (Nat.pos_of_ne_zero some)).mp le_rfl
  rw [all block member] at parked
  cases parked

/-! ### First fit -/

/-- A parked block large enough. -/
def fits (size : Nat) (block : Block) : Bool := !block.live && decide (size ≤ block.size)

theorem fits_iff {size : Nat} {block : Block} :
    fits size block = true ↔ block.live = false ∧ size ≤ block.size := by
  simp only [fits, Bool.and_eq_true, Bool.not_eq_true', decide_eq_true_eq]

theorem not_fits_of_live {size : Nat} {block : Block} (live : block.live = true) :
    ¬ fits size block = true := by
  intro fit
  rw [(fits_iff.mp fit).1] at live
  cases live

/-- The index of the first parked block that is large enough. -/
def firstFit (blocks : List Block) (size : Nat) : Option Nat := blocks.findIdx? (fits size)

theorem firstFit_eq_some {blocks : List Block} {size index : Nat}
    (first : firstFit blocks size = some index) :
    (∃ capacity, blocks[index]? = some ⟨capacity, false⟩ ∧ size ≤ capacity) ∧
      ∀ other block, other < index → blocks[other]? = some block → fits size block = false := by
  obtain ⟨inside, fit, before⟩ := List.findIdx?_eq_some_iff_getElem.mp first
  obtain ⟨parked, large⟩ := fits_iff.mp fit
  refine ⟨⟨blocks[index].size, ?_, large⟩, fun other block below found => ?_⟩
  · rw [List.getElem?_eq_getElem inside, ← parked]
  · obtain ⟨_, rfl⟩ := List.getElem?_eq_some_iff.mp found
    exact Bool.eq_false_iff.mpr (before other below)

theorem firstFit_eq_none_iff {blocks : List Block} {size : Nat} :
    firstFit blocks size = none ↔ ¬ ∃ block ∈ blocks, fits size block = true := by
  rw [firstFit, List.findIdx?_eq_none_iff]
  push Not
  exact forall₂_congr fun block member => Bool.eq_false_iff

/-- Without a parked block no block fits. -/
theorem firstFit_of_all_live {blocks : List Block} (all : ∀ block ∈ blocks, block.live = true)
    (size : Nat) : firstFit blocks size = none := by
  rw [firstFit_eq_none_iff]
  rintro ⟨block, member, fit⟩
  exact not_fits_of_live (all block member) fit

/-! ### Stripping the parked tail -/

/-- Drop the parked blocks at the end. -/
def strip (blocks : List Block) : List Block := blocks.rdropWhile fun block => !block.live

/-- A tiling with no parked block at its end. -/
def Tight (blocks : List Block) : Prop := strip blocks = blocks

theorem strip_concat (blocks : List Block) (block : Block) :
    strip (blocks ++ [block]) = if block.live then blocks ++ [block] else strip blocks := by
  unfold strip
  rw [List.rdropWhile_concat]
  cases block.live <;> rfl

/-- What a strip drops is parked. -/
theorem exists_strip (blocks : List Block) :
    ∃ tail, blocks = strip blocks ++ tail ∧ ∀ block ∈ tail, block.live = false := by
  refine ⟨blocks.rtakeWhile fun block => !block.live, List.rdropWhile_append_rtakeWhile.symm, ?_⟩
  intro block member
  simpa using List.mem_rtakeWhile_imp member

/-- A parked tail is dropped whole. -/
theorem strip_append_parked (blocks : List Block) {tail : List Block}
    (parked : ∀ block ∈ tail, block.live = false) : strip (blocks ++ tail) = strip blocks := by
  induction tail using List.reverseRecOn with
  | nil => rw [List.append_nil]
  | append_singleton tail block ih =>
    have last : block.live = false := parked block (by simp)
    rw [← List.append_assoc, strip_concat, last, if_neg Bool.false_ne_true]
    exact ih fun other member => parked other (List.mem_append_left _ member)

theorem prefix_strip (blocks : List Block) : strip blocks <+: blocks :=
  List.rdropWhile_prefix _ blocks

theorem tight_strip (blocks : List Block) : Tight (strip blocks) :=
  List.rdropWhile_idempotent _ _

theorem tight_nil : Tight [] := rfl

theorem tight_concat_iff {blocks : List Block} {block : Block} :
    Tight (blocks ++ [block]) ↔ block.live = true := by
  unfold Tight
  rw [strip_concat]
  constructor
  · intro same
    by_contra parked
    rw [if_neg parked] at same
    have := (prefix_strip blocks).length_le
    rw [same, List.length_append, List.length_singleton] at this
    omega
  · exact fun live => if_pos live

/-- A tiling is tight when its last block, if any, is live. -/
theorem tight_iff {blocks : List Block} :
    Tight blocks ↔
      ∀ index block, blocks[index]? = some block → index + 1 = blocks.length →
        block.live = true := by
  rcases List.eq_nil_or_concat blocks with rfl | ⟨front, last, rfl⟩
  · refine ⟨fun _ index block found => ?_, fun _ => tight_nil⟩
    cases found
  · rw [List.concat_eq_append, tight_concat_iff, List.length_append, List.length_singleton]
    constructor
    · intro live index block found top
      obtain rfl : index = front.length := Nat.succ.inj top
      rw [List.getElem?_concat_length] at found
      cases found
      exact live
    · exact fun live => live _ _ List.getElem?_concat_length rfl

/-- Parking a block that is not the last leaves a tiling tight. -/
theorem tight_mark_parked {blocks : List Block} (tight : Tight blocks) {index : Nat}
    (below : index + 1 < blocks.length) : Tight (mark blocks index false) := by
  rw [tight_iff, length_mark]
  intro other block found top
  rw [getElem?_mark_of_ne _ _ (by omega)] at found
  exact tight_iff.mp tight other block found top

/-- A live mark leaves a tiling tight. -/
theorem tight_mark_live {blocks : List Block} (tight : Tight blocks) (index : Nat) :
    Tight (mark blocks index true) := by
  rw [tight_iff, length_mark]
  intro other block found top
  unfold mark at found
  rw [List.getElem?_modify] at found
  obtain ⟨old, found', same⟩ := Option.map_eq_some_iff.mp found
  split at same
  · rw [← same]
  · exact same ▸ tight_iff.mp tight other old found' top

theorem getElem?_of_strip {blocks : List Block} {index : Nat} {block : Block}
    (found : (strip blocks)[index]? = some block) : blocks[index]? = some block := by
  obtain ⟨tail, same, -⟩ := exists_strip blocks
  rw [same, List.getElem?_append_left (lt_length_of_getElem? found)]
  exact found

/-- **A strip keeps every live block where it was.** -/
theorem getElem?_strip_of_live {blocks : List Block} {index : Nat} {block : Block}
    (found : blocks[index]? = some block) (live : block.live = true) :
    (strip blocks)[index]? = some block := by
  obtain ⟨tail, same, parked⟩ := exists_strip blocks
  rw [same] at found
  rcases Nat.lt_or_ge index (strip blocks).length with inside | past
  · rwa [List.getElem?_append_left inside] at found
  · rw [List.getElem?_append_right past] at found
    rw [parked block (List.mem_of_getElem? found)] at live
    cases live

theorem start_strip {blocks : List Block} {index : Nat}
    (inside : index ≤ (strip blocks).length) : start (strip blocks) index = start blocks index := by
  obtain ⟨tail, same, -⟩ := exists_strip blocks
  conv_rhs => rw [same, start_append_of_le inside]

theorem extent_strip_le (blocks : List Block) : extent (strip blocks) ≤ extent blocks := by
  obtain ⟨tail, same, -⟩ := exists_strip blocks
  conv_rhs => rw [same, extent_append]
  exact Nat.le_add_right _ _

/-- What a strip drops comes back as space at the end. -/
theorem strip_keeps_or_frees {blocks : List Block} {index : Nat} {block : Block}
    (found : blocks[index]? = some block) :
    (strip blocks)[index]? = some block ∨
      (strip blocks).length ≤ index ∧ extent (strip blocks) + block.size ≤ extent blocks := by
  obtain ⟨tail, same, -⟩ := exists_strip blocks
  rcases Nat.lt_or_ge index (strip blocks).length with inside | past
  · rw [same, List.getElem?_append_left inside] at found
    exact .inl found
  · have below := start_mono blocks past
    have ends := end_le_extent found
    rw [← start_strip le_rfl, start_length] at below
    exact .inr ⟨past, by omega⟩

theorem liveCount_strip (blocks : List Block) : liveCount (strip blocks) = liveCount blocks := by
  obtain ⟨tail, same, parked⟩ := exists_strip blocks
  have none : liveCount tail = 0 :=
    List.countP_eq_zero.mpr fun block member => by rw [parked block member]; decide
  conv_rhs => rw [same, liveCount_append, none, Nat.add_zero]

/-! ### Releasing a block -/

/-- Park the block at an index, then strip the parked tail. -/
def release (blocks : List Block) (index : Nat) : List Block := strip (mark blocks index false)

/-- Stripping before a mark makes no difference to a release of a live block. -/
theorem release_strip {blocks : List Block} {index : Nat} {block : Block}
    (found : blocks[index]? = some block) (live : block.live = true) :
    release (strip blocks) index = release blocks index := by
  obtain ⟨tail, same, parked⟩ := exists_strip blocks
  have inside := lt_length_of_getElem? (getElem?_strip_of_live found live)
  conv_rhs => rw [release, same, mark_append_of_lt _ inside, strip_append_parked _ parked]
  rfl

/-- **Two live blocks can be released in either order.** -/
theorem release_comm {blocks : List Block} {first second : Nat} {block other : Block}
    (found : blocks[first]? = some block) (live : block.live = true)
    (found' : blocks[second]? = some other) (live' : other.live = true)
    (different : first ≠ second) :
    release (release blocks first) second = release (release blocks second) first := by
  have kept : (mark blocks first false)[second]? = some other := by
    rw [getElem?_mark_of_ne _ _ different, found']
  have kept' : (mark blocks second false)[first]? = some block := by
    rw [getElem?_mark_of_ne _ _ different.symm, found]
  calc release (release blocks first) second
      = release (mark blocks first false) second := release_strip kept live'
    _ = release (mark blocks second false) first := by
        rw [release, release, mark_comm _ _ _ different]
    _ = release (release blocks second) first := (release_strip kept' live).symm

/-- A block below the last is parked where it is. -/
theorem release_of_below {blocks : List Block} (tight : Tight blocks) {index : Nat}
    (below : index + 1 < blocks.length) : release blocks index = mark blocks index false :=
  tight_mark_parked tight below

/-- The last block goes, and the parked blocks below it with it. -/
theorem release_last (front : List Block) (last : Block) :
    release (front ++ [last]) front.length = strip front := by
  have marked : mark (front ++ [last]) front.length false =
      front ++ [{ last with live := false }] := by
    apply List.ext_getElem?
    intro index
    rcases Nat.lt_trichotomy index front.length with inside | rfl | past
    · rw [getElem?_mark_of_ne _ _ inside.ne', List.getElem?_append_left inside,
        List.getElem?_append_left inside]
    · rw [getElem?_mark_self List.getElem?_concat_length, List.getElem?_concat_length]
    · rw [getElem?_mark_of_ne _ _ past.ne, List.getElem?_eq_none, List.getElem?_eq_none] <;>
        simp only [List.length_append, List.length_singleton] <;> exact past
  unfold release
  rw [marked, strip_concat]
  exact if_neg Bool.false_ne_true

theorem tight_release (blocks : List Block) (index : Nat) : Tight (release blocks index) :=
  tight_strip _

theorem getElem?_of_release {blocks : List Block} {index other : Nat} {block : Block}
    (found : (release blocks index)[other]? = some block) (different : index ≠ other) :
    blocks[other]? = some block := by
  have marked := getElem?_of_strip found
  rwa [getElem?_mark_of_ne _ _ different] at marked

/-- A release keeps every other live block where it was. -/
theorem getElem?_release_of_live {blocks : List Block} {index other : Nat} {block : Block}
    (found : blocks[other]? = some block) (live : block.live = true) (different : index ≠ other) :
    (release blocks index)[other]? = some block := by
  refine getElem?_strip_of_live ?_ live
  rw [getElem?_mark_of_ne _ _ different, found]

theorem length_release_le (blocks : List Block) (index : Nat) :
    (release blocks index).length ≤ blocks.length := by
  have := (prefix_strip (mark blocks index false)).length_le
  rwa [length_mark] at this

theorem start_release {blocks : List Block} {index other : Nat}
    (inside : other ≤ (release blocks index).length) :
    start (release blocks index) other = start blocks other := by
  unfold release
  rw [start_strip inside, start_mark]

theorem start_release_of_live {blocks : List Block} {index other : Nat} {block : Block}
    (found : blocks[other]? = some block) (live : block.live = true) (different : index ≠ other) :
    start (release blocks index) other = start blocks other :=
  start_release (lt_length_of_getElem? (getElem?_release_of_live found live different)).le

theorem extent_release_le (blocks : List Block) (index : Nat) :
    extent (release blocks index) ≤ extent blocks := by
  have := extent_strip_le (mark blocks index false)
  rwa [extent_mark] at this

theorem liveCount_release {blocks : List Block} {index : Nat} {block : Block}
    (found : blocks[index]? = some block) (live : block.live = true) :
    liveCount (release blocks index) + 1 = liveCount blocks := by
  have counted := liveCount_mark false found
  rw [live] at counted
  unfold release
  rw [liveCount_strip]
  exact counted

/-! ### Live blocks by their offsets -/

/-- The size of the live block that starts at an offset. -/
def liveAt (blocks : List Block) (offset : Nat) : Option Nat :=
  match locate blocks offset with
  | some (index, 0) => blocks[index]?.bind fun block => if block.live then some block.size else none
  | _ => none

/-- **The map of the live blocks.** -/
theorem liveAt_eq_some_iff {blocks : List Block} {offset size : Nat} :
    liveAt blocks offset = some size ↔
      ∃ index, blocks[index]? = some ⟨size, true⟩ ∧ 0 < size ∧ offset = start blocks index := by
  constructor
  · intro live
    unfold liveAt at live
    split at live
    · rename_i index located
      obtain ⟨⟨size', flag⟩, found, small, same⟩ := locate_eq_some_iff.mp located
      rw [found] at live
      cases flag
      · cases live
      · cases live
        exact ⟨index, found, small, same⟩
    · cases live
  · rintro ⟨index, found, positive, same⟩
    have located : locate blocks offset = some (index, 0) :=
      locate_eq_some_iff.mpr ⟨_, found, positive, same⟩
    unfold liveAt
    rw [located]
    show blocks[index]?.bind _ = _
    rw [found]
    rfl

theorem liveAt_of_getElem? {blocks : List Block} {index size : Nat}
    (found : blocks[index]? = some ⟨size, true⟩) (positive : 0 < size) :
    liveAt blocks (start blocks index) = some size :=
  liveAt_eq_some_iff.mpr ⟨index, found, positive, rfl⟩

theorem liveAt_pos {blocks : List Block} {offset size : Nat}
    (live : liveAt blocks offset = some size) : 0 < size := by
  obtain ⟨_, _, positive, _⟩ := liveAt_eq_some_iff.mp live
  exact positive

theorem liveAt_end_le {blocks : List Block} {offset size : Nat}
    (live : liveAt blocks offset = some size) : offset + size ≤ extent blocks := by
  obtain ⟨index, found, _, rfl⟩ := liveAt_eq_some_iff.mp live
  exact end_le_extent found

/-- **Live blocks at different offsets share no offset.** -/
theorem liveAt_disjoint {blocks : List Block} {offset offset' size size' : Nat}
    (live : liveAt blocks offset = some size) (live' : liveAt blocks offset' = some size')
    (different : offset ≠ offset') : offset + size ≤ offset' ∨ offset' + size' ≤ offset := by
  obtain ⟨index, found, _, rfl⟩ := liveAt_eq_some_iff.mp live
  obtain ⟨index', found', _, rfl⟩ := liveAt_eq_some_iff.mp live'
  refine apart_of_ne found found' ?_
  rintro rfl
  exact different rfl

/-- No live block starts at a block that is parked. -/
theorem liveAt_parked {blocks : List Block} {index size : Nat}
    (found : blocks[index]? = some ⟨size, false⟩) (positive : 0 < size) :
    liveAt blocks (start blocks index) = none := by
  rw [Option.eq_none_iff_forall_ne_some]
  intro size' live
  obtain ⟨index', found', positive', same⟩ := liveAt_eq_some_iff.mp live
  obtain rfl := start_injective found found' positive positive' same
  rw [found] at found'
  cases found'

/-- No live block starts where the tiling ends. -/
theorem liveAt_extent (blocks : List Block) : liveAt blocks (extent blocks) = none := by
  rw [Option.eq_none_iff_forall_ne_some]
  intro size live
  have := liveAt_end_le live
  have := liveAt_pos live
  omega

/-- **A change of one block is one update of the map**, where every other live block keeps its index
and its offset. -/
theorem liveAt_update {blocks after : List Block} {index : Nat} {entry : Option Nat}
    (here : liveAt after (start blocks index) = entry)
    (others : ∀ other size, index ≠ other →
      (after[other]? = some ⟨size, true⟩ ↔ blocks[other]? = some ⟨size, true⟩))
    (starts : ∀ other size, after[other]? = some ⟨size, true⟩ →
      start after other = start blocks other) :
    liveAt after = Function.update (liveAt blocks) (start blocks index) entry := by
  funext offset
  by_cases same : offset = start blocks index
  · subst same
    rw [Function.update_self, here]
  · rw [Function.update_of_ne same]
    ext size
    rw [liveAt_eq_some_iff, liveAt_eq_some_iff]
    constructor
    · rintro ⟨other, found, positive, rfl⟩
      have unmoved := starts other size found
      have different : index ≠ other := by
        rintro rfl
        exact same unmoved
      exact ⟨other, (others other size different).mp found, positive, unmoved⟩
    · rintro ⟨other, found, positive, rfl⟩
      have different : index ≠ other := by
        rintro rfl
        exact same rfl
      have kept := (others other size different).mpr found
      exact ⟨other, kept, positive, (starts other size kept).symm⟩

/-- Setting the flag of a parked block adds it to the map. -/
theorem liveAt_revive {blocks : List Block} {index size : Nat}
    (found : blocks[index]? = some ⟨size, false⟩) (positive : 0 < size) :
    liveAt (mark blocks index true) =
      Function.update (liveAt blocks) (start blocks index) (some size) := by
  apply liveAt_update
  · rw [← start_mark blocks index index true]
    exact liveAt_of_getElem? (getElem?_mark_self found true) positive
  · intro other size' different
    rw [getElem?_mark_of_ne _ _ different]
  · intro other size' found'
    exact start_mark _ _ _ _

/-- A block pushed at the end is added to the map at the old extent. -/
theorem liveAt_push (blocks : List Block) {size : Nat} (positive : 0 < size) :
    liveAt (blocks ++ [⟨size, true⟩]) =
      Function.update (liveAt blocks) (extent blocks) (some size) := by
  rw [← start_length blocks]
  apply liveAt_update
  · rw [← start_append_of_le le_rfl]
    exact liveAt_of_getElem? List.getElem?_concat_length positive
  · intro other size' different
    rw [getElem?_push_of_ne _ _ different]
  · intro other size' found
    have bound := lt_length_of_getElem? found
    rw [List.length_append, List.length_singleton] at bound
    exact start_append_of_le (Nat.le_of_lt_succ bound)

/-- The block released is in the map no longer. -/
theorem liveAt_release_self {blocks : List Block} {index size : Nat}
    (found : blocks[index]? = some ⟨size, true⟩) (positive : 0 < size) :
    liveAt (release blocks index) (start blocks index) = none := by
  rw [Option.eq_none_iff_forall_ne_some]
  intro size' live
  obtain ⟨other, found', positive', same⟩ := liveAt_eq_some_iff.mp live
  rw [start_release (lt_length_of_getElem? found').le] at same
  by_cases different : index = other
  · subst different
    unfold release at found'
    have marked := getElem?_of_strip found'
    rw [getElem?_mark_self found false] at marked
    cases marked
  · exact different
      (start_injective found (getElem?_of_release found' different) positive positive' same)

/-- **A release removes one block from the map.** -/
theorem liveAt_release {blocks : List Block} {index size : Nat}
    (found : blocks[index]? = some ⟨size, true⟩) (positive : 0 < size) :
    liveAt (release blocks index) =
      Function.update (liveAt blocks) (start blocks index) none := by
  apply liveAt_update (liveAt_release_self found positive)
  · intro other size' different
    constructor
    · intro kept
      exact getElem?_of_release kept different
    · intro live
      exact getElem?_release_of_live live rfl different
  · intro other size' kept
    exact start_release (lt_length_of_getElem? kept).le

/-! ### Tilings told apart by their live blocks -/

section Determined

variable {blocks others : List Block}

/-- Where two tilings agree below an index, a live block at it is in both. -/
theorem getElem?_of_liveAt_eq (positive : ∀ block ∈ others, 0 < block.size)
    (same : liveAt blocks = liveAt others) {index size : Nat}
    (below : blocks.take index = others.take index) (found : blocks[index]? = some ⟨size, true⟩)
    (large : 0 < size) : others[index]? = some ⟨size, true⟩ := by
  have starts : start blocks index = start others index := congrArg extent below
  have live := liveAt_of_getElem? found large
  rw [same, starts] at live
  obtain ⟨other, found', -, begins⟩ := liveAt_eq_some_iff.mp live
  rcases Nat.lt_trichotomy other index with before | rfl | behind
  · have := end_le_start found' before
    simp only at this
    omega
  · exact found'
  · obtain ⟨block, inner⟩ := exists_getElem? (behind.trans (lt_length_of_getElem? found'))
    have := end_le_start inner behind
    have := positive block (List.mem_of_getElem? inner)
    omega

/-- **Without parked blocks, a tiling is its map of live blocks.** -/
theorem eq_of_liveAt_eq (all : ∀ block ∈ blocks, block.live = true)
    (all' : ∀ block ∈ others, block.live = true) (positive : ∀ block ∈ blocks, 0 < block.size)
    (positive' : ∀ block ∈ others, 0 < block.size) (same : liveAt blocks = liveAt others) :
    blocks = others := by
  have entry : ∀ index, blocks.take index = others.take index →
      blocks[index]? = others[index]? := by
    intro index below
    ext ⟨size, live⟩
    constructor
    · intro found
      obtain rfl : live = true := all _ (List.mem_of_getElem? found)
      exact getElem?_of_liveAt_eq positive' same below found
        (positive _ (List.mem_of_getElem? found))
    · intro found
      obtain rfl : live = true := all' _ (List.mem_of_getElem? found)
      exact getElem?_of_liveAt_eq positive same.symm below.symm found
        (positive' _ (List.mem_of_getElem? found))
  have prefixes : ∀ index, blocks.take index = others.take index := by
    intro index
    induction index with
    | zero => rfl
    | succ index ih => rw [List.take_add_one, List.take_add_one, ih, entry index ih]
  exact List.ext_getElem? fun index => entry index (prefixes index)

end Determined

/-! ### Covered offsets -/

/-- The offset lies in a live block. -/
def Covered (blocks : List Block) (offset : Nat) : Prop :=
  ∃ first size, liveAt blocks first = some size ∧ first ≤ offset ∧ offset < first + size

theorem covered_of_getElem? {blocks : List Block} {index size offset : Nat}
    (found : blocks[index]? = some ⟨size, true⟩)
    (inside : start blocks index ≤ offset ∧ offset < start blocks index + size) :
    Covered blocks offset :=
  ⟨_, _, liveAt_of_getElem? found (by omega), inside⟩

theorem not_covered_of_extent_le {blocks : List Block} {offset : Nat}
    (past : extent blocks ≤ offset) : ¬ Covered blocks offset := by
  rintro ⟨first, size, live, -, below⟩
  have := liveAt_end_le live
  omega

/-- A live block at the end covers its own offsets besides. -/
theorem covered_push_iff (blocks : List Block) {size offset : Nat} (positive : 0 < size) :
    Covered (blocks ++ [⟨size, true⟩]) offset ↔
      Covered blocks offset ∨ (extent blocks ≤ offset ∧ offset < extent blocks + size) := by
  constructor
  · rintro ⟨first, size', live, inside⟩
    rw [liveAt_push blocks positive] at live
    by_cases here : first = extent blocks
    · subst here
      rw [Function.update_self] at live
      cases live
      exact .inr inside
    · rw [Function.update_of_ne here] at live
      exact .inl ⟨first, size', live, inside⟩
  · rintro (⟨first, size', live, inside⟩ | inside)
    · refine ⟨first, size', ?_, inside⟩
      rw [liveAt_push blocks positive, Function.update_of_ne, live]
      rintro rfl
      rw [liveAt_extent] at live
      cases live
    · refine ⟨extent blocks, size, ?_, inside⟩
      rw [liveAt_push blocks positive, Function.update_self]

/-- A release uncovers the block released, and nothing else. -/
theorem covered_release {blocks : List Block} {index size offset : Nat}
    (found : blocks[index]? = some ⟨size, true⟩) (positive : 0 < size)
    (covered : Covered blocks offset)
    (outside : ¬ (start blocks index ≤ offset ∧ offset < start blocks index + size)) :
    Covered (release blocks index) offset := by
  obtain ⟨other, size', live, inside⟩ := covered
  by_cases here : other = start blocks index
  · subst here
    rw [liveAt_of_getElem? found positive] at live
    cases live
    exact absurd inside outside
  · refine ⟨other, size', ?_, inside⟩
    rw [liveAt_release found positive, Function.update_of_ne here, live]

/-! ### Taking a block -/

/-- **A block is taken for a size**: a parked block that is large enough becomes live, or a live
block of that size is added at the end. -/
inductive Placed (blocks : List Block) (size : Nat) : List Block → Nat → Prop
  | revived {index capacity : Nat} (found : blocks[index]? = some ⟨capacity, false⟩)
      (large : size ≤ capacity) : Placed blocks size (mark blocks index true) index
  | pushed : Placed blocks size (blocks ++ [⟨size, true⟩]) blocks.length

namespace Placed

variable {blocks after : List Block} {size index : Nat}

theorem getElem?_eq (placed : Placed blocks size after index) :
    ∃ capacity, size ≤ capacity ∧ after[index]? = some ⟨capacity, true⟩ := by
  cases placed with
  | revived found large => exact ⟨_, large, getElem?_mark_self found true⟩
  | pushed => exact ⟨size, le_rfl, List.getElem?_concat_length⟩

/-- Every other block stays as it was. -/
theorem getElem?_of_ne (placed : Placed blocks size after index) {other : Nat}
    (different : index ≠ other) : after[other]? = blocks[other]? := by
  cases placed with
  | revived => exact getElem?_mark_of_ne _ _ different
  | pushed => exact getElem?_push_of_ne _ _ different

/-- The block taken was not live. -/
theorem not_live (placed : Placed blocks size after index) (capacity : Nat) :
    blocks[index]? ≠ some ⟨capacity, true⟩ := by
  cases placed with
  | revived found =>
    rw [found]
    nofun
  | pushed =>
    rw [List.getElem?_eq_none le_rfl]
    nofun

theorem ne_of_live (placed : Placed blocks size after index) {other capacity : Nat}
    (found : blocks[other]? = some ⟨capacity, true⟩) : index ≠ other := by
  rintro rfl
  exact placed.not_live capacity found

theorem index_le (placed : Placed blocks size after index) : index ≤ blocks.length := by
  cases placed with
  | revived found => exact (lt_length_of_getElem? found).le
  | pushed => exact le_rfl

/-- Taking a block moves no block. -/
theorem start_of_le (placed : Placed blocks size after index) {other : Nat}
    (inside : other ≤ blocks.length) : start after other = start blocks other := by
  cases placed with
  | revived => exact start_mark _ _ _ _
  | pushed => exact start_append_of_le inside

theorem start_eq (placed : Placed blocks size after index) :
    start after index = start blocks index :=
  placed.start_of_le placed.index_le

/-- A live block is another block, and stays as it was. -/
theorem getElem?_of_live (placed : Placed blocks size after index) {other capacity : Nat}
    (found : blocks[other]? = some ⟨capacity, true⟩) :
    after[other]? = some ⟨capacity, true⟩ := by
  rw [placed.getElem?_of_ne (placed.ne_of_live found), found]

theorem liveCount_eq (placed : Placed blocks size after index) :
    liveCount after = liveCount blocks + 1 := by
  cases placed with
  | revived found => exact liveCount_mark true found
  | pushed => exact liveCount_append _ _

theorem length_le (placed : Placed blocks size after index) : blocks.length ≤ after.length := by
  cases placed with
  | revived => exact (length_mark _ _ _).ge
  | pushed => exact List.length_append ▸ Nat.le_add_right _ _

theorem extent_le (placed : Placed blocks size after index) : extent blocks ≤ extent after := by
  cases placed with
  | revived => exact (extent_mark _ _ _).ge
  | pushed => exact (extent_append _ _).ge.trans' (Nat.le_add_right _ _)

/-- No live block started where the block taken starts. -/
theorem liveAt_none (placed : Placed blocks size after index) (positive : 0 < size) :
    liveAt blocks (start after index) = none := by
  rw [placed.start_eq]
  cases placed with
  | revived found large => exact liveAt_parked found (positive.trans_le large)
  | pushed =>
    rw [start_length]
    exact liveAt_extent blocks

/-- **A taken block is added to the map of the live blocks.** -/
theorem liveAt_eq (placed : Placed blocks size after index) (positive : 0 < size) {capacity : Nat}
    (found : after[index]? = some ⟨capacity, true⟩) :
    liveAt after = Function.update (liveAt blocks) (start after index) (some capacity) := by
  rw [placed.start_eq]
  cases placed with
  | revived parked large =>
    rw [getElem?_mark_self parked] at found
    cases found
    exact liveAt_revive parked (positive.trans_le large)
  | pushed =>
    rw [List.getElem?_concat_length] at found
    cases found
    rw [start_length]
    exact liveAt_push blocks positive

/-- The block taken lies apart from every live block. -/
theorem apart (placed : Placed blocks size after index) {capacity : Nat}
    (found : after[index]? = some ⟨capacity, true⟩) {other size' : Nat}
    (live : blocks[other]? = some ⟨size', true⟩) :
    start after index + capacity ≤ start blocks other ∨
      start blocks other + size' ≤ start after index := by
  have kept := placed.getElem?_of_live live
  rw [← placed.start_of_le (lt_length_of_getElem? live).le]
  exact apart_of_ne found kept (placed.ne_of_live live)

/-- The block taken shares no offset with the live blocks. -/
theorem not_covered (placed : Placed blocks size after index) {capacity : Nat}
    (found : after[index]? = some ⟨capacity, true⟩) {offset : Nat}
    (inside : start after index ≤ offset ∧ offset < start after index + capacity) :
    ¬ Covered blocks offset := by
  rintro ⟨first, size', live, above, below⟩
  obtain ⟨other, found', -, rfl⟩ := liveAt_eq_some_iff.mp live
  rcases placed.apart found found' with before | behind <;> omega

/-- What is covered stays covered. -/
theorem covered (placed : Placed blocks size after index) (positive : 0 < size) {offset : Nat}
    (covered : Covered blocks offset) : Covered after offset := by
  obtain ⟨capacity, -, found⟩ := placed.getElem?_eq
  obtain ⟨other, size', live, inside⟩ := covered
  refine ⟨other, size', ?_, inside⟩
  rw [placed.liveAt_eq positive found, Function.update_of_ne, live]
  rintro rfl
  rw [placed.liveAt_none positive] at live
  cases live

end Placed

end Tiling
