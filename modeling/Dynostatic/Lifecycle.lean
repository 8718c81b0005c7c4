/-
**The life of a record.**

The header draws the states of a record and the edges between them. `Edge` is that diagram with the
call that takes each edge, and `record_lifecycle` says that a call does nothing else to any record.

A record's block is stacked on the blocks of the records below it, so what is below cannot change
either: `stable_below` — while a record is in use, its block stays where it is and does not shrink,
and every record below it keeps its block.
-/

import Dynostatic.Invariant
import Dynostatic.Retention

namespace Dynostatic

open Tracing Tracing.Traced Tiling Rounding Bytes Runs

/-! ### The diagram -/

/-- **What a call that succeeds may do to the record at `index`**, with what the call asked for and
what it left. -/
inductive Edge (q : Placement) (s : DynostaticBuffer) (op : Op) (r : Reply) (index : Nat) :
    DsAllocator → DsAllocator → Prop
  /-- The first unused record gets a block at the bump head. -/
  | bump {size : Nat} (requested : op.requested = some size)
      (first : ∀ other < index, Touched s other) (handed : r.cell = some (q.base + s.dataHead)) :
      Edge q s op r index DsAllocator.zero ⟨s.dataHead, roundUp q.alignment size, .allocated⟩
  /-- A parked block is handed out, as large as it is. -/
  | reuse {head capacity size : Nat} (requested : op.requested = some size)
      (fits : roundUp q.alignment size ≤ capacity) (handed : r.cell = some (q.base + head)) :
      Edge q s op r index ⟨head, capacity, .free⟩ ⟨head, capacity, .allocated⟩
  /-- A block below the bump head is parked. -/
  | park {head capacity : Nat} (named : op.target = some (q.base + head))
      (below : head + capacity < r.buffer.dataHead) :
      Edge q s op r index ⟨head, capacity, .allocated⟩ ⟨head, capacity, .free⟩
  /-- The bump head is rolled back over the record: from here on the one live block was the one that
  is freed. -/
  | rollback {record : DsAllocator} (touched : record.allocationStatus ≠ .notUsed)
      (rolled : r.buffer.dataHead ≤ record.head)
      (parked : ∀ other, index ≤ other → (s.allocators other).allocationStatus = .allocated →
        op.target = some (q.base + (s.allocators other).head)) :
      Edge q s op r index record DsAllocator.zero
  /-- The trailing block grows. -/
  | grow {head capacity size : Nat} (resizes : op = .realloc .self (some (q.base + head)) size)
      (last : head + capacity = s.dataHead) (more : capacity < roundUp q.alignment size) :
      Edge q s op r index ⟨head, capacity, .allocated⟩
        ⟨head, roundUp q.alignment size, .allocated⟩
  /-- The instance starts or ends. -/
  | reset {record : DsAllocator}
      (wiped : op = .initializeAllocation .self ∨ op = .deinitAllocation .self) :
      Edge q s op r index record DsAllocator.zero

/-! ### Tables -/

section Tables

variable {c : Config} {layout : Layout c} {index other size : Nat}

/-- The record of a block that a tiling and its end have in common. -/
theorem records_of_prefix {blocks whole : List Block} (front : blocks <+: whole)
    (inside : other < blocks.length) : records blocks other = records whole other := by
  obtain ⟨tail, rfl⟩ := front
  rw [records, records, List.getElem?_append_left inside, start_append_of_le inside.le]

/-- **What a release does to each record.** -/
theorem records_release_cases (found : layout.blocks[index]? = some ⟨size, true⟩) (other : Nat) :
    records (release layout.blocks index) other = records layout.blocks other ∨
    (other = index ∧ start layout.blocks index + size < extent (release layout.blocks index) ∧
      records (release layout.blocks index) other = ⟨start layout.blocks index, size, .free⟩) ∨
    (other < layout.blocks.length ∧
      records (release layout.blocks index) other = DsAllocator.zero ∧
      extent (release layout.blocks index) ≤ start layout.blocks other ∧
      ∀ above capacity, other ≤ above → layout.blocks[above]? = some ⟨capacity, true⟩ →
        above = index) := by
  have marked : ∀ {other}, other < (release layout.blocks index).length →
      records (release layout.blocks index) other =
        records (mark layout.blocks index false) other :=
    records_of_prefix (prefix_strip _)
  rcases Nat.lt_or_ge other (release layout.blocks index).length with kept | gone
  · by_cases here : other = index
    · subst here
      have parked : (mark layout.blocks other false)[other]? = some ⟨size, false⟩ :=
        getElem?_mark_self found false
      have record := (marked kept).trans (records_parked parked)
      rw [start_mark] at record
      refine .inr (.inl ⟨rfl, ?_, record⟩)
      -- a parked block is not the last
      obtain ⟨block, found'⟩ := exists_getElem? kept
      obtain rfl := Option.some.inj ((getElem?_of_strip found').symm.trans parked)
      have bound := end_le_extent found'
      rw [start_release kept.le] at bound
      refine bound.lt_of_ne fun top => ?_
      rw [← start_release kept.le] at top
      obtain ⟨front, last, -⟩ := (layout.release other).exists_front found' top
      have tight := (layout.release other).tight
      rw [last] at tight
      cases tight_concat_iff.mp tight
    · rw [marked kept, records_mark false found, Function.update_of_ne here]
      exact .inl rfl
  · have zero := records_of_length_le gone
    rcases Nat.lt_or_ge other layout.blocks.length with used | unused
    · refine .inr (.inr ⟨used, zero, ?_, fun above capacity ordered live => ?_⟩)
      · rw [← start_length, start_release le_rfl]
        exact start_mono _ gone
      · by_contra different
        have stays := getElem?_release_of_live live rfl (Ne.symm different)
        exact absurd (lt_length_of_getElem? stays) (Nat.not_lt.mpr (gone.trans ordered))
    · exact .inl (zero.trans (records_of_length_le unused).symm)

/-- **What taking a block does to each record.** -/
theorem records_placed {blocks after : List Block} {target : Nat}
    (placed : Placed blocks size after target) (other : Nat) :
    records after other = records blocks other ∨
    (other = target ∧ other = blocks.length ∧ records blocks other = DsAllocator.zero ∧
      records after other = ⟨extent blocks, size, .allocated⟩) ∨
    (other = target ∧ ∃ capacity, size ≤ capacity ∧
      records blocks other = ⟨start blocks target, capacity, .free⟩ ∧
      records after other = ⟨start blocks target, capacity, .allocated⟩) := by
  by_cases here : other = target
  · subst here
    cases placed with
    | revived found large =>
      refine .inr (.inr ⟨rfl, _, large, records_parked found, ?_⟩)
      rw [records_live (getElem?_mark_self found true), start_mark]
    | pushed =>
      refine .inr (.inl ⟨rfl, rfl, records_of_length_le le_rfl, ?_⟩)
      rw [records_concat, Function.update_self]
      rfl
  · left
    rcases Nat.lt_or_ge other blocks.length with inside | past
    · rw [records, records, placed.getElem?_of_ne (Ne.symm here), placed.start_of_le inside.le]
    · have none : after[other]? = none := by
        rw [placed.getElem?_of_ne (Ne.symm here), List.getElem?_eq_none past]
      rw [records_of_length_le past, records_of_length_le (List.getElem?_eq_none_iff.mp none)]

end Tables

/-! ### One step -/

section Step

variable {q : Placement} {layout : Layout q.toConfig} {memory : Nat → UInt8} {op : Op} {r : Reply}

/-- The record is as it was, or it takes an edge. -/
def Follows (q : Placement) (s : DynostaticBuffer) (op : Op) (r : Reply) (index : Nat) : Prop :=
  r.buffer.allocators index = s.allocators index ∨
    r.code = .ok ∧ Edge q s op r index (s.allocators index) (r.buffer.allocators index)

theorem Follows.edge {s : DynostaticBuffer} {index : Nat} {before after : DsAllocator}
    (ok : r.code = .ok) (here : s.allocators index = before)
    (there : r.buffer.allocators index = after) (edge : Edge q s op r index before after) :
    Follows q s op r index := by
  subst here there
  exact .inr ⟨ok, edge⟩

/-- A block that is taken. -/
theorem follows_placed {after : Layout q.toConfig} {size target index : Nat}
    (requested : op.requested = some size)
    (placed : Placed layout.blocks (roundUp q.alignment size) after.blocks target)
    (ok : r.code = .ok) (handed : r.cell = some (q.base + start after.blocks target))
    (kept : r.buffer.allocators index = records after.blocks index) :
    Follows q (layout.encode memory) op r index := by
  rw [placed.start_eq] at handed
  rcases records_placed placed index with
    same | ⟨rfl, top, zero, taken⟩ | ⟨rfl, capacity, large, parked, taken⟩
  · exact .inl (kept.trans same)
  · refine .edge ok zero (kept.trans taken) (.bump requested (fun other below => ?_) ?_)
    · exact touched_encode_iff.mpr (below.trans_eq top)
    · rw [handed, top, start_length]
      rfl
  · exact .edge ok parked (kept.trans taken) (.reuse requested large handed)

/-- A block that is released. -/
theorem follows_released {index size : Nat} {arena : Nat → UInt8}
    (found : layout.blocks[index]? = some ⟨size, true⟩)
    (named : op.target = some (q.base + start layout.blocks index)) (other : Nat) :
    Follows q (layout.encode memory) op ⟨.ok, (layout.release index).encode arena, some 0⟩
      other := by
  rcases records_release_cases found other with
    same | ⟨rfl, below, parked⟩ | ⟨used, zero, rolled, alone⟩
  · exact .inl same
  · exact .edge rfl (records_live found) parked (.park named below)
  · obtain ⟨block, record⟩ := exists_getElem? used
    refine .edge rfl (records_of_getElem? record) zero (.rollback (recordOf_used _ _) rolled ?_)
    intro above ordered live
    obtain ⟨capacity, live⟩ := records_allocated_iff.mp live
    obtain rfl := alone above capacity ordered live
    rw [named, layout.encode_live memory found]

/-- A block that moves: one is taken, and then the old one is released. -/
theorem follows_moved {freed capacity size target : Nat} {after : Layout q.toConfig}
    {arena : Nat → UInt8} (found : layout.blocks[freed]? = some ⟨capacity, true⟩)
    (requested : op.requested = some size)
    (named : op.target = some (q.base + start layout.blocks freed))
    (placed : Placed layout.blocks (roundUp q.alignment size) after.blocks target) (index : Nat) :
    Follows q (layout.encode memory) op
      ⟨.ok, (after.release freed).encode arena, some (q.base + start after.blocks target)⟩
      index := by
  have stays := placed.getElem?_of_live found
  have starts := placed.start_of_le (lt_length_of_getElem? found).le
  have different := placed.ne_of_live found
  rcases records_release_cases stays index with
    same | ⟨rfl, below, parked⟩ | ⟨used, zero, rolled, alone⟩
  · exact follows_placed requested placed rfl rfl same
  · rw [starts] at below parked
    exact .edge rfl (records_live found) parked (.park named below)
  · -- the block that was taken is live, so the rollback does not reach it
    obtain ⟨taken, -, live⟩ := placed.getElem?_eq
    have reached : target < index := by
      by_contra ordered
      exact different (alone target taken (Nat.le_of_not_lt ordered) live)
    obtain ⟨block, record⟩ := exists_getElem? used
    have record' : layout.blocks[index]? = some block := by
      rw [← placed.getElem?_of_ne reached.ne, record]
    have inside := (lt_length_of_getElem? record').le
    rw [placed.start_of_le inside] at rolled
    refine .edge rfl (records_of_getElem? record') zero (.rollback (recordOf_used _ _) rolled ?_)
    intro above ordered live
    obtain ⟨capacity', live⟩ := records_allocated_iff.mp live
    obtain rfl := alone above capacity' ordered (placed.getElem?_of_live live)
    rw [named, layout.encode_live memory found]

/-- **A call does to a record what the diagram says, or nothing.** -/
theorem Outcome.follows (outcome : Outcome q layout memory op r) (index : Nat) :
    Follows q (layout.encode memory) op r index := by
  cases outcome with
  | failed => exact .inl rfl
  | reported => exact .inl rfl
  | ended => exact .inr ⟨rfl, .reset (.inr rfl)⟩
  | placed requests positive _ _ placed =>
    exact follows_placed (requests.requested_eq positive) placed rfl rfl rfl
  | released found releases => exact follows_released found releases.target_eq index
  | kept => exact .inl rfl
  | @grown front old size last _ _ more =>
    have found := getElem?_of_last last
    have table : records (front ++ [⟨roundUp q.alignment size, true⟩]) = Function.update
        (records layout.blocks) front.length ⟨extent front, roundUp q.alignment size, .allocated⟩ :=
      last ▸ (update_records_last front ⟨old, true⟩ ⟨_, true⟩).symm
    by_cases here : index = front.length
    · subst here
      have record := records_live found
      rw [start_of_last last] at record
      refine .edge rfl record ?_ (.grow rfl (extent_of_last last).symm more)
      exact (congrFun table _).trans (Function.update_self _ _ _)
    · exact .inl ((congrFun table index).trans (Function.update_of_ne here _ _))
  | moved found positive _ _ placed =>
    refine follows_moved found ?_ rfl placed index
    exact if_neg positive.ne'
  | written => exact .inl rfl

end Step

/-- **The life of a record.** In every reachable state, a call leaves each record as it is or takes
it along one edge of the diagram. -/
theorem record_lifecycle {q : Placement} {s : DynostaticBuffer} (reachable : Reachable q s)
    (op : Op) (index : Nat) :
    (reply q s op).buffer.allocators index = s.allocators index ∨
      (reply q s op).code = .ok ∧
        Edge q s op (reply q s op) index (s.allocators index)
          ((reply q s op).buffer.allocators index) := by
  rcases reachable.wellFormed with raw | ⟨layout, memory, rfl⟩
  · rcases call_uninitialized (q := q) raw op with ⟨code, -, -, yields⟩ | ⟨rfl, yields⟩
    · exact .inl (congrArg (fun r => r.buffer.allocators index) yields.value)
    · exact Follows.edge (congrArg Reply.code yields.value) rfl
        (congrArg (fun r => r.buffer.allocators index) yields.value) (.reset (.inl rfl))
  · exact (reply_outcome layout memory op).follows index

/-- A block that has no space to grow moves, and its record is parked. -/
theorem record_lifecycle_moved :
    Edge defaultPlacement twoLive (.realloc .self (some 4096) 20)
      (reply defaultPlacement twoLive (.realloc .self (some 4096) 20)) 0
      ⟨0, 12, .allocated⟩ ⟨0, 12, .free⟩ := by
  have before : twoLive.allocators 0 = ⟨0, 12, .allocated⟩ := by decide
  have after : (reply defaultPlacement twoLive
      (.realloc .self (some 4096) 20)).buffer.allocators 0 = ⟨0, 12, .free⟩ := by decide
  have follows := record_lifecycle twoLive_reachable (.realloc .self (some 4096) 20) 0
  rw [before, after] at follows
  rcases follows with same | ⟨-, edge⟩
  · cases same
  · exact edge

/-! ### Below a record in use -/

/-- From one state to the other the record at `index` keeps its block, which may have grown, and the
records below it keep theirs. -/
structure Stable (index : Nat) (s t : DynostaticBuffer) : Prop where
  head : (t.allocators index).head = (s.allocators index).head
  size : (s.allocators index).size ≤ (t.allocators index).size
  below : ∀ other < index, Touched t other ∧
    (t.allocators other).head = (s.allocators other).head ∧
      (t.allocators other).size = (s.allocators other).size

section Stable

variable {q : Placement} {s : DynostaticBuffer} {index : Nat}

theorem Stable.trans {t u : DynostaticBuffer} (first : Stable index s t)
    (second : Stable index t u) : Stable index s u where
  head := second.head.trans first.head
  size := first.size.trans second.size
  below other lower := by
    obtain ⟨-, head, size⟩ := first.below other lower
    obtain ⟨touched, head', size'⟩ := second.below other lower
    exact ⟨touched, head'.trans head, size'.trans size⟩

/-- The records in use are a prefix of the table. -/
theorem touched_of_le (encoded : Encoded q s) {other : Nat} (ordered : other ≤ index)
    (touched : Touched s index) : Touched s other := by
  obtain ⟨layout, memory, rfl⟩ := encoded
  exact touched_encode_iff.mpr (ordered.trans_lt (touched_encode_iff.mp touched))

theorem Stable.of_same {t : DynostaticBuffer} (encoded : Encoded q s) (touched : Touched s index)
    (same : t.allocators = s.allocators) : Stable index s t where
  head := by rw [same]
  size := by rw [same]
  below other lower := by
    unfold Touched
    rw [same]
    exact ⟨touched_of_le encoded lower.le touched, rfl, rfl⟩

/-- An edge between two blocks leaves the block where it is, and as large at least. -/
theorem Edge.keeps {op : Op} {r : Reply} {before after : DsAllocator}
    (edge : Edge q s op r index before after) (touched : before.allocationStatus ≠ .notUsed)
    (touched' : after.allocationStatus ≠ .notUsed) :
    after.head = before.head ∧ before.size ≤ after.size ∧
      (before.head + before.size ≠ s.dataHead → after.size = before.size) := by
  cases edge with
  | bump => exact absurd rfl touched
  | reuse => exact ⟨rfl, le_rfl, fun _ => rfl⟩
  | park => exact ⟨rfl, le_rfl, fun _ => rfl⟩
  | rollback => exact absurd rfl touched'
  | grow _ last more => exact ⟨rfl, more.le, fun inner => absurd last inner⟩
  | reset => exact absurd rfl touched'

theorem Follows.keeps {op : Op} {r : Reply} (follows : Follows q s op r index)
    (touched : Touched s index) (touched' : Touched r.buffer index) :
    (r.buffer.allocators index).head = (s.allocators index).head ∧
      (s.allocators index).size ≤ (r.buffer.allocators index).size ∧
      ((s.allocators index).head + (s.allocators index).size ≠ s.dataHead →
        (r.buffer.allocators index).size = (s.allocators index).size) := by
  rcases follows with same | ⟨-, edge⟩
  · rw [same]
    exact ⟨rfl, le_rfl, fun _ => rfl⟩
  · exact edge.keeps touched touched'

/-- A call that leaves a record in use leaves the instance initialized. -/
theorem Outcome.encoded_of_touched {layout : Layout q.toConfig} {memory : Nat → UInt8} {op : Op}
    {r : Reply} (outcome : Outcome q layout memory op r) (touched : Touched r.buffer index) :
    Encoded q r.buffer := by
  cases outcome with
  | ended => exact absurd rfl touched
  | _ => exact Layout.encoded _ _

/-- **One step.** -/
theorem stable_next (encoded : Encoded q s) (action : Action) (touched : Touched s index)
    (touched' : Touched (next q s action) index) :
    Encoded q (next q s action) ∧ Stable index s (next q s action) := by
  rcases action with op | ⟨offset, byte⟩
  · obtain ⟨layout, memory, rfl⟩ := encoded
    have outcome := reply_outcome layout memory op
    have encoded' := outcome.encoded_of_touched touched'
    obtain ⟨head, size, -⟩ := (outcome.follows index).keeps touched touched'
    refine ⟨encoded', head, size, fun other lower => ?_⟩
    have used' := touched_of_le encoded' lower.le touched'
    obtain ⟨block, found⟩ :=
      exists_getElem? (lower.trans (touched_encode_iff.mp touched))
    obtain ⟨above, found'⟩ := exists_getElem? (touched_encode_iff.mp touched)
    have used := touched_of_le (layout.encoded memory) lower.le touched
    obtain ⟨head', -, size'⟩ := (outcome.follows other).keeps used used'
    refine ⟨used', head', size' ?_⟩
    -- the record at `index` is above, so this block is not the last
    have ordered := end_le_start found lower
    have bound := end_le_extent found'
    have positive := (layout.capacity_of_getElem? found').positive
    have record : (layout.encode memory).allocators other = _ := records_of_getElem? found
    rw [record]
    show start layout.blocks other + block.size ≠ extent layout.blocks
    omega
  · obtain ⟨layout, memory, rfl⟩ := encoded
    exact ⟨layout.encoded _, .of_same (layout.encoded memory) touched rfl⟩

/-- **What is below a record in use stays as it is.** In every run from a reachable initialized
state, as long as the record at `index` is in use, its block stays where it is and does not shrink,
and the records below it stay in use with the blocks they had: freed, handed out again or moved away
from, no block there is split, joined, resized or rolled back. -/
theorem stable_below (reachable : Reachable q s) (initialized : s.initMagic = dsMagicNumber)
    (touched : Touched s index) (actions : List Action)
    (tenure : Obeys (next q) (fun s action => Touched (next q s action) index) s actions) :
    Stable index s (run (next q) s actions) := by
  have encoded := reachable.of_initialized initialized
  clear reachable initialized
  induction actions generalizing s with
  | nil => exact .of_same encoded touched rfl
  | cons action actions ih =>
    obtain ⟨touched', later⟩ := tenure
    obtain ⟨encoded', stable⟩ := stable_next encoded action touched touched'
    exact stable.trans (ih touched' later encoded')

end Stable

/-- The block at `4096` can only be parked while the one above it is live. -/
theorem stable_below_twoLive :
    Stable 1 twoLive (run (next defaultPlacement) twoLive
      [.call (.realloc .self (some 4096) 20), .call (.malloc .self (some 0) 5)]) := by
  refine stable_below twoLive_reachable rfl ?_ _ ⟨?_, ?_, trivial⟩
  · unfold Touched
    decide
  · unfold Touched
    decide
  · unfold Touched
    decide

end Dynostatic
