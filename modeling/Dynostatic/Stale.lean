/-
**Stale aliases.**

A client may keep a copy of a pointer whose block is gone: freed, or moved by `ds_realloc`. In every
continuation `ds_free` and `ds_realloc` reject the copy, and change nothing, until a call hands out
its address again (`stale_aliases_rejected`). What has become of the address does not matter: it may
be parked, unused, or inside a larger block.

The invariant is that the address is no key of the instance's heap; `Heaps.Step.handed` is the step.
-/

import Dynostatic.Heap

namespace Dynostatic

open Tracing Tracing.Traced Tiling Rounding Bytes Runs Heaps

variable {q : Placement}

/-- The call hands out blocks. -/
def Op.Allocates : Op → Prop
  | .malloc _ _ _ => True
  | .calloc _ _ _ _ => True
  | .realloc _ _ _ => True
  | _ => False

/-- The call takes the block away from `p`: it frees it, or moves it. -/
def Vacates (q : Placement) (s : DynostaticBuffer) (p : Nat) (op : Op) : Prop :=
  op.Releases p ∨ ∃ size, op = .realloc .self (some p) size ∧ (reply q s op).cell ≠ some p

/-- The action does not end the instance's life, and does not hand out `p`. -/
def Withholds (q : Placement) (p : Nat) (s : DynostaticBuffer) (action : Action) : Prop :=
  Continues action ∧ ∀ op, action = .call op → op.Allocates → (reply q s op).code = .ok →
    (reply q s op).cell ≠ some p

/-- An initialized instance with no live block at `p`. -/
def Vacant (q : Placement) (p : Nat) (s : DynostaticBuffer) : Prop :=
  Encoded q s ∧ p ∉ heapOf q s

/-- A call that hands out `p` is a successful allocation. -/
theorem allocates_of_hands {s : DynostaticBuffer} {op : Op} {r : Reply} {p : Nat} (nonNull : p ≠ 0)
    (hands : (op.label q s r).Hands p) : op.Allocates ∧ r.code = .ok ∧ r.cell = some p := by
  have ok : r.code = .ok := by
    by_contra notOk
    rw [label_failed notOk] at hands
    cases hands
  obtain ⟨code, buffer, cell⟩ := r
  obtain rfl : code = .ok := ok
  have handed : cell.getD 0 = p → cell = some p := by
    intro same
    cases cell with
    | none => exact absurd same.symm nonNull
    | some address => exact congrArg some same
  cases op with
  | malloc => exact ⟨trivial, rfl, handed hands⟩
  | calloc => exact ⟨trivial, rfl, handed hands⟩
  | realloc _ pMemory size =>
    refine ⟨trivial, rfl, handed ?_⟩
    change Label.Hands p (if size = 0 then .free _ else if pMemory.getD 0 = 0 then
      .allocate 0 size 0 (cell.getD 0) else .resize _ size (cell.getD 0)) at hands
    split at hands
    · cases hands
    · split at hands <;> exact hands
  | _ => exact False.elim hands

/-- **A call that takes the block away leaves its address vacant.** -/
theorem Outcome.vacates {layout : Layout q.toConfig} {memory : Nat → UInt8} {op : Op} {r : Reply}
    (outcome : Outcome q layout memory op r) {p : Nat} (nonNull : p ≠ 0) (ok : r.code = .ok)
    (vacates : op.Releases p ∨ ∃ size, op = .realloc .self (some p) size ∧ r.cell ≠ some p) :
    Vacant q p r.buffer := by
  have continues : Continues (.call op) := by
    rcases vacates with releases | ⟨size, rfl, -⟩
    · cases releases <;> nofun
    · nofun
  have step := outcome.step continues
  have encoded := outcome.encode continues
  obtain ⟨code, buffer, cell⟩ := r
  obtain rfl : code = .ok := ok
  refine ⟨encoded, fun live => ?_⟩
  have kept : ¬ op.Releases p := by
    intro releases
    rw [releases.label] at step
    exact ((step.of_free.2 p).mp live).1 rfl
  obtain ⟨size, rfl, moved⟩ := vacates.resolve_left kept
  have positive : 0 < size := by
    by_contra zero
    obtain rfl : size = 0 := by omega
    exact kept (.realloc p)
  -- what is left is a move, and the address handed out is another one
  change Step 0 _ (if size = 0 then .free p else if p = 0 then _
    else .resize p size (cell.getD 0)) _ at step
  rw [if_neg positive.ne', if_neg nonNull] at step
  have different : cell.getD 0 ≠ p := by
    rintro rfl
    cases cell with
    | none => exact nonNull rfl
    | some address => exact moved rfl
  obtain ⟨-, moves⟩ := step.of_move different
  rcases (moves p).mp live with handed | ⟨other, -⟩
  · exact different handed.symm
  · exact other rfl

/-- **One step leaves a vacant address vacant**, unless it hands the address out. -/
theorem Vacant.next {p : Nat} (nonNull : p ≠ 0) {s : DynostaticBuffer} {action : Action}
    (withholds : Withholds q p s action) (vacant : Vacant q p s) :
    Vacant q p (next q s action) := by
  obtain ⟨⟨layout, memory, rfl⟩, dead⟩ := vacant
  rcases action with op | ⟨offset, byte⟩
  · have outcome := reply_outcome layout memory op
    refine ⟨outcome.encode withholds.1, fun live => ?_⟩
    obtain ⟨allocates, ok, handed⟩ :=
      allocates_of_hands nonNull ((outcome.step withholds.1).handed dead live)
    exact withholds.2 op rfl allocates ok handed
  · refine ⟨layout.encoded (Function.update memory offset byte), ?_⟩
    rw [not_mem_heapOf_iff] at dead
    exact (not_mem_heapOf_iff _ _).mpr dead

/-- An address of the arena with no live block is rejected, and nothing is changed. -/
theorem Vacant.rejected {p : Nat} {s : DynostaticBuffer} (vacant : Vacant q p s)
    (above : q.base ≤ p) (below : p < q.base + q.bufferMemorySize) {size : Nat}
    (small : size ≤ q.maxAllocationSize) :
    reply q s (.free .self (some p)) = ⟨.allocatorNotFound, s, some p⟩ ∧
      reply q s (.realloc .self (some p) size) = ⟨.allocatorNotFound, s, some p⟩ := by
  have based := q.base_pos
  have nonNull : p ≠ 0 := by omega
  obtain ⟨⟨layout, memory, rfl⟩, dead⟩ := vacant
  rw [not_mem_heapOf_iff] at dead
  have code : deadCode q p = .allocatorNotFound := if_neg (by omega)
  have freed : reply q (layout.encode memory) (.free .self (some p)) =
      ⟨.allocatorNotFound, layout.encode memory, some p⟩ :=
    code ▸ (yields_dsFree_dead layout memory nonNull dead).value
  refine ⟨freed, ?_⟩
  rcases Nat.eq_zero_or_pos size with rfl | positive
  · exact (congrArg Traced.value (dsRealloc_zero layout memory p)).trans freed
  · exact code ▸ (yields_dsRealloc_dead layout memory nonNull positive small dead).value

/-- **Stale aliases stay rejected.** After a call that takes the block away from `p`, in every state
of a continuation that does not hand out `p` again, `ds_free` and `ds_realloc` reject `p` and change
nothing. -/
theorem stale_aliases_rejected {s : DynostaticBuffer} (reachable : Reachable q s) {p capacity : Nat}
    (live : LiveBlock q s p capacity) {op : Op} (ok : (reply q s op).code = .ok)
    (vacates : Vacates q s p op) (actions : List Action)
    (withholds : Obeys (next q) (Withholds q p) (reply q s op).buffer actions)
    {t : DynostaticBuffer} (reached : run (next q) (reply q s op).buffer actions = t) {size : Nat}
    (small : size ≤ q.maxAllocationSize) :
    reply q t (.free .self (some p)) = ⟨.allocatorNotFound, t, some p⟩ ∧
      reply q t (.realloc .self (some p) size) = ⟨.allocatorNotFound, t, some p⟩ := by
  obtain ⟨layout, memory, rfl⟩ := reachable.of_initialized live.1
  rw [liveBlock_encode_iff] at live
  have based := q.base_pos
  have nonempty := blockAt_pos live
  obtain ⟨above, below⟩ := blockAt_inside live
  have nonNull : p ≠ 0 := by omega
  have vacant : Vacant q p t := reached ▸
    run_invariant (fun _ _ withholds vacant => vacant.next nonNull withholds) actions _ withholds
      ((reply_outcome layout memory op).vacates nonNull ok vacates)
  exact vacant.rejected above (by omega) small

/-- The second block is freed, and the first one grows over it: its address is still rejected. -/
theorem stale_aliases_rejected_covered :
    (reply defaultPlacement
      (run (next defaultPlacement) (reply defaultPlacement twoLive (.free .self (some 4108))).buffer
        [.call (.realloc .self (some 4096) 100)])
      (.free .self (some 4108))).code = .allocatorNotFound := by
  have live : LiveBlock defaultPlacement twoLive 4108 12 := ⟨rfl, 1, by decide⟩
  have vacates : Vacates defaultPlacement twoLive 4108 (.free .self (some 4108)) := .inl (.free _)
  have withholds : Obeys (next defaultPlacement) (Withholds defaultPlacement 4108)
      (reply defaultPlacement twoLive (.free .self (some 4108))).buffer
      [.call (.realloc .self (some 4096) 100)] := by
    refine ⟨⟨nofun, ?_⟩, trivial⟩
    rintro op ⟨rfl⟩ - -
    decide
  exact congrArg Reply.code (stale_aliases_rejected twoLive_reachable live (by decide) vacates _
    withholds rfl (Nat.zero_le _)).1

end Dynostatic
