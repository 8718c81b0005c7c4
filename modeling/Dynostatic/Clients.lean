/-
**Pointers that are passed by address.**

A client keeps its blocks in variables that start out `NULL`, and touches them only by passing their
address to `ds_malloc`, `ds_calloc`, `ds_realloc` and `ds_free`. Whatever it calls, with whatever
sizes and outcomes, its variables in use and the live records stay in bijection (`leak_freedom`).

The invariant is `Holders.Tracks`, over the addresses of the instance's heap; `Outcome.tracks` is
the step.
-/

import Mathlib.Data.Fintype.Card
import Mathlib.SetTheory.Cardinal.Finite
import Dynostatic.Lib.Holders
import Dynostatic.Heap
import Dynostatic.Invariant

namespace Dynostatic

open Tracing Tracing.Traced Tiling Rounding Bytes Runs Heaps Holders

variable {q : Placement}

/-! ### The client -/

/-- A call on the client's variable `i`. -/
inductive ClientCall (ι : Type) where
  | malloc (i : ι) (size : Nat)
  | calloc (i : ι) (len sizeOfElem : Nat)
  | realloc (i : ι) (size : Nat)
  | free (i : ι)

/-- The variable whose address is passed. -/
def ClientCall.target {ι : Type} : ClientCall ι → ι
  | .malloc i _ => i
  | .calloc i _ _ => i
  | .realloc i _ => i
  | .free i => i

/-- The call, with the content of the variable. -/
def ClientCall.op {ι : Type} (content : Nat) : ClientCall ι → Op
  | .malloc _ size => .malloc .self (some content) size
  | .calloc _ len sizeOfElem => .calloc .self (some content) len sizeOfElem
  | .realloc _ size => .realloc .self (some content) size
  | .free _ => .free .self (some content)

/-- An instance, and the variables of its client. -/
structure Client (ι : Type) where
  buffer : DynostaticBuffer
  held : ι → Nat

/-- A call leaves the instance and the variable as its reply says. -/
def Client.next (q : Placement) {ι : Type} [DecidableEq ι] (client : Client ι)
    (request : ClientCall ι) : Client ι :=
  let content := client.held request.target
  let r := reply q client.buffer (request.op content)
  ⟨r.buffer, Function.update client.held request.target (r.cell.getD content)⟩

/-- When the instance is initialized, the variables are `NULL`. -/
def Client.fresh (q : Placement) (ι : Type) (first : DynostaticBuffer) : Client ι :=
  ⟨freshInstance q first, fun _ => 0⟩

section Calls

variable {ι : Type}

theorem ClientCall.cell_op (request : ClientCall ι) (content : Nat) :
    (request.op content).cell = some content := by
  cases request <;> rfl

theorem ClientCall.not_reports (request : ClientCall ι) (content : Nat) :
    ¬ (request.op content).Reports := by
  cases request <;> exact nofun

end Calls

/-! ### The invariant -/

section Tracks

variable {ι : Type}

/-- The variables hold the addresses of an initialized instance's heap. -/
def Held (q : Placement) (s : DynostaticBuffer) (held : ι → Nat) : Prop :=
  Encoded q s ∧ Tracks (· ∈ heapOf q s) 0 held

variable [DecidableEq ι]

/-- **One call keeps the variables and the live blocks in step.** -/
theorem Outcome.tracks {layout : Layout q.toConfig} {memory : Nat → UInt8} {op : Op} {r : Reply}
    (outcome : Outcome q layout memory op r) {held : ι → Nat}
    (tracks : Tracks (· ∈ heapOf q (layout.encode memory)) 0 held) {i : ι}
    (passed : op.cell = some (held i)) (quiet : ¬ op.Reports) :
    Tracks (· ∈ heapOf q r.buffer) 0 (Function.update held i (r.cell.getD (held i))) := by
  have based := q.base_pos
  cases outcome with
  | failed =>
    rw [passed]
    show Tracks _ 0 (Function.update held i (held i))
    rwa [Function.update_eq_self]
  | reported reports => exact absurd reports quiet
  | ended => cases passed
  | placed requests positive small fresh placed =>
    rw [requests.cell_eq, Option.some.injEq] at passed
    subst passed
    obtain ⟨unused, new, grows⟩ :=
      (step_placed memory positive requests.zeroed_le fresh placed).of_allocate
    refine tracks.take (tracks.eq_null unused) new ?_ grows
    show q.base + _ ≠ 0
    omega
  | released found releases =>
    rw [releases.cell_eq, Option.some.injEq] at passed
    obtain ⟨live, shrinks⟩ := (step_released memory found).of_free
    rw [passed] at shrinks
    exact tracks.drop (by omega) shrinks
  | @kept index _ _ found =>
    have same : q.base + start layout.blocks index = held i := Option.some.inj passed
    show Tracks _ 0 (Function.update held i (q.base + start layout.blocks index))
    rwa [same, Function.update_eq_self]
  | @grown front _ _ last positive small more room =>
    have same : q.base + extent front = held i := Option.some.inj passed
    have kept : ∀ a,
        a ∈ heapOf q ((layout.grow last (isCapacity_roundUp positive small) room).encode memory) ↔
          a ∈ heapOf q (layout.encode memory) :=
      (step_grown memory last rfl more).of_resize
    show Tracks _ 0 (Function.update held i (q.base + extent front))
    rw [same, Function.update_eq_self]
    exact tracks.congr kept
  | @moved index old _ found positive _ more _ _ placed =>
    have same : q.base + start layout.blocks index = held i := Option.some.inj passed
    obtain ⟨capacity, large, taken⟩ := placed.getElem?_eq
    have apart := placed.apart taken found
    have nonempty : 0 < old := (layout.capacity_of_getElem? found).positive
    obtain ⟨new, moves⟩ :=
      (step_moved memory found positive more placed).of_move (by omega)
    rw [same] at moves
    refine tracks.move (by omega) new ?_ moves
    show q.base + _ ≠ 0
    omega
  | written _ _ _ writes =>
    rw [writes.cell_eq] at passed
    cases passed

/-- **One call of the client.** -/
theorem Held.next {client : Client ι} (holds : Held q client.buffer client.held)
    (request : ClientCall ι) :
    Held q (client.next q request).buffer (client.next q request).held := by
  obtain ⟨⟨layout, memory, same⟩, tracks⟩ := holds
  rw [same] at tracks
  have outcome := reply_outcome layout memory (request.op (client.held request.target))
  have continues : Continues (.call (request.op (client.held request.target))) := by
    cases request <;> nofun
  rw [← same] at outcome
  exact ⟨outcome.encode continues,
    outcome.tracks tracks (request.cell_op _) (request.not_reports _)⟩

omit [DecidableEq ι] in
theorem held_fresh {first : DynostaticBuffer} (fresh : first.initMagic ≠ dsMagicNumber) :
    Held q (Client.fresh q ι first).buffer (Client.fresh q ι first).held := by
  refine ⟨⟨_, _, freshInstance_eq fresh⟩, Tracks.empty fun address live => ?_⟩
  rw [show (Client.fresh q ι first).buffer = freshInstance q first from rfl,
    heapOf_freshInstance fresh] at live
  exact Finmap.notMem_empty live

/-- **In every run the client's variables hold the live blocks.** -/
theorem held_run {first : DynostaticBuffer} (fresh : first.initMagic ≠ dsMagicNumber)
    (requests : List (ClientCall ι)) :
    Held q (run (Client.next q) (Client.fresh q ι first) requests).buffer
      (run (Client.next q) (Client.fresh q ι first) requests).held := by
  have step : ∀ (client : Client ι) (request : ClientCall ι), Held q client.buffer client.held →
      Held q (client.next q request).buffer (client.next q request).held :=
    fun _ request holds => holds.next request
  exact run_invariant_of_all step requests _ (held_fresh fresh)

end Tracks

/-! ### Records -/

/-- The indices of the live records. -/
abbrev LiveIndex (q : Placement) (s : DynostaticBuffer) : Type :=
  {index : Nat // index < q.maxAllocationCount ∧
    (s.allocators index).allocationStatus = .allocated}

/-- `used_allocators` counts them. -/
theorem RepInv.card_liveIndex {s : DynostaticBuffer} (invariant : RepInv q.toConfig s) :
    Nat.card (LiveIndex q s) = s.usedAllocators := by
  rw [invariant.used, List.countP_eq_length_filter]
  refine Nat.subtype_card ((Finset.range q.maxAllocationCount).filter
    fun index => (s.allocators index).allocationStatus = .allocated) fun index => ?_
  simp only [Finset.mem_filter, Finset.mem_range]

section Records

variable (layout : Layout q.toConfig) (memory : Nat → UInt8)

/-- **The live records and the addresses of the heap are in bijection.** -/
noncomputable def Layout.liveEquiv :
    LiveIndex q (layout.encode memory) ≃ {address // address ∈ heapOf q (layout.encode memory)} :=
  Equiv.ofBijective (fun index =>
      ⟨q.base + ((layout.encode memory).allocators index.1).head,
        (mem_heapOf_iff_liveBlock layout memory).mpr
          ⟨_, rfl, index.1, index.2.1, index.2.2, rfl, rfl⟩⟩) <| by
    constructor
    · rintro ⟨first, inside, live⟩ ⟨second, inside', live'⟩ same
      obtain ⟨size, found⟩ := records_allocated_iff.mp live
      obtain ⟨size', found'⟩ := records_allocated_iff.mp live'
      have heads : (records layout.blocks first).head = (records layout.blocks second).head :=
        Nat.add_left_cancel (congrArg Subtype.val same)
      rw [records_live found, records_live found'] at heads
      exact Subtype.ext (start_injective found found' (layout.capacity_of_getElem? found).positive
        (layout.capacity_of_getElem? found').positive heads)
    · rintro ⟨address, live⟩
      obtain ⟨capacity, -, index, inside, status, -, rfl⟩ :=
        (mem_heapOf_iff_liveBlock layout memory).mp live
      exact ⟨⟨index, inside, status⟩, rfl⟩

end Records

/-- **Leak freedom.** After every sequence of calls on the variables, the variables that are not
`NULL` are in bijection with the live records, each holds the address of its block, and the number
of free allocators is what the variables leave. -/
theorem leak_freedom (q : Placement) {ι : Type} [Fintype ι] [DecidableEq ι]
    {first : DynostaticBuffer} (fresh : first.initMagic ≠ dsMagicNumber)
    (requests : List (ClientCall ι)) {client : Client ι}
    (reached : run (Client.next q) (Client.fresh q ι first) requests = client) :
    (∃ block : {i // client.held i ≠ 0} ≃ LiveIndex q client.buffer,
      ∀ i, client.held i.1 = q.base + (client.buffer.allocators (block i).1).head) ∧
    ∀ out, reply q client.buffer (.getFreeAllocatorCnt .self (some out)) =
      ⟨.ok, client.buffer,
        some (q.maxAllocationCount - (Finset.univ.filter fun i => client.held i ≠ 0).card)⟩ := by
  obtain ⟨s, held⟩ := client
  have holds : Held q (Client.mk s held).buffer (Client.mk s held).held :=
    reached ▸ held_run fresh requests
  obtain ⟨⟨layout, memory, rfl⟩, tracks⟩ : Held q s held := holds
  let block : {i // held i ≠ 0} ≃ LiveIndex q (layout.encode memory) :=
    tracks.equiv.trans (layout.liveEquiv memory).symm
  refine ⟨⟨block, fun i => ?_⟩, fun out => ?_⟩
  · have same : layout.liveEquiv memory (block i) = tracks.equiv i :=
      (layout.liveEquiv memory).apply_symm_apply _
    calc held i.1
        = (tracks.equiv i).1 := (tracks.equiv_apply i).symm
      _ = (layout.liveEquiv memory (block i)).1 := congrArg Subtype.val same.symm
      _ = q.base + ((layout.encode memory).allocators (block i).1).head := rfl
  · have counted : (Finset.univ.filter fun i => held i ≠ 0).card = liveCount layout.blocks :=
      calc (Finset.univ.filter fun i => held i ≠ 0).card
          = Nat.card {i // held i ≠ 0} :=
            (Nat.subtype_card _ fun i => Finset.mem_filter_univ i).symm
        _ = Nat.card (LiveIndex q (layout.encode memory)) := Nat.card_congr block
        _ = liveCount layout.blocks := (layout.repInv memory).card_liveIndex
    rw [counted]
    exact (yields_dsGetFreeAllocatorCnt layout memory out).value

/-- Two variables: a second allocation through the first is refused, its block is moved past the
second one's, and the second one's is freed. -/
def twoVariables : List (ClientCall (Fin 2)) :=
  [.malloc 0 10, .malloc 0 5, .calloc 1 2 8, .realloc 0 40, .free 1]

theorem leak_freedom_twoVariables :
    (reply defaultPlacement
      (run (Client.next defaultPlacement) (Client.fresh defaultPlacement (Fin 2) zeroBuffer)
        twoVariables).buffer (.getFreeAllocatorCnt .self (some 0))).cell = some 9 := by
  rw [(leak_freedom defaultPlacement zeroBuffer_fresh twoVariables rfl).2 0]
  decide

end Dynostatic
