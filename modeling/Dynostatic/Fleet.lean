/-
**Several instances in one address space.**

A `World` is one memory with several instances in it, apart from each other: arenas and books
(`Representation`). A call on one of them reads its object from the memory, takes the sources of
safe copies from anywhere, other arenas included, and writes back what its events say. What it
stores through the pointers it is given is no part of the memory: it is in the reply. A client may
also `poke` any byte; one that is part of an instance's books damages it.

* `fleet_independent` — in any interleaving, every call on an instance shows what it shows when that
  instance runs alone, whatever the other instances do, and the pokes but for those into the books;
* `fleet_isolated` — live blocks of different instances lie apart, an address in one instance is
  foreign to every other, and a call writes in its own object only.
-/

import Dynostatic.Lib.Interleave
import Dynostatic.Machine
import Dynostatic.Representation

namespace Dynostatic

open Tracing Tracing.Traced Tiling Rounding Bytes Runs

/-! ### One memory -/

/-- **Instances that are apart from each other.** Each may come from a build of its own. -/
structure Fleet (ι : Type) where
  place : ι → Placement
  kept : ∀ i, Representation (place i)
  apart : ∀ i j, i ≠ j → ∀ address, (kept i).Object address → ¬ (kept j).Object address

/-- A memory. The instances are objects in it. -/
structure World where
  bytes : Nat → UInt8

/-- A safe copy reads the memory as it is. -/
def Op.reading (bytes : Nat → UInt8) : Op → Op
  | .safeMemoryCopy p _ dst src count => .safeMemoryCopy p bytes dst src count
  | op => op

/-- What happens in a world: a call on an instance, or a byte written by a client. -/
inductive Move (ι : Type) where
  | call (i : ι) (op : Op)
  | poke (address : Nat) (byte : UInt8)

/-- **The move spares the books**: no client writes into a member of an instance. -/
def Fleet.Spares {ι : Type} (fleet : Fleet ι) : Move ι → Prop
  | .call _ _ => True
  | .poke address _ => ∀ i, ¬ (fleet.kept i).members.Owns address

namespace World

variable {ι : Type} (fleet : Fleet ι) (world : World)

/-- An instance, as it lies in the memory. -/
def load (i : ι) : DynostaticBuffer := (fleet.kept i).read world.bytes

/-- The call on an instance. -/
def call (i : ι) (op : Op) : Traced Event Reply :=
  Dynostatic.call (fleet.place i) (world.load fleet i) (op.reading world.bytes)

/-- The world after a move. -/
def next : Move ι → World
  | .call i op =>
    ⟨(fleet.kept i).write world.bytes (world.call fleet i op)⟩
  | .poke address byte => ⟨Function.update world.bytes address byte⟩

/-- What a move shows, with the instance it is about. -/
def shows : Move ι → Option (ι × Shown)
  | .call i op => some (i, (world.call fleet i op).value.shown (fleet.place i))
  | .poke _ _ => none

/-- The inventories of a world. -/
def inventories (i : ι) : Inventory := inventory (fleet.place i) (world.load fleet i)

/-- Every instance is well formed. -/
def Formed : Prop := ∀ i, WellFormed (fleet.place i) (world.load fleet i)

end World

/-! ### Every instance follows its machine -/

/-- The bytes of the arena have no part in the form of an instance. -/
theorem WellFormed.storeBytes {q : Placement} {s : DynostaticBuffer} (formed : WellFormed q s)
    (memory : Nat → UInt8) : WellFormed q { s with memory } := by
  rcases formed with raw | ⟨layout, before, rfl⟩
  · exact .inl raw
  · exact layout.wellFormed memory

section Steps

variable {ι : Type} {fleet : Fleet ι} {world : World}

/-- Every call in a well formed world is free of error. -/
theorem World.Formed.safe (formed : world.Formed fleet) (i : ι) (op : Op) :
    ∀ event ∈ (world.call fleet i op).events, Event.Safe (fleet.place i) event :=
  (formed i).every_call (op.reading world.bytes)

/-- **A call writes in its own object only.** -/
theorem World.bytes_call_of_not_object (formed : world.Formed fleet) {i : ι} (op : Op)
    {address : Nat} (outside : ¬ (fleet.kept i).Object address) :
    (world.next fleet (.call i op)).bytes address = world.bytes address :=
  Representation.write_outside (formed.safe i op) outside

/-- A call that fails and leaves its instance as it was leaves the whole memory as it was. -/
theorem World.bytes_call_of_refused (formed : world.Formed fleet) {i : ι} {op : Op}
    (refused : (world.call fleet i op).value.code ≠ .ok)
    (same : (world.call fleet i op).value.buffer = world.load fleet i) :
    (world.next fleet (.call i op)).bytes = world.bytes :=
  Representation.write_of_refused (formed.safe i op) refused same

/-- The instance of a call, as it is read again. -/
theorem World.load_call_self (formed : world.Formed fleet) (i : ι) (op : Op) :
    (world.next fleet (.call i op)).load fleet i =
      { (world.call fleet i op).value.buffer with
        memory := fun k =>
          (world.next fleet (.call i op)).bytes ((fleet.place i).base + k) } :=
  Representation.read_write (formed.safe i op)
    ((formed i).reply_representable (op.reading world.bytes))

/-- **Another instance keeps its books.** -/
theorem World.load_call_of_ne (formed : world.Formed fleet) {i j : ι} (other : i ≠ j) (op : Op) :
    (world.next fleet (.call j op)).load fleet i =
      { world.load fleet i with
        memory := fun k =>
          (world.next fleet (.call j op)).bytes ((fleet.place i).base + k) } :=
  Representation.read_congr fun address owned =>
    World.bytes_call_of_not_object formed op
      (fleet.apart i j other address ((fleet.kept i).members_inside address owned))

/-- A poke that spares the books changes bytes of the arenas only. -/
theorem World.load_poke {i : ι} {address : Nat} {byte : UInt8}
    (spared : fleet.Spares (.poke address byte)) :
    (world.next fleet (.poke address byte)).load fleet i =
      { world.load fleet i with
        memory := fun k =>
          (world.next fleet (.poke address byte)).bytes ((fleet.place i).base + k) } := by
  refine Representation.read_congr fun k owned => Function.update_of_ne ?_ _ _
  rintro rfl
  exact spared i owned

theorem World.Formed.next (formed : world.Formed fleet) {move : Move ι}
    (spared : fleet.Spares move) : (world.next fleet move).Formed fleet := by
  intro i
  cases move with
  | call j op =>
    by_cases same : i = j
    · subst same
      rw [World.load_call_self formed]
      exact ((formed i).next (.call (op.reading world.bytes))).storeBytes _
    · rw [World.load_call_of_ne formed same]
      exact (formed i).storeBytes _
  | poke address byte =>
    rw [World.load_poke spared]
    exact (formed i).storeBytes _

/-- The bytes a safe copy reads are nothing to the machine. -/
theorem attend_reading (q : Placement) (state : Inventory) (op : Op) (bytes : Nat → UInt8) :
    attend q state (op.reading bytes) = attend q state op := by
  cases op with
  | safeMemoryCopy p => cases p <;> rfl
  | _ => rfl

theorem World.call_shown (formed : world.Formed fleet) (i : ι) (op : Op) :
    (world.call fleet i op).value.shown (fleet.place i) =
      attend (fleet.place i) (world.inventories fleet i) op :=
  (Dynostatic.reply_shown (formed i) (op.reading world.bytes)).trans (attend_reading _ _ _ _)

end Steps

/-- The machines of the instances side by side. A poke is nothing to them. -/
def machinesNext {ι : Type} [DecidableEq ι] (fleet : Fleet ι) (states : ι → Inventory) :
    Move ι → ι → Inventory
  | .call i op => weave (fun i => attendNext (fleet.place i)) states (i, op)
  | .poke _ _ => states

def machinesShow {ι : Type} (fleet : Fleet ι) (states : ι → Inventory) :
    Move ι → Option (ι × Shown)
  | .call i op => some (i, attend (fleet.place i) (states i) op)
  | .poke _ _ => none

/-- The call of a move, with its instance. -/
def Move.tagged {ι : Type} : Move ι → Option (ι × Op)
  | .call i op => some (i, op)
  | .poke _ _ => none

section Runs

variable {ι : Type} [DecidableEq ι] {fleet : Fleet ι} {world : World}

theorem World.inventories_next (formed : world.Formed fleet) {move : Move ι}
    (spared : fleet.Spares move) :
    (world.next fleet move).inventories fleet =
      machinesNext fleet (world.inventories fleet) move := by
  funext i
  cases move with
  | call j op =>
    by_cases same : j = i
    · subst same
      show inventory (fleet.place j) ((world.next fleet (.call j op)).load fleet j) =
        weave (fun i => attendNext (fleet.place i)) (world.inventories fleet) (j, op) j
      rw [weave_self, World.load_call_self formed, inventory_storeByte]
      exact congrArg Shown.after (World.call_shown formed j op)
    · show inventory (fleet.place i) ((world.next fleet (.call j op)).load fleet i) =
        weave (fun i => attendNext (fleet.place i)) (world.inventories fleet) (j, op) i
      rw [weave_of_ne _ same, World.load_call_of_ne formed (Ne.symm same), inventory_storeByte]
      rfl
  | poke address byte =>
    show inventory (fleet.place i) ((world.next fleet (.poke address byte)).load fleet i) = _
    rw [World.load_poke spared]
    exact inventory_storeByte (world.load fleet i) _

omit [DecidableEq ι] in
theorem World.shows_eq (formed : world.Formed fleet) (move : Move ι) :
    world.shows fleet move = machinesShow fleet (world.inventories fleet) move := by
  cases move with
  | call i op => exact congrArg (fun shown => some (i, shown)) (World.call_shown formed i op)
  | poke address byte => rfl

theorem machinesNext_tagged (states : ι → Inventory) (move : Move ι) :
    machinesNext fleet states move =
      move.tagged.elim states (weave (fun i => attendNext (fleet.place i)) states) := by
  cases move <;> rfl

omit [DecidableEq ι] in
theorem machinesShow_tagged (states : ι → Inventory) (move : Move ι) :
    machinesShow fleet states move =
      move.tagged.map fun call => (call.1, attend (fleet.place call.1) (states call.1) call.2) := by
  cases move <;> rfl

/-- **What an instance shows in a run is what its machine shows on its own calls**, and it ends well
formed with the inventory of its machine. -/
theorem World.run_follows_machines (formed : world.Formed fleet) {moves : List (Move ι)}
    (spared : ∀ move ∈ moves, fleet.Spares move) (i : ι) :
    project i (trace (World.next fleet) (World.shows fleet) world moves).reduceOption =
        trace (attendNext (fleet.place i)) (attend (fleet.place i)) (world.inventories fleet i)
          (project i (moves.filterMap Move.tagged)) ∧
      (run (World.next fleet) world moves).Formed fleet ∧
      (run (World.next fleet) world moves).inventories fleet i =
        run (attendNext (fleet.place i)) (world.inventories fleet i)
          (project i (moves.filterMap Move.tagged)) := by
  have step : ∀ (world : World) (states : ι → Inventory) (move move' : Move ι),
      world.Formed fleet ∧ world.inventories fleet = states →
      fleet.Spares move ∧ move = move' →
      world.shows fleet move = machinesShow fleet states move' ∧
        (world.next fleet move).Formed fleet ∧
          (world.next fleet move).inventories fleet = machinesNext fleet states move' := by
    rintro world states move move' ⟨formed, rfl⟩ ⟨spares, rfl⟩
    exact ⟨World.shows_eq formed move, formed.next spares, World.inventories_next formed spares⟩
  have moved : List.Forall₂ (fun move move' => fleet.Spares move ∧ move = move') moves moves :=
    List.forall₂_same.mpr fun move member => ⟨spared move member, rfl⟩
  obtain ⟨shown, formed', last⟩ := trace_related step moved ⟨formed, rfl⟩
  rw [List.forall₂_eq_eq_eq] at shown
  refine ⟨?_, formed', ?_⟩
  · rw [shown, reduceOption_trace machinesNext_tagged machinesShow_tagged]
    exact project_trace_weave (fun i => attend (fleet.place i)) i _ _
  · rw [last, run_filterMap machinesNext_tagged, run_weave]

/-- The calls of one instance, when it runs alone. -/
theorem run_follows_attend {q : Placement} {s : DynostaticBuffer} (formed : WellFormed q s)
    (ops : List Op) :
    trace (fun s op => next q s (.call op)) (fun s op => (reply q s op).shown q) s ops =
        trace (attendNext q) (attend q) (inventory q s) ops ∧
      inventory q (run (fun s op => next q s (.call op)) s ops) =
        run (attendNext q) (inventory q s) ops := by
  have labels : ∀ (s : DynostaticBuffer) (op : Op), WellFormed q s →
      (reply q s op).shown q = attend q (inventory q s) op :=
    fun s op formed => Dynostatic.reply_shown formed op
  have steps : ∀ (s : DynostaticBuffer) (op : Op), WellFormed q s →
      inventory q (next q s (.call op)) = attendNext q (inventory q s) op :=
    fun s op formed => inventory_next formed (.call op)
  exact run_lockstep labels steps (fun _ op formed => formed.next (.call op)) ops formed

end Runs

/-- **Instances are independent.** For every fleet and every memory in which no instance is
initialized, take any interleaving of calls on the instances and of pokes of the clients into
anything but the books of an instance. Each call on an instance shows what it shows when that
instance takes its own calls alone, and the instance ends with the same inventory. -/
theorem fleet_independent {ι : Type} [DecidableEq ι] (fleet : Fleet ι) {world : World}
    (fresh : ∀ i, (world.load fleet i).initMagic ≠ dsMagicNumber) {moves : List (Move ι)}
    (spared : ∀ move ∈ moves, fleet.Spares move) (i : ι) :
    project i (trace (World.next fleet) (World.shows fleet) world moves).reduceOption =
        trace (fun s op => next (fleet.place i) s (.call op))
          (fun s op => (reply (fleet.place i) s op).shown (fleet.place i)) (world.load fleet i)
          (project i (moves.filterMap Move.tagged)) ∧
      inventory (fleet.place i) ((run (World.next fleet) world moves).load fleet i) =
        inventory (fleet.place i) (run (fun s op => next (fleet.place i) s (.call op))
          (world.load fleet i) (project i (moves.filterMap Move.tagged))) := by
  have formed : world.Formed fleet := fun i => .inl (fresh i)
  obtain ⟨shown, -, last⟩ := World.run_follows_machines formed spared i
  obtain ⟨shown', last'⟩ := run_follows_attend (formed i) (project i (moves.filterMap Move.tagged))
  exact ⟨shown.trans shown'.symm, last.trans last'.symm⟩

/-- Two instances of the default build, with their arenas at `4120` and `8216`. -/
def pairFleet : Fleet Bool where
  place second := placedAt (if second then 8192 else 4096) (by cases second <;> decide)
    (by cases second <;> decide) (by cases second <;> decide)
  kept second := representedAt (if second then 8192 else 4096) _ _ _
  apart := by
    intro i j other address object object'
    have inside := object_representedAt object
    have inside' := object_representedAt object'
    cases i <;> cases j <;> first | exact absurd rfl other | (simp at inside inside'; omega)

/-- A memory of zero bytes. -/
def zeroWorld : World := ⟨fun _ => 0⟩

theorem zeroWorld_fresh : ∀ i, (zeroWorld.load pairFleet i).initMagic ≠ dsMagicNumber := by
  intro i
  cases i <;> decide

/-- The calls on the two instances alternate, and a byte of the second arena is poked. -/
def alternating : List (Move Bool) :=
  [.call false (.initializeAllocation .self), .call true (.initializeAllocation .self),
    .call false (.malloc .self (some 0) 10), .call true (.malloc .self (some 0) 200),
    .poke 8216 7, .call false (.malloc .self (some 0) 20),
    .call true (.free .self (some 8216)), .call false (.free .self (some 4120))]

theorem alternating_spares : ∀ move ∈ alternating, pairFleet.Spares move := by
  simp only [alternating, List.forall_mem_cons, Fleet.Spares, true_and, List.not_mem_nil,
    false_implies, implies_true, and_true]
  decide

theorem fleet_independent_alternating :
    inventory (pairFleet.place false)
        ((run (World.next pairFleet) zeroWorld alternating).load pairFleet false) =
      some [⟨12, false⟩, ⟨20, true⟩] :=
  (fleet_independent pairFleet zeroWorld_fresh alternating_spares false).2.trans (by decide)

/-- A poke into the books is another matter: with a byte of `init_magic` the instance is lost. -/
example :
    ((run (World.next pairFleet) zeroWorld
      [.call false (.initializeAllocation .self), .poke 4096 0]).call pairFleet false
        (.malloc .self (some 0) 8)).value.code = .noInit := by
  decide +kernel

/-! ### Whose an address is -/

/-- The call is about the block at an address, or writes there. -/
inductive Op.At (q : Placement) : Op → Nat → Prop
  | free (address : Nat) : Op.At q (.free .self (some address)) address
  | realloc (address size : Nat) (small : size ≤ q.maxAllocationSize) :
      Op.At q (.realloc .self (some address) size) address
  | copy (outside : Nat → UInt8) (address src count : Nat) (nonNull : src ≠ 0)
      (positive : 0 < count) : Op.At q (.safeMemoryCopy .self outside address src count) address
  | set (address : Nat) (value : Int) (count : Nat) (positive : 0 < count) :
      Op.At q (.safeMemorySet .self address value count) address

section Foreign

variable {q : Placement} {layout : Layout q.toConfig} {memory : Nat → UInt8} {op : Op}
  {address : Nat}

/-- **A foreign address is refused** by every call that takes one. -/
theorem reply_foreign (about : op.At q address) (nonNull : address ≠ 0)
    (foreign : ¬ q.Contains address) :
    reply q (layout.encode memory) op = ⟨.memoryOutOfDs, layout.encode memory, op.cell⟩ := by
  have code : deadCode q address = .memoryOutOfDs := by
    unfold Placement.Contains at foreign
    exact if_pos (by omega)
  have dead : blockAt q layout.blocks address = none := by
    rw [Option.eq_none_iff_forall_ne_some]
    intro size live
    have inside := blockAt_inside live
    have positive := blockAt_pos live
    exact foreign ⟨inside.1, by omega⟩
  cases about with
  | free =>
    rw [← code]
    exact (yields_dsFree_dead layout memory nonNull dead).value
  | realloc _ size small =>
    rw [← code]
    rcases Nat.eq_zero_or_pos size with rfl | positive
    · show (dsRealloc q (layout.encode memory) .self (some address) 0).value = _
      rw [dsRealloc_zero]
      exact (yields_dsFree_dead layout memory nonNull dead).value
    · exact (yields_dsRealloc_dead layout memory nonNull positive small dead).value
  | copy outside _ src count nonNull' positive =>
    exact refused_outside (checked_copy layout memory nonNull positive outside nonNull') foreign
  | set _ value count positive =>
    exact refused_outside (checked_set layout memory nonNull positive value) foreign

theorem LiveBlock.contains {s : DynostaticBuffer} (formed : WellFormed q s) {p capacity : Nat}
    (live : LiveBlock q s p capacity) (above : p ≤ address) (below : address < p + capacity) :
    q.Contains address := by
  obtain ⟨layout, memory, rfl⟩ := formed.encoded live.1
  have inside := blockAt_inside (liveBlock_encode_iff.mp live)
  exact ⟨by omega, by omega⟩

theorem LiveBlock.capacity_pos {s : DynostaticBuffer} (formed : WellFormed q s) {p capacity : Nat}
    (live : LiveBlock q s p capacity) : 0 < capacity := by
  obtain ⟨layout, memory, rfl⟩ := formed.encoded live.1
  exact blockAt_pos (liveBlock_encode_iff.mp live)

/-- The inventory says whether the instance is initialized, and where its live blocks are. -/
theorem liveBlock_of_inventory {s : DynostaticBuffer} (formed : WellFormed q s)
    {blocks : List Block} (same : inventory q s = some blocks) :
    s.initMagic = dsMagicNumber ∧
      ∀ p capacity, LiveBlock q s p capacity ↔ blockAt q blocks p = some capacity := by
  rcases formed with raw | ⟨layout, memory, rfl⟩
  · rw [inventory_uninitialized raw] at same
    cases same
  · rw [inventory_encode] at same
    obtain rfl := Option.some.inj same
    exact ⟨rfl, fun _ _ => liveBlock_encode_iff⟩

theorem Op.At.reading {bytes : Nat → UInt8} (about : op.At q address) :
    (op.reading bytes).At q address := by
  cases about with
  | free => exact .free _
  | realloc _ size small => exact .realloc _ size small
  | copy _ _ src count nonNull positive => exact .copy _ _ src count nonNull positive
  | set _ value count positive => exact .set _ value count positive

end Foreign

/-- An address in the arena of one instance lies in no other's. -/
theorem Fleet.not_contains {ι : Type} (fleet : Fleet ι) {i j : ι} (other : i ≠ j) {address : Nat}
    (inside : (fleet.place i).Contains address) : ¬ (fleet.place j).Contains address :=
  fun inside' => fleet.apart i j other address ((fleet.kept i).arena_inside address inside)
    ((fleet.kept j).arena_inside address inside')

section Isolation

variable {ι : Type} {fleet : Fleet ι} {world : World} {i j : ι}

/-- Live blocks of different instances lie apart: a byte of both would lie in two arenas. -/
theorem World.liveBlocks_apart (formed : world.Formed fleet) (other : i ≠ j)
    {p capacity p' capacity' : Nat}
    (live : LiveBlock (fleet.place i) (world.load fleet i) p capacity)
    (live' : LiveBlock (fleet.place j) (world.load fleet j) p' capacity') :
    p + capacity ≤ p' ∨ p' + capacity' ≤ p := by
  by_contra overlap
  have positive := live.capacity_pos (formed i)
  have positive' := live'.capacity_pos (formed j)
  -- the later of the two starts lies in both
  have inside : (fleet.place i).Contains (max p p') :=
    live.contains (formed i) (by omega) (by omega)
  exact fleet.not_contains other inside (live'.contains (formed j) (by omega) (by omega))

/-- **A foreign address is refused, and the whole memory stays as it was.** -/
theorem World.call_foreign (formed : world.Formed fleet) {op : Op} {address : Nat}
    (about : op.At (fleet.place j) address) (nonNull : address ≠ 0)
    (foreign : ¬ (fleet.place j).Contains address)
    (initialized : (world.load fleet j).initMagic = dsMagicNumber) :
    (world.call fleet j op).value = ⟨.memoryOutOfDs, world.load fleet j, op.cell⟩ ∧
      (world.next fleet (.call j op)).bytes = world.bytes := by
  have cell : (op.reading world.bytes).cell = op.cell := by cases op <;> rfl
  obtain ⟨layout, memory, same⟩ := (formed j).encoded initialized
  have refused : (world.call fleet j op).value =
      ⟨.memoryOutOfDs, world.load fleet j, op.cell⟩ := by
    show reply _ (world.load fleet j) (op.reading world.bytes) = _
    rw [same, reply_foreign about.reading nonNull foreign, cell]
  have failed : (world.call fleet j op).value.code ≠ .ok := by
    rw [refused]
    show DsErrCode.memoryOutOfDs ≠ .ok
    decide
  exact ⟨refused, World.bytes_call_of_refused formed failed (congrArg Reply.buffer refused)⟩

end Isolation

/-- **Instances are isolated.** In every world that a run of a fleet leads to, while the clients
spare the books, take a live block of one instance and any other instance of the fleet. Its live
blocks lie apart from the block. If it is initialized, every call on it that passes an address in
the block, to free, to resize or to write there, returns `ERROR_DS_MEMORY_OUT_OF_DS` and changes no
byte of the memory. And whatever the call, it changes no byte outside its own object, and so none of
the block. -/
theorem fleet_isolated {ι : Type} [DecidableEq ι] (fleet : Fleet ι) {world : World}
    (fresh : ∀ i, (world.load fleet i).initMagic ≠ dsMagicNumber) {moves : List (Move ι)}
    (spared : ∀ move ∈ moves, fleet.Spares move) {i j : ι} (other : i ≠ j) {p capacity : Nat}
    (live : LiveBlock (fleet.place i) ((run (World.next fleet) world moves).load fleet i) p
      capacity) :
    (∀ p' capacity',
      LiveBlock (fleet.place j) ((run (World.next fleet) world moves).load fleet j) p' capacity' →
      p + capacity ≤ p' ∨ p' + capacity' ≤ p) ∧
    (∀ op address, op.At (fleet.place j) address → p ≤ address → address < p + capacity →
      ((run (World.next fleet) world moves).load fleet j).initMagic = dsMagicNumber →
      ((run (World.next fleet) world moves).call fleet j op).value =
          ⟨.memoryOutOfDs, (run (World.next fleet) world moves).load fleet j, op.cell⟩ ∧
        ((run (World.next fleet) world moves).next fleet (.call j op)).bytes =
          (run (World.next fleet) world moves).bytes) ∧
    (∀ op address, ¬ (fleet.kept j).Object address →
      ((run (World.next fleet) world moves).next fleet (.call j op)).bytes address =
        (run (World.next fleet) world moves).bytes address) ∧
    ∀ address, p ≤ address → address < p + capacity → ¬ (fleet.kept j).Object address := by
  have started : world.Formed fleet := fun i => .inl (fresh i)
  obtain ⟨-, formed, -⟩ := World.run_follows_machines started spared i
  generalize run (World.next fleet) world moves = last at live formed
  have contained : ∀ address, p ≤ address → address < p + capacity →
      (fleet.place i).Contains address :=
    fun address above below => live.contains (formed i) above below
  refine ⟨?_, ?_, ?_, ?_⟩
  · intro p' capacity' live'
    exact World.liveBlocks_apart formed other live live'
  · intro op address about above below initialized
    have nonNull : address ≠ 0 := by
      have := live.pos
      omega
    have foreign := fleet.not_contains other (contained address above below)
    exact World.call_foreign formed about nonNull foreign initialized
  · intro op address outside
    exact World.bytes_call_of_not_object formed op outside
  · intro address above below
    exact fleet.apart i j other address
      ((fleet.kept i).arena_inside address (contained address above below))

theorem fleet_isolated_alternating :
    ((run (World.next pairFleet) zeroWorld alternating).call pairFleet true
        (.free .self (some 4132))).value.code = .memoryOutOfDs ∧
      ((run (World.next pairFleet) zeroWorld alternating).next pairFleet
        (.call true (.free .self (some 4132)))).bytes =
          (run (World.next pairFleet) zeroWorld alternating).bytes := by
  have started : zeroWorld.Formed pairFleet := fun i => .inl (zeroWorld_fresh i)
  obtain ⟨-, formed, first⟩ := World.run_follows_machines started alternating_spares false
  obtain ⟨-, -, second⟩ := World.run_follows_machines started alternating_spares true
  have blocks : run (attendNext (pairFleet.place false)) (zeroWorld.inventories pairFleet false)
      (project false (alternating.filterMap Move.tagged)) = some [⟨12, false⟩, ⟨20, true⟩] := by
    decide
  have blocks' : run (attendNext (pairFleet.place true)) (zeroWorld.inventories pairFleet true)
      (project true (alternating.filterMap Move.tagged)) = some [] := by decide
  obtain ⟨-, live⟩ := liveBlock_of_inventory (formed false) (first.trans blocks)
  obtain ⟨initialized, -⟩ := liveBlock_of_inventory (formed true) (second.trans blocks')
  obtain ⟨-, refused, -⟩ := fleet_isolated pairFleet zeroWorld_fresh alternating_spares
    Bool.false_ne_true ((live 4132 20).mpr (by decide))
  obtain ⟨foreign, same⟩ :=
    refused (.free .self (some 4132)) 4132 (.free 4132) (by decide) (by decide) initialized
  exact ⟨congrArg Reply.code foreign, same⟩

end Dynostatic
