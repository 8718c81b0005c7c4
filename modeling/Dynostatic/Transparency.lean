/-
**`DS_ZERO_ON_FREE` is transparent.**

The same client runs against two builds that differ in `DS_ZERO_ON_FREE` only. The two instances
keep the same books (`reply_books`), so they hand out the same blocks and answer the same; and their
heaps agree on the defined bytes, since every action is a step of both heaps with one label
(`Step.agrees`). This needs a client that writes to its own blocks and never copies from the arena
with `ds_safe_memory_copy`, where it could pick up an undefined byte (`Careful`).
-/

import Dynostatic.Books
import Dynostatic.Heap
import Dynostatic.Lib.Defined

namespace Dynostatic

open Tracing Tracing.Traced Tiling Rounding Bytes Runs Heaps

/-! ### What the two runs are compared on -/

section Compared

variable (q : Placement) (s : DynostaticBuffer)

/-- The code a call returns, and what it leaves in the caller's variable. -/
def answer : Action → Option (DsErrCode × Option Nat)
  | .call op => some ((reply q s op).code, (reply q s op).cell)
  | .store _ _ => none

/-- What a step shows: its answer, and the bookkeeping it leaves. -/
def observe (action : Action) : Option (DsErrCode × Option Nat) × DynostaticBuffer :=
  (answer q s action, (next q s action).books)

/-- The source of a safe copy lies outside the arena. -/
def SourceOutside (action : Action) : Prop :=
  ∀ pAllocHolder outside dst src count,
    action = .call (.safeMemoryCopy pAllocHolder outside dst src count) →
      ∀ i < count, ¬ (q.base ≤ src + i ∧ src + i < q.base + q.bufferMemorySize)

/-- A client that writes to its own blocks, and copies from elsewhere. -/
def Careful (action : Action) : Prop := Confined q s action ∧ SourceOutside q action

/-- **The defined bytes after a run**: those of the live blocks that were written, or zeroed by
`ds_calloc`, since the block was delivered, also where a `ds_realloc` carried them to another
block. -/
def definedAfter : DynostaticBuffer → (Nat → Nat → Prop) → List Action → Nat → Nat → Prop
  | _, defined, [] => defined
  | s, defined, action :: actions =>
      definedAfter (next q s action) ((action.label q s).define (heapOf q s) defined) actions

end Compared

variable {q : Placement} {zero zero' : Bool} {s s' : DynostaticBuffer}

/-! ### One step -/

theorem liveBlock_of_books (same : s.books = s'.books) {p capacity : Nat} :
    LiveBlock (q.setZeroOnFree zero) s p capacity ↔
      LiveBlock (q.setZeroOnFree zero') s' p capacity := by
  obtain ⟨magic, -, -, -, table⟩ := DynostaticBuffer.mk.inj same
  unfold LiveBlock
  rw [magic, table]
  rfl

theorem owned_of_books (same : s.books = s'.books) {offset : Nat} :
    Owned (q.setZeroOnFree zero) s offset ↔ Owned (q.setZeroOnFree zero') s' offset :=
  exists₂_congr fun _ _ => and_congr_left fun _ => liveBlock_of_books same

/-- **Two instances with the same books answer the same**, and keep the same books. -/
theorem reply_of_books (same : s.books = s'.books) (op : Op) :
    (reply (q.setZeroOnFree zero) s op).books = (reply (q.setZeroOnFree zero') s' op).books := by
  have forget : (reply (q.setZeroOnFree false) s.books op).books =
      (reply (q.setZeroOnFree zero) s op).books :=
    reply_books (q := q.setZeroOnFree zero) false op
  have forget' : (reply (q.setZeroOnFree false) s'.books op).books =
      (reply (q.setZeroOnFree zero') s' op).books :=
    reply_books (q := q.setZeroOnFree zero') false op
  rw [← forget, ← forget', same]

theorem observe_of_books (same : s.books = s'.books) (action : Action) :
    observe (q.setZeroOnFree zero) s action = observe (q.setZeroOnFree zero') s' action := by
  rcases action with op | ⟨offset, byte⟩
  · obtain ⟨code, buffer, cell⟩ := Reply.mk.inj (reply_of_books same op)
    show (some _, _) = (some _, _)
    rw [code, cell]
    exact congrArg (_, ·) buffer
  · exact congrArg (none, ·) same

theorem sameShape_of_books (same : s.books = s'.books) (encoded : Encoded (q.setZeroOnFree zero) s)
    (encoded' : Encoded (q.setZeroOnFree zero') s') :
    SameShape (heapOf (q.setZeroOnFree zero) s) (heapOf (q.setZeroOnFree zero') s') := by
  obtain ⟨layout, memory, rfl⟩ := encoded
  obtain ⟨layout', memory', rfl⟩ := encoded'
  intro address
  rw [length_lookup_heapOf, length_lookup_heapOf]
  refine Option.ext fun capacity => ?_
  rw [← liveBlock_encode_iff, ← liveBlock_encode_iff]
  exact liveBlock_of_books same

/-- A safe copy from outside the arena takes the same bytes in both runs. -/
theorem label_of_books {op : Op} {r r' : Reply} (same : r.books = r'.books)
    (outside : SourceOutside q (.call op)) :
    op.label (q.setZeroOnFree zero) s r = op.label (q.setZeroOnFree zero') s' r' := by
  obtain ⟨code, -, cell⟩ := Reply.mk.inj same
  unfold Op.label
  rw [code, cell]
  cases op with
  | safeMemoryCopy pAllocHolder bytes dst src count =>
    have source : slice (byteAt (q.setZeroOnFree zero) s bytes) src count =
        slice (byteAt (q.setZeroOnFree zero') s' bytes) src count := by
      refine slice_congr fun k above below => ?_
      have elsewhere := outside pAllocHolder bytes dst src count rfl (k - src) (by omega)
      rw [Nat.add_sub_cancel' above] at elsewhere
      exact (if_neg elsewhere).trans (if_neg elsewhere).symm
    simp only [source]
  | _ => rfl

theorem label_next_of_books (same : s.books = s'.books) {action : Action}
    (outside : SourceOutside q action) :
    action.label (q.setZeroOnFree zero) s = action.label (q.setZeroOnFree zero') s' := by
  rcases action with op | ⟨offset, byte⟩
  · exact label_of_books (reply_of_books same op) outside
  · rfl

/-- **The two instances of one client**: the same books, and heaps that agree on the defined
bytes. -/
structure Twins (q : Placement) (zero zero' : Bool) (defined : Nat → Nat → Prop)
    (s s' : DynostaticBuffer) : Prop where
  books : s.books = s'.books
  formed : WellFormed (q.setZeroOnFree zero) s
  formed' : WellFormed (q.setZeroOnFree zero') s'
  agree : s.initMagic = dsMagicNumber →
    Agree defined (heapOf (q.setZeroOnFree zero) s) (heapOf (q.setZeroOnFree zero') s')

theorem Twins.magic {defined : Nat → Nat → Prop} (twins : Twins q zero zero' defined s s') :
    s.initMagic = s'.initMagic :=
  (DynostaticBuffer.mk.inj twins.books).1

/-- A step of an instance that is not initialized leaves it so, or empties it. -/
theorem heapOf_next_uninitialized {q : Placement} {s : DynostaticBuffer}
    (raw : s.initMagic ≠ dsMagicNumber) {action : Action}
    (armed : (next q s action).initMagic = dsMagicNumber) : heapOf q (next q s action) = ∅ := by
  rcases action with op | ⟨offset, byte⟩
  · rcases call_uninitialized (q := q) raw op with ⟨code, -, -, yields⟩ | ⟨rfl, -⟩
    · have same : next q s (.call op) = s := congrArg Reply.buffer yields.value
      rw [same] at armed
      exact absurd armed raw
    · exact heapOf_freshInstance raw
  · exact absurd armed raw

theorem deinitialized_next (q : Placement) (s : DynostaticBuffer) :
    (next q s (.call (.deinitAllocation .self))).initMagic ≠ dsMagicNumber := by
  show (dsDeinitAllocation q s .self).value.buffer.initMagic ≠ dsMagicNumber
  unfold dsDeinitAllocation
  rw [if_neg nofun]
  split
  · assumption
  · nofun

/-- **One step keeps the instances twins.** -/
theorem Twins.next {defined : Nat → Nat → Prop} (twins : Twins q zero zero' defined s s')
    {action : Action} (client : Careful (q.setZeroOnFree zero) s action) :
    Twins q zero zero'
      ((action.label (q.setZeroOnFree zero) s).define (heapOf (q.setZeroOnFree zero) s) defined)
      (Dynostatic.next (q.setZeroOnFree zero) s action)
      (Dynostatic.next (q.setZeroOnFree zero') s' action) := by
  obtain ⟨confined, outside⟩ := client
  have books : (Dynostatic.next (q.setZeroOnFree zero) s action).books =
      (Dynostatic.next (q.setZeroOnFree zero') s' action).books :=
    congrArg Prod.snd (observe_of_books twins.books action)
  have magic := (DynostaticBuffer.mk.inj books).1
  have formed := twins.formed.next action
  have formed' := twins.formed'.next action
  refine ⟨books, formed, formed', fun armed => ?_⟩
  have encoded := formed.encoded armed
  have encoded' := formed'.encoded (magic.symm.trans armed)
  by_cases raw : s.initMagic ≠ dsMagicNumber
  · rw [heapOf_next_uninitialized raw armed,
      heapOf_next_uninitialized (twins.magic ▸ raw) (magic.symm.trans armed)]
    exact agree_empty _
  · have initialized := not_not.mp raw
    have initialized' := twins.magic.symm.trans initialized
    obtain ⟨layout, memory, same⟩ := twins.formed.encoded initialized
    obtain ⟨layout', memory', same'⟩ := twins.formed'.encoded initialized'
    have label : action.label (q.setZeroOnFree zero) s = action.label (q.setZeroOnFree zero') s' :=
      label_next_of_books twins.books outside
    have continues : Continues action := by
      rintro rfl
      exact deinitialized_next _ s armed
    have confined' : Confined (q.setZeroOnFree zero') s' action := fun offset byte store =>
      (owned_of_books twins.books).mp (confined offset byte store)
    have agree := twins.agree initialized
    subst same same'
    have step := step_next layout memory ⟨continues, confined⟩
    have step' := step_next layout' memory' ⟨continues, confined'⟩
    rw [← label] at step'
    exact step.agrees step' (separated_heapOf memory) (separated_heapOf memory')
      (sameShape_of_books books encoded encoded') agree

/-- **A run keeps the instances twins**, and shows the same in both builds. -/
theorem Twins.run {defined : Nat → Nat → Prop} (twins : Twins q zero zero' defined s s')
    (actions : List Action)
    (client : Obeys (Dynostatic.next (q.setZeroOnFree zero)) (Careful (q.setZeroOnFree zero)) s
      actions) :
    trace (Dynostatic.next (q.setZeroOnFree zero)) (observe (q.setZeroOnFree zero)) s actions =
        trace (Dynostatic.next (q.setZeroOnFree zero')) (observe (q.setZeroOnFree zero')) s'
          actions ∧
      Twins q zero zero' (definedAfter (q.setZeroOnFree zero) s defined actions)
        (Runs.run (Dynostatic.next (q.setZeroOnFree zero)) s actions)
        (Runs.run (Dynostatic.next (q.setZeroOnFree zero')) s' actions) := by
  induction actions generalizing s s' defined with
  | nil =>
    refine ⟨?_, twins⟩
    rw [trace, trace]
  | cons action actions ih =>
    obtain ⟨now, later⟩ := client
    obtain ⟨shown, last⟩ := ih (twins.next now) later
    exact ⟨List.cons_eq_cons.mpr ⟨observe_of_books twins.books action, shown⟩, last⟩

/-- A defined byte of a live block is the same in both instances. -/
theorem Twins.byte {defined : Nat → Nat → Prop} (twins : Twins q zero zero' defined s s')
    {p capacity i : Nat} (live : LiveBlock (q.setZeroOnFree zero) s p capacity)
    (inside : i < capacity) (known : defined p i) :
    s.memory (p - q.base + i) = s'.memory (p - q.base + i) := by
  have live' : LiveBlock (q.setZeroOnFree zero') s' p capacity :=
    (liveBlock_of_books twins.books).mp live
  have agree := twins.agree live.1
  obtain ⟨layout, memory, same⟩ := twins.formed.encoded live.1
  obtain ⟨layout', memory', same'⟩ := twins.formed'.encoded live'.1
  subst same same'
  rw [liveBlock_encode_iff] at live live'
  have bytes := agree.bytes p _ _ (lookup_heapOf_of_blockAt _ _ live)
    (lookup_heapOf_of_blockAt _ _ live') i known
  rw [getElem?_slice _ inside, getElem?_slice _ inside] at bytes
  exact Option.some.inj bytes

/-- **`DS_ZERO_ON_FREE` is transparent.** For every build, every structure that is not initialized
and every client that writes to its own blocks and copies from elsewhere, the run without and the
run with `DS_ZERO_ON_FREE` show the same: every call returns the same code and leaves the same
pointer or value in the caller's variable, and the bookkeeping after every action is the same. At
the end the same blocks are live, and their defined bytes are the same. -/
theorem zero_on_free_transparent (q : Placement) {first : DynostaticBuffer}
    (fresh : first.initMagic ≠ dsMagicNumber) (actions : List Action)
    (client : Obeys (next (q.setZeroOnFree false)) (Careful (q.setZeroOnFree false)) first
      actions) :
    trace (next (q.setZeroOnFree false)) (observe (q.setZeroOnFree false)) first actions =
        trace (next (q.setZeroOnFree true)) (observe (q.setZeroOnFree true)) first actions ∧
      ∀ p capacity,
        LiveBlock (q.setZeroOnFree false) (run (next (q.setZeroOnFree false)) first actions) p
          capacity →
        LiveBlock (q.setZeroOnFree true) (run (next (q.setZeroOnFree true)) first actions) p
          capacity ∧
        ∀ i < capacity,
          definedAfter (q.setZeroOnFree false) first (fun _ _ => False) actions p i →
          (run (next (q.setZeroOnFree false)) first actions).memory (p - q.base + i) =
            (run (next (q.setZeroOnFree true)) first actions).memory (p - q.base + i) := by
  have twins : Twins q false true (fun _ _ => False) first first :=
    ⟨rfl, .inl fresh, .inl fresh, fun armed => absurd armed fresh⟩
  obtain ⟨shown, last⟩ := twins.run actions client
  exact ⟨shown, fun p capacity live => ⟨(liveBlock_of_books last.books).mp live,
    fun i inside known => last.byte live inside known⟩⟩

/-- A block that is freed, and its bytes zeroed for the next owner. -/
def reusedBlock : List Action :=
  [.call (.initializeAllocation .self), .call (.malloc .self (some 0) 10),
    .call (.free .self (some 4096)), .call (.calloc .self (some 0) 2 5)]

theorem zero_on_free_transparent_reusedBlock :
    (run (next (defaultPlacement.setZeroOnFree false)) zeroBuffer reusedBlock).memory 3 =
      (run (next (defaultPlacement.setZeroOnFree true)) zeroBuffer reusedBlock).memory 3 := by
  have client : Obeys (next (defaultPlacement.setZeroOnFree false))
      (Careful (defaultPlacement.setZeroOnFree false)) zeroBuffer reusedBlock :=
    ⟨⟨nofun, nofun⟩, ⟨nofun, nofun⟩, ⟨nofun, nofun⟩, ⟨nofun, nofun⟩, trivial⟩
  have live : LiveBlock (defaultPlacement.setZeroOnFree false)
      (run (next (defaultPlacement.setZeroOnFree false)) zeroBuffer reusedBlock) 4096 12 :=
    ⟨rfl, 0, by decide, rfl, rfl, rfl⟩
  obtain ⟨-, agree⟩ :=
    (zero_on_free_transparent defaultPlacement zeroBuffer_fresh reusedBlock client).2 4096 12 live
  refine agree 3 (by decide) ?_
  show 3 < 10
  decide

end Dynostatic
