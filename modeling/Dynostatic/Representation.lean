/-
**The instance as an object in memory.**

`dynostatic_buffer_t` lies in the memory of the program: its arena, beside it the members that keep
the books, and padding. Where the compiler puts these and how it keeps a word is a `Representation`.

A call reads its instance from the memory (`read`), and writes back its arena and its members
(`image`). What it leaves in other bytes the code does not determine (`write`): a call that succeeds
may change the padding, and a byte may hold anything where an event strays to, for a write may miss
the arena and an index may leave the table. Safe events do neither, and so what lies apart from the
object is untouched (`write_outside`).
-/

import Dynostatic.Lib.Members
import Dynostatic.Safety

namespace Dynostatic

open Tracing Tracing.Traced Tiling Words

/-! ### The members -/

/-- The members of `dynostatic_buffer_t` besides the arena, for a number of records. -/
inductive Member (count : Nat) where
  | initMagic
  | dataHead
  | usedAllocators
  | head (index : Fin count)
  | size (index : Fin count)
  | allocationStatus (index : Fin count)
  deriving DecidableEq

namespace Member

/-- The members in the order of declaration. -/
def list (count : Nat) : List (Member count) :=
  [.initMagic, .dataHead, .usedAllocators] ++
    (List.finRange count).flatMap fun index => [.head index, .size index, .allocationStatus index]

theorem mem_list {count : Nat} (m : Member count) : m ∈ list count := by
  unfold list
  cases m <;> simp

/-- The number of values a member takes. -/
def range (c : Config) : Member c.maxAllocationCount → Nat
  | .initMagic => 2 ^ 16
  | .allocationStatus _ => 3
  | _ => 2 ^ c.sizeBits

end Member

/-- The values of `ds_allocator_status_t`. -/
def DsAllocatorStatus.number : DsAllocatorStatus → Nat
  | .notUsed => 0
  | .free => 1
  | .allocated => 2

/-- The status with a value. Only a structure that is not initialized may hold another value, and no
function looks at it there. -/
def DsAllocatorStatus.ofNumber : Nat → DsAllocatorStatus
  | 1 => .free
  | 2 => .allocated
  | _ => .notUsed

theorem DsAllocatorStatus.ofNumber_number (status : DsAllocatorStatus) :
    ofNumber status.number = status := by
  cases status <;> rfl

theorem DsAllocatorStatus.number_injective {status other : DsAllocatorStatus}
    (same : status.number = other.number) : status = other := by
  rw [← ofNumber_number status, same, ofNumber_number]

section Words

variable {c : Config} (s : DynostaticBuffer)

/-- The member as a number. -/
def DynostaticBuffer.word : Member c.maxAllocationCount → Nat
  | .initMagic => s.initMagic.toNat
  | .dataHead => s.dataHead
  | .usedAllocators => s.usedAllocators
  | .head index => (s.allocators index).head
  | .size index => (s.allocators index).size
  | .allocationStatus index => (s.allocators index).allocationStatus.number

/-- The structure with these members and this arena. -/
def ofWords (words : Member c.maxAllocationCount → Nat) (memory : Nat → UInt8) :
    DynostaticBuffer where
  initMagic := UInt16.ofNat (words .initMagic)
  dataHead := words .dataHead
  usedAllocators := words .usedAllocators
  memory := memory
  allocators := fun index =>
    if inside : index < c.maxAllocationCount then
      ⟨words (.head ⟨index, inside⟩), words (.size ⟨index, inside⟩),
        .ofNumber (words (.allocationStatus ⟨index, inside⟩))⟩
    else DsAllocator.zero

/-- **The instance has a representation**: its members are in their ranges, and there is nothing
past the last record. -/
structure Representable (c : Config) (s : DynostaticBuffer) : Prop where
  word_lt : ∀ m : Member c.maxAllocationCount, s.word m < m.range c
  past : ∀ index, c.maxAllocationCount ≤ index → s.allocators index = DsAllocator.zero

variable {s} {words words' : Member c.maxAllocationCount → Nat} {memory : Nat → UInt8}

theorem ofWords_record (index : Fin c.maxAllocationCount) :
    (ofWords words memory).allocators index =
      ⟨words (.head index), words (.size index), .ofNumber (words (.allocationStatus index))⟩ :=
  dif_pos index.isLt

/-- **A member that is written reads as it was written**, and one that is kept as it did. -/
theorem ofWords_eq
    (kept : ∀ m, words m = s.word m ∨
      words m = words' m ∧ s.word m = (ofWords words' memory).word m)
    (past : ∀ index, c.maxAllocationCount ≤ index → s.allocators index = DsAllocator.zero)
    (arena : Nat → UInt8) : ofWords words arena = { s with memory := arena } := by
  have number : ∀ m, (ofWords words' memory).word m = words' m → words m = s.word m := by
    intro m plain
    rcases kept m with same | ⟨same, same'⟩
    · exact same
    · rw [same, same', plain]
  have magic : UInt16.ofNat (words .initMagic) = s.initMagic := by
    rcases kept .initMagic with same | ⟨same, same'⟩
    · rw [same]
      exact UInt16.ofNat_toNat
    · rw [same]
      exact (UInt16.toNat.inj same').symm
  have status : ∀ index : Fin c.maxAllocationCount,
      DsAllocatorStatus.ofNumber (words (.allocationStatus index)) =
        (s.allocators index).allocationStatus := by
    intro index
    rcases kept (.allocationStatus index) with same | ⟨same, same'⟩
    · rw [same]
      exact DsAllocatorStatus.ofNumber_number _
    · rw [same]
      refine (DsAllocatorStatus.number_injective (same'.trans ?_)).symm
      exact congrArg (fun record => record.allocationStatus.number) (ofWords_record index)
  have records : (ofWords words arena).allocators = s.allocators := by
    funext index
    by_cases inside : index < c.maxAllocationCount
    · have head := number (.head ⟨index, inside⟩)
        (congrArg DsAllocator.head (ofWords_record ⟨index, inside⟩))
      have size := number (.size ⟨index, inside⟩)
        (congrArg DsAllocator.size (ofWords_record ⟨index, inside⟩))
      rw [ofWords_record ⟨index, inside⟩, head, size, status ⟨index, inside⟩]
      rfl
    · rw [past index (Nat.le_of_not_lt inside)]
      exact dif_neg inside
  unfold ofWords at records ⊢
  rw [magic, number .dataHead rfl, number .usedAllocators rfl]
  exact congrArg (fun table => (⟨s.initMagic, s.dataHead, s.usedAllocators, arena, table⟩ :
    DynostaticBuffer)) records

end Words

/-! ### What has a representation -/

section Representable

variable {q : Placement} {s : DynostaticBuffer}

theorem DsAllocatorStatus.number_lt (status : DsAllocatorStatus) : status.number < 3 := by
  cases status <;> decide

/-- The head and the size of a record are in the arena. -/
theorem Layout.record_le {c : Config} (layout : Layout c) (index : Nat) :
    (records layout.blocks index).head ≤ c.bufferMemorySize ∧
      (records layout.blocks index).size ≤ c.bufferMemorySize := by
  rcases found : layout.blocks[index]? with _ | block
  · rw [records_of_length_le (List.getElem?_eq_none_iff.mp found)]
    exact ⟨Nat.zero_le _, Nat.zero_le _⟩
  · have inside : start layout.blocks index + block.size ≤ c.bufferMemorySize := layout.end_le found
    rw [records_of_getElem? found]
    exact ⟨(Nat.le_add_right _ _).trans inside, (Nat.le_add_left _ _).trans inside⟩

theorem Layout.representable {c : Config} (layout : Layout c) (memory : Nat → UInt8) :
    Representable c (layout.encode memory) where
  word_lt m := by
    have arena := c.memorySize_lt
    cases m with
    | initMagic => exact UInt16.toNat_lt _
    | dataHead => exact layout.extent_le.trans_lt arena
    | usedAllocators =>
      exact ((liveCount_le_length _).trans layout.length_le).trans_lt c.maxCount_lt
    | head index => exact (layout.record_le index).1.trans_lt arena
    | size index => exact (layout.record_le index).2.trans_lt arena
    | allocationStatus index => exact DsAllocatorStatus.number_lt _
  past _ above := records_of_length_le (layout.length_le.trans above)

theorem deinitialized_representable (c : Config) (memory : Nat → UInt8) :
    Representable c (deinitialized c memory) where
  word_lt m := by
    have size : 0 < 2 ^ c.sizeBits := Nat.two_pow_pos _
    cases m with
    | initMagic => exact UInt16.toNat_lt _
    | allocationStatus index => exact DsAllocatorStatus.number_lt .notUsed
    | _ => exact size
  past _ _ := rfl

/-- **A call leaves its instance as it was, or one that has a representation.** -/
theorem WellFormed.reply_representable (formed : WellFormed q s) (op : Op) :
    (reply q s op).buffer = s ∨ Representable q.toConfig (reply q s op).buffer := by
  rcases formed with raw | ⟨layout, memory, rfl⟩
  · rcases reply_uninitialized (q := q) raw op with same | armed
    · exact .inl same
    · rw [armed]
      exact .inr (Layout.representable _ _)
  · right
    have outcome := reply_outcome layout memory op
    generalize reply q (layout.encode memory) op = r at outcome
    cases outcome with
    | ended => exact deinitialized_representable _ _
    | _ => exact Layout.representable _ _

end Representable

/-! ### The object -/

namespace Placement

/-- The address lies in the arena. -/
def Contains (q : Placement) (address : Nat) : Prop :=
  q.base ≤ address ∧ address < q.base + q.bufferMemorySize

instance (q : Placement) (address : Nat) : Decidable (q.Contains address) :=
  inferInstanceAs (Decidable (_ ∧ _))

/-- `sizeof(ds_allocator_t)`. -/
def sizeofAllocator (q : Placement) : Nat := q.sizeofAllocators / q.maxAllocationCount

end Placement

/-- **The event strays to the address**: it writes there, past the arena, or it uses an index past
the table, and the record would lie there. -/
def Event.Strays (q : Placement) (address : Nat) : Event → Prop
  | .write dest count => (dest ≤ address ∧ address < dest + count) ∧ ¬ q.Contains address
  | .access index => q.maxAllocationCount ≤ index ∧
      q.allocatorsBase + index * q.sizeofAllocator ≤ address ∧
        address < q.allocatorsBase + (index + 1) * q.sizeofAllocator
  | _ => False

instance (q : Placement) (address : Nat) : (event : Event) → Decidable (event.Strays q address)
  | .write _ _ => inferInstanceAs (Decidable ((_ ∧ _) ∧ ¬ _))
  | .access _ => inferInstanceAs (Decidable (_ ∧ _ ∧ _))
  | .assertion _ => inferInstanceAs (Decidable False)
  | .add _ _ => inferInstanceAs (Decidable False)
  | .sub _ _ => inferInstanceAs (Decidable False)
  | .copy _ _ _ => inferInstanceAs (Decidable False)
  | .alignUp _ => inferInstanceAs (Decidable False)

/-- **How a build keeps an instance**: where the object lies, where its members lie in it, and how
they are kept as bytes. -/
structure Representation (q : Placement) where
  address : Nat
  /-- `sizeof(dynostatic_buffer_t)`. -/
  sizeof : Nat
  bound : Member q.maxAllocationCount → Nat
  members : Members (Member q.maxAllocationCount) UInt8 bound
  range_le : ∀ m, m.range q.toConfig ≤ bound m
  arena_inside : ∀ k, q.Contains k → address ≤ k ∧ k < address + sizeof
  members_inside : ∀ k, members.Owns k → address ≤ k ∧ k < address + sizeof
  arena_apart : ∀ k, members.Owns k → ¬ q.Contains k
  /-- What a call leaves in a byte that the code does not determine. It may be anything. -/
  undetermined : (Nat → UInt8) → List Event → Nat → UInt8

namespace Representation

variable {q : Placement} (r : Representation q)

/-- The byte is one of the object. -/
def Object (k : Nat) : Prop := r.address ≤ k ∧ k < r.address + r.sizeof

instance (k : Nat) : Decidable (r.Object k) := inferInstanceAs (Decidable (_ ∧ _))

/-- The byte is one between the members. -/
def Padding (k : Nat) : Prop := r.Object k ∧ ¬ q.Contains k ∧ ¬ r.members.Owns k

instance (k : Nat) : Decidable (r.Padding k) := inferInstanceAs (Decidable (_ ∧ ¬ _ ∧ ¬ _))

/-- The instance that lies in the memory. -/
def read (bytes : Nat → UInt8) : DynostaticBuffer :=
  ofWords (r.members.load bytes) fun k => bytes (q.base + k)

/-- The members after a call. One that has not changed is kept as it is. -/
def words (bytes : Nat → UInt8) (s : DynostaticBuffer) (m : Member q.maxAllocationCount) : Nat :=
  if s.word m = (r.read bytes).word m then r.members.load bytes m else s.word m

/-- The memory with an instance in the place of the object. -/
def image (bytes : Nat → UInt8) (s : DynostaticBuffer) : Nat → UInt8 :=
  r.members.store (r.words bytes s) fun address =>
    if q.Contains address then s.memory (address - q.base) else bytes address

/-- **The memory after a call.** One that fails stores nothing in the structure, and so it keeps the
padding. -/
def write (bytes : Nat → UInt8) (outcome : Traced Event Reply) (k : Nat) : UInt8 :=
  if (∃ event ∈ outcome.events, event.Strays q k) ∨ outcome.value.code = .ok ∧ r.Padding k then
    r.undetermined bytes outcome.events k
  else r.image bytes outcome.value.buffer k

variable {r} {bytes : Nat → UInt8} {s : DynostaticBuffer} {outcome : Traced Event Reply}
  {address : Nat}

theorem not_strays {event : Event} (safe : Event.Safe q event) : ¬ event.Strays q address := by
  intro strays
  cases event with
  | write dest count =>
    obtain ⟨⟨above, below⟩, outside⟩ := strays
    exact outside ⟨safe.1.trans above, below.trans_le safe.2⟩
  | access index => exact Nat.not_le_of_lt safe strays.1
  | _ => exact strays

/-- **Safe events stray nowhere.** -/
theorem write_of_safe (safe : ∀ event ∈ outcome.events, Event.Safe q event)
    (determined : outcome.value.code = .ok → ¬ r.Padding address) :
    r.write bytes outcome address = r.image bytes outcome.value.buffer address := by
  refine if_neg ?_
  rintro (⟨event, listed, strays⟩ | ⟨ok, padding⟩)
  · exact not_strays (safe event listed) strays
  · exact determined ok padding

theorem image_outside (outside : ¬ r.Object address) : r.image bytes s address = bytes address := by
  have unowned : ¬ r.members.Owns address := fun owned => outside (r.members_inside address owned)
  have elsewhere : ¬ q.Contains address := fun inside => outside (r.arena_inside address inside)
  exact (Members.store_outside unowned).trans (if_neg elsewhere)

/-- **A call changes no byte apart from the object.** -/
theorem write_outside (safe : ∀ event ∈ outcome.events, Event.Safe q event)
    (outside : ¬ r.Object address) : r.write bytes outcome address = bytes address := by
  rw [write_of_safe safe fun _ padding => outside padding.1]
  exact image_outside outside

/-- **The members hold what the call left.** -/
theorem load_image (left : s = r.read bytes ∨ Representable q.toConfig s) :
    r.members.load (r.image bytes s) = r.words bytes s := by
  refine Members.load_store fun m => ?_
  unfold words
  by_cases same : s.word m = (r.read bytes).word m
  · rw [if_pos same]
    exact .inr ⟨bytes, rfl⟩
  · rw [if_neg same]
    rcases left with rfl | representable
    · exact absurd rfl same
    · exact .inl ((representable.word_lt m).trans_le (r.range_le m))

/-- **The instance is read as it was left**, but for bytes past the arena. -/
theorem read_image (left : s = r.read bytes ∨ Representable q.toConfig s) :
    r.read (r.image bytes s) = { s with memory := fun k => r.image bytes s (q.base + k) } := by
  have kept : ∀ m, r.words bytes s m = s.word m ∨
      r.words bytes s m = r.members.load bytes m ∧
        s.word m = (ofWords (r.members.load bytes) fun k => bytes (q.base + k)).word m := by
    intro m
    by_cases same : s.word m = (r.read bytes).word m
    · exact .inr ⟨if_pos same, same⟩
    · exact .inl (if_neg same)
  have past : ∀ index, q.maxAllocationCount ≤ index → s.allocators index = DsAllocator.zero := by
    intro index above
    rcases left with rfl | representable
    · exact dif_neg (Nat.not_lt_of_le above)
    · exact representable.past index above
  unfold read
  rw [load_image left]
  exact ofWords_eq kept past _

/-- A memory with the same members has the same instance in it, but for the arena. -/
theorem read_congr {bytes' : Nat → UInt8}
    (same : ∀ address, r.members.Owns address → bytes' address = bytes address) :
    r.read bytes' = { r.read bytes with memory := fun k => bytes' (q.base + k) } := by
  unfold read
  rw [Members.load_congr same]
  rfl

/-- **An instance that is left as it was leaves the memory as it was.** -/
theorem image_read : r.image bytes (r.read bytes) = bytes := by
  have kept : r.words bytes (r.read bytes) = r.members.load bytes := funext fun m => if_pos rfl
  have arena : (fun address => if q.Contains address then
      (r.read bytes).memory (address - q.base) else bytes address) = bytes := by
    funext address
    split
    · exact congrArg bytes (Nat.add_sub_cancel' (And.left ‹_›))
    · rfl
  rw [image, kept, arena, Members.store_load]

/-- **The instance is read as the call left it**, but for bytes past the arena. -/
theorem read_write (safe : ∀ event ∈ outcome.events, Event.Safe q event)
    (left : outcome.value.buffer = r.read bytes ∨
      Representable q.toConfig outcome.value.buffer) :
    r.read (r.write bytes outcome) =
      { outcome.value.buffer with memory := fun k => r.write bytes outcome (q.base + k) } := by
  have members : ∀ address, r.members.Owns address →
      r.write bytes outcome address = r.image bytes outcome.value.buffer address :=
    fun address owned => write_of_safe safe fun _ padding => padding.2.2 owned
  rw [read_congr members, read_image left]

/-- **A call that fails and leaves its instance as it was changes no byte of the memory.** -/
theorem write_of_refused (safe : ∀ event ∈ outcome.events, Event.Safe q event)
    (refused : outcome.value.code ≠ .ok) (same : outcome.value.buffer = r.read bytes) :
    r.write bytes outcome = bytes := by
  funext address
  rw [write_of_safe safe fun ok => absurd ok refused, same, image_read]

end Representation

/-! ### The default build -/

/-- The default build on a target with 64-bit addresses, with its structure at an address. -/
def placedAt (address : Nat) (positive : 0 < address) (aligned : 8 ∣ address)
    (fits : address + 1288 ≤ 2 ^ 64) : Placement where
  toConfig := defaultPlacement.toConfig
  base := address + 24
  allocatorsBase := address + 1048
  base_pos := by omega
  allocatorsBase_pos := by omega
  base_aligned := by
    show 4 ∣ address + 24
    omega
  base_fits := by
    show address + 24 + 1024 ≤ 2 ^ 64
    omega

namespace Member

/-- The bytes of a member. -/
def width : Member 10 → Nat
  | .initMagic => 2
  | .allocationStatus _ => 4
  | _ => 8

/-- The bytes of the structure below a member. -/
def offset : Member 10 → Nat
  | .initMagic => 0
  | .dataHead => 8
  | .usedAllocators => 16
  | .head index => 1048 + 24 * index
  | .size index => 1056 + 24 * index
  | .allocationStatus index => 1064 + 24 * index

theorem offset_apart {m n : Member 10} (other : m ≠ n) :
    m.offset + m.width ≤ n.offset ∨ n.offset + n.width ≤ m.offset := by
  cases m <;> cases n <;>
    simp only [offset, width, ne_eq, head.injEq, size.injEq, allocationStatus.injEq, Fin.ext_iff,
      not_true_eq_false] at other ⊢ <;>
    omega

/-- The arena lies between the first members and the records. -/
theorem offset_outside (m : Member 10) :
    m.offset + m.width ≤ 24 ∨ 1048 ≤ m.offset ∧ m.offset + m.width ≤ 1288 := by
  cases m <;> simp only [offset, width] <;> omega

end Member

/-- Its members, low bytes first. -/
def representedAt (address : Nat) (positive : 0 < address) (aligned : 8 ∣ address)
    (fits : address + 1288 ≤ 2 ^ 64) : Representation (placedAt address positive aligned fits) where
  address := address
  sizeof := 1288
  bound := fun m => 256 ^ Member.width m
  members :=
    { format := fun m => littleEndian (Member.width m)
      address := fun m => address + Member.offset m
      all := Member.list 10
      mem_all := Member.mem_list
      apart := fun m n other => by
        have := Member.offset_apart other
        show _ + Member.width m ≤ _ ∨ _ + Member.width n ≤ _
        omega }
  range_le := by
    intro m
    cases m with
    | initMagic =>
      show 2 ^ 16 ≤ 256 ^ 2
      decide
    | allocationStatus _ =>
      show 3 ≤ 256 ^ 4
      decide
    | _ =>
      show 2 ^ 64 ≤ 256 ^ 8
      decide
  arena_inside := by
    rintro k ⟨above, below⟩
    change address + 24 ≤ k at above
    change k < address + 24 + 1024 at below
    omega
  members_inside := by
    rintro k ⟨m, -, above, below⟩
    change address + Member.offset m ≤ k at above
    change k < address + Member.offset m + Member.width m at below
    have := Member.offset_outside m
    omega
  arena_apart := by
    rintro k ⟨m, -, above, below⟩ ⟨above', below'⟩
    change address + Member.offset m ≤ k at above
    change k < address + Member.offset m + Member.width m at below
    change address + 24 ≤ k at above'
    change k < address + 24 + 1024 at below'
    have := Member.offset_outside m
    omega
  undetermined := fun _ _ _ => 0

theorem object_representedAt {address k : Nat} {positive : 0 < address} {aligned : 8 ∣ address}
    {fits : address + 1288 ≤ 2 ^ 64}
    (object : (representedAt address positive aligned fits).Object k) :
    address ≤ k ∧ k < address + 1288 := object

end Dynostatic
