/-
**A client's ledger of a heap.**

A client that keeps track of its blocks has a list with an entry for each: the entry has the block's
address as its `key`, and `Describes` its bytes. The list is a `Ledger` of a heap when its keys are
the addresses of the heap, each once, and every entry describes its block.

* `Step.allocate_eq`, `Step.free_eq`, `Step.resize_eq` — the steps as changes of the map;
* `Ledger.push`, `Ledger.erase`, `Ledger.move` — a ledger is kept up with them;
* `Ledger.sum_le` — what the entries promise of the lengths, the heap holds in total;
* `Ledger.length_eq` — it has an entry a block;
* `Ledger.apart` — blocks of different entries do not overlap.
-/

import Mathlib.Algebra.BigOperators.Group.Finset.Basic
import Mathlib.Algebra.Order.BigOperators.Group.List
import Mathlib.Algebra.Order.Ring.Nat
import Dynostatic.Lib.Heap

namespace Heaps

variable {Byte Entry : Type*}

/-! ### Steps as changes of the map -/

section Steps

variable {zero : Byte} {heap heap' : Heap Byte} {address size handed : Nat}

theorem Step.allocate_eq {holder zeroed : Nat}
    (step : Step zero heap (.allocate holder size zeroed handed) heap') :
    ∃ bytes : List Byte, handed ∉ heap ∧ Clear heap handed bytes.length ∧ size ≤ bytes.length ∧
      heap' = heap.insert handed bytes := by
  cases step with
  | allocate _ new clear large => exact ⟨_, new, clear, large, rfl⟩

theorem Step.free_eq (step : Step zero heap (.free address) heap') :
    heap' = heap.erase address := by
  cases step with
  | free => rfl

/-- A resized block takes the place of the old one, wherever it lies. -/
theorem Step.resize_eq (step : Step zero heap (.resize address size handed) heap') :
    ∃ old bytes : List Byte, heap.lookup address = some old ∧ handed ∉ heap.erase address ∧
      size ≤ bytes.length ∧ (∀ i < min old.length bytes.length, bytes[i]? = old[i]?) ∧
      heap' = (heap.erase address).insert handed bytes := by
  cases step with
  | resize found _ large kept =>
    refine ⟨_, _, found, Finmap.notMem_erase_self, large, kept, ?_⟩
    refine Finmap.ext_lookup fun other => ?_
    by_cases here : other = address
    · rw [here, Finmap.lookup_insert, Finmap.lookup_insert]
    · rw [Finmap.lookup_insert_of_ne _ here, Finmap.lookup_insert_of_ne _ here,
        Finmap.lookup_erase_ne here]
  | move found new _ large kept =>
    refine ⟨_, _, found, fun member => new (Finmap.mem_erase.mp member).2, large, kept, ?_⟩
    have different : handed ≠ address := by
      rintro rfl
      exact new (Finmap.mem_of_lookup_eq_some found)
    refine Finmap.ext_lookup fun other => ?_
    by_cases here : other = address
    · rw [here, Finmap.lookup_erase, Finmap.lookup_insert_of_ne _ different.symm,
        Finmap.lookup_erase]
    · rw [Finmap.lookup_erase_ne here]
      by_cases there : other = handed
      · rw [there, Finmap.lookup_insert, Finmap.lookup_insert]
      · rw [Finmap.lookup_insert_of_ne _ there, Finmap.lookup_insert_of_ne _ there,
          Finmap.lookup_erase_ne here]

end Steps

/-! ### Ledgers -/

/-- The number of bytes in the blocks of a heap. -/
def footprint (heap : Heap Byte) : Nat :=
  ∑ address ∈ heap.keys, ((heap.lookup address).map List.length).getD 0

/-- **The entries are those of the heap's blocks.** -/
structure Ledger (key : Entry → Nat) (Describes : Entry → List Byte → Prop)
    (entries : List Entry) (heap : Heap Byte) : Prop where
  nodup : (entries.map key).Nodup
  mem_iff : ∀ address, address ∈ heap ↔ address ∈ entries.map key
  describes : ∀ entry ∈ entries, ∀ bytes, heap.lookup (key entry) = some bytes →
    Describes entry bytes

namespace Ledger

variable {key : Entry → Nat} {Describes : Entry → List Byte → Prop}
  {entries entries' : List Entry} {heap : Heap Byte}

theorem empty : Ledger key Describes [] (∅ : Heap Byte) where
  nodup := List.nodup_nil
  mem_iff := fun _ => iff_of_false Finmap.notMem_empty List.not_mem_nil
  describes := fun _ member => absurd member List.not_mem_nil

/-- The order of the entries means nothing. -/
theorem perm (ledger : Ledger key Describes entries heap) (permuted : entries'.Perm entries) :
    Ledger key Describes entries' heap where
  nodup := (permuted.map key).nodup_iff.mpr ledger.nodup
  mem_iff := fun address => (ledger.mem_iff address).trans (permuted.map key).mem_iff.symm
  describes := fun entry member => ledger.describes entry (permuted.mem_iff.mp member)

/-- The block of an entry. -/
theorem lookup (ledger : Ledger key Describes entries heap) {entry : Entry}
    (member : entry ∈ entries) :
    ∃ bytes, heap.lookup (key entry) = some bytes ∧ Describes entry bytes := by
  have live := (ledger.mem_iff _).mpr (List.mem_map_of_mem member)
  obtain ⟨bytes, found⟩ := Finmap.mem_iff.mp live
  exact ⟨bytes, found, ledger.describes entry member bytes found⟩

/-- No two entries have one key. -/
theorem index_unique (ledger : Ledger key Describes entries heap) {i j : Nat} {entry other : Entry}
    (found : entries[i]? = some entry) (found' : entries[j]? = some other)
    (same : key entry = key other) : i = j := by
  obtain ⟨inside, -⟩ := List.getElem?_eq_some_iff.mp found
  have equal : (entries.map key)[i]? = (entries.map key)[j]? := by
    rw [List.getElem?_map, List.getElem?_map, found, found', Option.map_some, Option.map_some, same]
  exact (List.getElem?_inj (by rwa [List.length_map]) ledger.nodup).mp equal

/-! ### Keeping it up -/

/-- A new block gets a new entry. -/
theorem push (ledger : Ledger key Describes entries heap) {entry : Entry} {bytes : List Byte}
    (new : key entry ∉ heap) (true : Describes entry bytes) :
    Ledger key Describes (entries ++ [entry]) (heap.insert (key entry) bytes) where
  nodup := by
    rw [List.map_append, List.map_singleton, List.nodup_append]
    refine ⟨ledger.nodup, List.nodup_singleton _, ?_⟩
    intro address listed address' here same
    rw [List.mem_singleton.mp here] at same
    exact new ((ledger.mem_iff _).mpr (same ▸ listed))
  mem_iff := by
    intro address
    rw [Finmap.mem_insert, ledger.mem_iff, List.map_append, List.mem_append, List.map_singleton,
      List.mem_singleton, or_comm]
  describes := by
    intro other member bytes' found
    rcases List.mem_append.mp member with old | here
    · have different : key other ≠ key entry := fun same =>
        new (same ▸ (ledger.mem_iff _).mpr (List.mem_map_of_mem old))
      rw [Finmap.lookup_insert_of_ne _ different] at found
      exact ledger.describes other old bytes' found
    · obtain rfl := List.mem_singleton.mp here
      rw [Finmap.lookup_insert] at found
      cases found
      exact true

/-- The entry of a block that is gone is struck. -/
theorem erase (ledger : Ledger key Describes entries heap) {i : Nat} {entry : Entry}
    (found : entries[i]? = some entry) :
    Ledger key Describes (entries.eraseIdx i) (heap.erase (key entry)) := by
  have subset : ∀ other ∈ entries.eraseIdx i, other ∈ entries ∧ key other ≠ key entry := by
    intro other member
    obtain ⟨j, different, found'⟩ := List.mem_eraseIdx_iff_getElem?.mp member
    exact ⟨List.mem_of_getElem? found', fun same =>
      different (ledger.index_unique found' found same)⟩
  constructor
  · exact ledger.nodup.sublist ((List.eraseIdx_sublist _ _).map key)
  · intro address
    rw [Finmap.mem_erase, ledger.mem_iff]
    constructor
    · rintro ⟨different, listed⟩
      obtain ⟨other, member, rfl⟩ := List.mem_map.mp listed
      obtain ⟨j, found'⟩ := List.mem_iff_getElem?.mp member
      refine List.mem_map_of_mem (List.mem_eraseIdx_iff_getElem?.mpr ⟨j, ?_, found'⟩)
      rintro rfl
      rw [found] at found'
      cases found'
      exact different rfl
    · intro listed
      obtain ⟨other, member, rfl⟩ := List.mem_map.mp listed
      exact ⟨(subset other member).2, List.mem_map_of_mem (subset other member).1⟩
  · intro other member bytes' found'
    obtain ⟨old, different⟩ := subset other member
    rw [Finmap.lookup_erase_ne different] at found'
    exact ledger.describes other old bytes' found'

/-- The list with one entry replaced is, up to the order, the list without it and the new entry. -/
theorem set_perm {i : Nat} {entry : Entry} (inside : i < entries.length) :
    (entries.set i entry).Perm (entries.eraseIdx i ++ [entry]) := by
  rw [List.set_eq_take_append_cons_drop, if_pos inside, List.eraseIdx_eq_take_drop_succ]
  exact List.perm_middle.trans (List.perm_append_singleton _ _).symm

/-- The entry of a block at another address, or with other bytes, is replaced. -/
theorem move (ledger : Ledger key Describes entries heap) {i : Nat} {entry entry' : Entry}
    {bytes : List Byte} (found : entries[i]? = some entry)
    (new : key entry' ∉ heap.erase (key entry)) (true : Describes entry' bytes) :
    Ledger key Describes (entries.set i entry')
      ((heap.erase (key entry)).insert (key entry') bytes) :=
  ((ledger.erase found).push new true).perm
    (set_perm (List.getElem?_eq_some_iff.mp found).1)

/-! ### What it is good for -/

/-- The addresses of the heap, as the ledger lists them. -/
theorem keys_eq (ledger : Ledger key Describes entries heap) :
    heap.keys.val = ↑(entries.map key) := by
  refine (Multiset.Nodup.ext heap.keys.nodup (Multiset.coe_nodup.mpr ledger.nodup)).mpr ?_
  intro address
  exact Finmap.mem_keys.trans (ledger.mem_iff address)

/-- **An entry a block.** -/
theorem length_eq (ledger : Ledger key Describes entries heap) :
    entries.length = heap.keys.card := by
  rw [Finset.card_def, ledger.keys_eq, Multiset.coe_card, List.length_map]

/-- **What the entries promise, the heap holds.** -/
theorem sum_le (ledger : Ledger key Describes entries heap) {floor : Entry → Nat}
    (promised : ∀ entry ∈ entries, ∀ bytes, Describes entry bytes → floor entry ≤ bytes.length) :
    (entries.map floor).sum ≤ footprint heap := by
  have listed : footprint heap = (entries.map fun entry =>
      ((heap.lookup (key entry)).map List.length).getD 0).sum := by
    unfold footprint Finset.sum
    rw [ledger.keys_eq, Multiset.map_coe, Multiset.sum_coe, List.map_map]
    rfl
  rw [listed]
  refine List.sum_le_sum fun entry member => ?_
  obtain ⟨bytes, found, true⟩ := ledger.lookup member
  rw [found]
  exact promised entry member bytes true

/-- **Blocks of different entries do not overlap.** -/
theorem apart (ledger : Ledger key Describes entries heap) (separated : Separated heap) {i j : Nat}
    {entry other : Entry} (found : entries[i]? = some entry) (found' : entries[j]? = some other)
    (different : j ≠ i) {bytes bytes' : List Byte} (block : heap.lookup (key entry) = some bytes)
    (block' : heap.lookup (key other) = some bytes') :
    key entry + bytes.length ≤ key other ∨ key other + bytes'.length ≤ key entry :=
  separated.apart block block' fun same => different (ledger.index_unique found' found same)

end Ledger

end Heaps
