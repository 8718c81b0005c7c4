/-
**A heap as a finite map.**

What an allocator is for, without its bookkeeping: a finite map from the addresses of the live
blocks to their bytes, and the steps a client may see (`Step`). A block that is handed out is new
and apart from every other; a resized block keeps its first bytes, at its address or at a new one; a
write changes the addressed bytes of one block. Every step is an `insert` or an `erase`, so nothing
else is touched.

* `Step.separated` — the blocks never overlap;
* `Step.of_allocate`, `Step.of_free`, `Step.of_resize`, `Step.of_move` — what a step does to the set
  of addresses;
* `Step.handed` — a step adds no address but the one it hands out.
-/

import Mathlib.Data.Finmap
import Dynostatic.Lib.Bytes

namespace Heaps

open Bytes

/-- A finite map from addresses to byte strings. -/
abbrev Heap (Byte : Type*) := Finmap fun _ : Nat => List Byte

variable {Byte : Type*}

/-- What a client asks for, and the address it is handed. -/
inductive Label (Byte : Type*) where
  | skip
  | allocate (holder size zeroed handed : Nat)
  | free (address : Nat)
  | resize (address size handed : Nat)
  | write (address : Nat) (bytes : List Byte)

/-- The address is handed out. -/
def Label.Hands (address : Nat) : Label Byte → Prop
  | .allocate _ _ _ handed => handed = address
  | .resize _ _ handed => handed = address
  | _ => False

/-- Every block of the heap lies apart from the range. -/
def Clear (heap : Heap Byte) (address count : Nat) : Prop :=
  ∀ other bytes, heap.lookup other = some bytes →
    address + count ≤ other ∨ other + bytes.length ≤ address

/-- No two blocks overlap. -/
def Separated (heap : Heap Byte) : Prop :=
  ∀ address bytes, heap.lookup address = some bytes →
    Clear (heap.erase address) address bytes.length

/-- **The steps of a heap.** -/
inductive Step (zero : Byte) : Heap Byte → Label Byte → Heap Byte → Prop
  | skip {heap : Heap Byte} : Step zero heap .skip heap
  | allocate {heap : Heap Byte} {holder size zeroed handed : Nat} {bytes : List Byte}
      (unused : holder ∉ heap) (new : handed ∉ heap) (clear : Clear heap handed bytes.length)
      (large : size ≤ bytes.length) (zeros : ∀ i < zeroed, bytes[i]? = some zero) :
      Step zero heap (.allocate holder size zeroed handed) (heap.insert handed bytes)
  | free {heap : Heap Byte} {address : Nat} (live : address ∈ heap) :
      Step zero heap (.free address) (heap.erase address)
  | resize {heap : Heap Byte} {address size : Nat} {old bytes : List Byte}
      (found : heap.lookup address = some old)
      (clear : Clear (heap.erase address) address bytes.length) (large : size ≤ bytes.length)
      (kept : ∀ i < min old.length bytes.length, bytes[i]? = old[i]?) :
      Step zero heap (.resize address size address) (heap.insert address bytes)
  | move {heap : Heap Byte} {address size handed : Nat} {old bytes : List Byte}
      (found : heap.lookup address = some old) (new : handed ∉ heap)
      (clear : Clear heap handed bytes.length) (large : size ≤ bytes.length)
      (kept : ∀ i < min old.length bytes.length, bytes[i]? = old[i]?) :
      Step zero heap (.resize address size handed) ((heap.insert handed bytes).erase address)
  | write {heap : Heap Byte} {address offset : Nat} {old bytes : List Byte}
      (found : heap.lookup address = some old) (inside : offset + bytes.length ≤ old.length) :
      Step zero heap (.write (address + offset) bytes)
        (heap.insert address (splice old offset bytes))

/-! ### Separation -/

theorem Clear.of_erase {heap : Heap Byte} {address count other : Nat}
    (clear : Clear heap address count) : Clear (heap.erase other) address count := by
  intro third bytes found
  by_cases here : third = other
  · subst here
    rw [Finmap.lookup_erase] at found
    cases found
  · rw [Finmap.lookup_erase_ne here] at found
    exact clear third bytes found

/-- An absent block need not be left out. -/
theorem Clear.of_not_mem {heap : Heap Byte} {address count other : Nat}
    (clear : Clear (heap.erase other) address count) (absent : other ∉ heap) :
    Clear heap address count := by
  intro third bytes found
  refine clear third bytes ((Finmap.lookup_erase_ne ?_).trans found)
  rintro rfl
  exact absent (Finmap.mem_of_lookup_eq_some found)

theorem Separated.apart {heap : Heap Byte} (separated : Separated heap) {address other : Nat}
    {bytes bytes' : List Byte} (found : heap.lookup address = some bytes)
    (found' : heap.lookup other = some bytes') (different : other ≠ address) :
    address + bytes.length ≤ other ∨ other + bytes'.length ≤ address :=
  separated address bytes found other bytes' ((Finmap.lookup_erase_ne different).trans found')

theorem separated_empty : Separated (∅ : Heap Byte) := by
  intro address bytes found
  cases found

/-- A block apart from the others, in place of the one at its address. -/
theorem Separated.insert {heap : Heap Byte} (separated : Separated heap) {address : Nat}
    {bytes : List Byte} (clear : Clear (heap.erase address) address bytes.length) :
    Separated (heap.insert address bytes) := by
  intro first bytes₁ found₁ second bytes₂ found₂
  have different : second ≠ first := by
    rintro rfl
    rw [Finmap.lookup_erase] at found₂
    cases found₂
  rw [Finmap.lookup_erase_ne different] at found₂
  by_cases here : first = address
  · subst here
    rw [Finmap.lookup_insert] at found₁
    cases found₁
    rw [Finmap.lookup_insert_of_ne _ different] at found₂
    exact clear second bytes₂ ((Finmap.lookup_erase_ne different).trans found₂)
  · rw [Finmap.lookup_insert_of_ne _ here] at found₁
    by_cases there : second = address
    · subst there
      rw [Finmap.lookup_insert] at found₂
      cases found₂
      exact (clear first bytes₁ ((Finmap.lookup_erase_ne here).trans found₁)).symm
    · rw [Finmap.lookup_insert_of_ne _ there] at found₂
      exact separated.apart found₁ found₂ different

theorem Separated.erase {heap : Heap Byte} (separated : Separated heap) (address : Nat) :
    Separated (heap.erase address) := by
  intro first bytes found
  by_cases here : first = address
  · subst here
    rw [Finmap.lookup_erase] at found
    cases found
  · rw [Finmap.lookup_erase_ne here] at found
    rw [Finmap.erase_erase]
    exact (separated first bytes found).of_erase

/-- **No step makes blocks overlap.** -/
theorem Step.separated {zero : Byte} {heap heap' : Heap Byte} {label : Label Byte}
    (step : Step zero heap label heap') (separated : Separated heap) : Separated heap' := by
  cases step with
  | skip => exact separated
  | allocate _ _ clear => exact separated.insert clear.of_erase
  | free => exact separated.erase _
  | resize _ clear => exact separated.insert clear
  | move _ _ clear => exact (separated.insert clear.of_erase).erase _
  | write found inside =>
    refine separated.insert ?_
    rw [length_splice inside]
    exact separated _ _ found

/-! ### Addresses -/

/-- An allocation adds the address it hands out. -/
theorem Step.of_allocate {zero : Byte} {heap heap' : Heap Byte}
    {holder size zeroed handed : Nat}
    (step : Step zero heap (.allocate holder size zeroed handed) heap') :
    holder ∉ heap ∧ handed ∉ heap ∧ ∀ a, a ∈ heap' ↔ a = handed ∨ a ∈ heap := by
  cases step with
  | allocate unused new => exact ⟨unused, new, fun a => Finmap.mem_insert⟩

/-- A release removes the address it names. -/
theorem Step.of_free {zero : Byte} {heap heap' : Heap Byte} {address : Nat}
    (step : Step zero heap (.free address) heap') :
    address ∈ heap ∧ ∀ a, a ∈ heap' ↔ a ≠ address ∧ a ∈ heap := by
  cases step with
  | free live => exact ⟨live, fun a => Finmap.mem_erase⟩

/-- A resize in place keeps the addresses. -/
theorem Step.of_resize {zero : Byte} {heap heap' : Heap Byte} {address size : Nat}
    (step : Step zero heap (.resize address size address) heap') :
    ∀ a, a ∈ heap' ↔ a ∈ heap := by
  cases step with
  | resize found =>
    have live := Finmap.mem_of_lookup_eq_some found
    refine fun a => Finmap.mem_insert.trans ⟨?_, .inr⟩
    rintro (rfl | old)
    · exact live
    · exact old
  | move found new => exact absurd (Finmap.mem_of_lookup_eq_some found) new

/-- A move replaces one address by a new one. -/
theorem Step.of_move {zero : Byte} {heap heap' : Heap Byte} {address size handed : Nat}
    (step : Step zero heap (.resize address size handed) heap') (moved : handed ≠ address) :
    handed ∉ heap ∧ ∀ a, a ∈ heap' ↔ a = handed ∨ (a ≠ address ∧ a ∈ heap) := by
  cases step with
  | resize => exact absurd rfl moved
  | move _ new =>
    refine ⟨new, fun a => ?_⟩
    simp only [Finmap.mem_erase, Finmap.mem_insert]
    constructor
    · rintro ⟨different, same | old⟩
      · exact .inl same
      · exact .inr ⟨different, old⟩
    · rintro (rfl | ⟨different, old⟩)
      · exact ⟨moved, .inl rfl⟩
      · exact ⟨different, .inr old⟩

/-- **A step adds no address but the one it hands out.** -/
theorem Step.handed {zero : Byte} {heap heap' : Heap Byte} {label : Label Byte}
    (step : Step zero heap label heap') {address : Nat} (dead : address ∉ heap)
    (live : address ∈ heap') : label.Hands address := by
  cases step with
  | skip => exact absurd live dead
  | allocate => exact ((Finmap.mem_insert.mp live).resolve_right dead).symm
  | free => exact absurd (Finmap.mem_erase.mp live).2 dead
  | resize => exact ((Finmap.mem_insert.mp live).resolve_right dead).symm
  | move =>
    exact ((Finmap.mem_insert.mp (Finmap.mem_erase.mp live).2).resolve_right dead).symm
  | write found =>
    obtain rfl := (Finmap.mem_insert.mp live).resolve_right dead
    exact absurd (Finmap.mem_of_lookup_eq_some found) dead

end Heaps
